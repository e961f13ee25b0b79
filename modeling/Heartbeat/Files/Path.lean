import Heartbeat.Failure

/-!
# Paths

A path is the text of a place in the file system, taken apart: how it is rooted,
and the names on the way.  Taking it apart drops what makes no difference, the
empty names between slashes and the names that stay where they are.  Going up is
kept, because where it leads depends on the file system.

A path that begins with a tilde is relative to a home directory, the caller's own
or that of an account.
-/

namespace Heartbeat

set_option autoImplicit false

/-- A path: the number of slashes it begins with, and its names. -/
structure Path where
  slashes : Nat
  names : List Text
deriving DecidableEq

/-- Where home directories are. -/
structure Homes where
  /-- The caller's own home directory. -/
  own : Text
  /-- The home directories of the accounts. -/
  accounts : List (Text × Text)

namespace Path

/-- The slash between names. -/
def slash : CodePoint := 0x2F

/-- The name of the directory itself. -/
def here : Text := "."

/-- The name of the directory above. -/
def above : Text := ".."

/-- The names in a text that lead somewhere. -/
def namesOf (text : Text) : List Text :=
  (Text.split slash text).filter fun name => !name.isEmpty && decide (name ≠ here)

/-- The path that a text writes.  Exactly two leading slashes are kept apart from
one; three or more are one. -/
def ofText (text : Text) : Path :=
  let leading := (text.takeWhile fun point => decide (point = slash)).length
  ⟨if leading = 0 then 0 else if leading = 2 then 2 else 1, namesOf text⟩

/-- The text of a path. -/
def toText (path : Path) : Text :=
  if path.slashes = 0 ∧ path.names.isEmpty then here
  else List.replicate path.slashes slash ++ Text.join [slash] path.names

/-- Whether a path starts at the root. -/
def isAbsolute (path : Path) : Bool := decide (path.slashes ≠ 0)

/-- The path without its last name. -/
def parent (path : Path) : Path := { path with names := path.names.dropLast }

/-! ## Texts for the system -/

/-- Checks that a text can be handed to the operating system: it has to have bytes,
none of them zero. -/
def checkText (text : Text) : Except Failure Unit :=
  match text.encodeNative with
  | .error run => .error (.surrogates run)
  | .ok bytes => if bytes.contains 0 then .error .embeddedNull else .ok ()

/-! ## Home directories -/

/-- The text of a home directory, without slashes at its end. -/
def homeText (text : Text) : Text :=
  match Text.dropEndWhile (fun point => decide (point = slash)) text with
  | [] => [slash]
  | trimmed => trimmed

/-- The home directory that a name with a tilde stands for. -/
def homeOf (homes : Homes) (name : Text) : Except Failure Text :=
  match name.drop 1 with
  | [] => .ok (homeText homes.own)
  | account => do
    checkText account
    match homes.accounts.find? fun (candidate, _) => decide (candidate = account) with
    | some (_, home) => return homeText home
    | none => throw .homeless

/-- A path with the home directory in place of a leading tilde. -/
def expandHome (homes : Homes) (path : Path) : Except Failure Path :=
  match path.isAbsolute, path.names with
  | false, name :: names =>
    if name.head? = some (CodePoint.ofChar '~') then do
      let home ← homeOf homes name
      if home.head? = some (CodePoint.ofChar '~') then throw .homeless
      let base := ofText home
      return { base with names := base.names ++ names }
    else return path
  | _, _ => return path

end Path

end Heartbeat
