import Heartbeat.Files.Path

/-!
# The tree of files

The file system as far as a heartbeat can tell: directories, regular files with
their contents, and two devices, one that forgets what it is given and one that
takes nothing.  Every entry has a location, the names from the root down to it,
and relative paths start at the working directory.

Following a path may fail, and the faults are those of the operating system:
a missing name, a name below something that is no directory, a name that is too
long.  A name is too long before it is missing.
-/

namespace Heartbeat

set_option autoImplicit false

/-- A device. -/
inductive Device where
  /-- Forgets everything. -/
  | null
  /-- Takes nothing. -/
  | full
deriving DecidableEq

/-- What is at a location. -/
inductive FileEntry where
  | directory
  | file (content : Bytes)
  | device (device : Device)
deriving DecidableEq

/-- The names from the root down to an entry. -/
abbrev Location := List Text

/-- A file system with a working directory. -/
structure FileTree where
  entries : List (Location × FileEntry)
  workingDirectory : Location
  /-- Where the files are that can be executed. -/
  executables : List Location := []

namespace FileTree

/-! ## Entries -/

/-- The entry in a list at a location. -/
def find? (location : Location) : List (Location × FileEntry) → Option FileEntry
  | [] => none
  | (place, entry) :: entries =>
    if place = location then some entry else find? location entries

/-- The list with the entry at a location replaced or added. -/
def replace (location : Location) (entry : FileEntry) :
    List (Location × FileEntry) → List (Location × FileEntry)
  | [] => [(location, entry)]
  | (place, former) :: entries =>
    if place = location then (place, entry) :: entries
    else (place, former) :: replace location entry entries

/-- The entry at a location.  The root is always a directory. -/
def lookup? (tree : FileTree) (location : Location) : Option FileEntry :=
  if location.isEmpty then some .directory else find? location tree.entries

/-- The tree with an entry at a location. -/
def put (tree : FileTree) (location : Location) (entry : FileEntry) : FileTree :=
  { tree with entries := replace location entry tree.entries }

/-- The content of the regular file at a location. -/
def content? (tree : FileTree) (location : Location) : Option Bytes :=
  match tree.lookup? location with
  | some (.file content) => some content
  | _ => none

/-- Whether the file at a location can be executed. -/
def isExecutable (tree : FileTree) (location : Location) : Bool :=
  tree.executables.contains location

/-- The tree with bytes at the end of the regular file at a location. -/
def appendTo (tree : FileTree) (location : Location) (data : Bytes) : FileTree :=
  match tree.content? location with
  | some content => tree.put location (.file (content ++ data))
  | none => tree

/-! ## Following paths -/

/-- The number of bytes that a name may have. -/
def nameLimit : Nat := 255

/-- The number of bytes that a path may have. -/
def pathLimit : Nat := 4095

/-- The directory that names lead to from a directory. -/
def enter (tree : FileTree) : Location → List Text → Except FileFault Location
  | location, [] => .ok location
  | location, name :: names =>
    if name = Path.above then enter tree location.dropLast names
    else if nameLimit < name.nativeBytes.length then .error .nameTooLong
    else match tree.lookup? (location ++ [name]) with
      | some .directory => enter tree (location ++ [name]) names
      | some _ => .error .notADirectory
      | none => .error .notFound

/-- Where a path starts. -/
def start (tree : FileTree) (path : Path) : Location :=
  if path.isAbsolute then [] else tree.workingDirectory

/-- The location of the last name of a path in the directory it leads to; a path
that ends by going up, or that has no names, leads to a directory that is there
already. -/
def locate (tree : FileTree) (path : Path) : Except FileFault (Location × Option Text) :=
  if pathLimit < path.toText.nativeBytes.length then .error .nameTooLong
  else match path.names.getLast? with
    | none => .ok (tree.start path, none)
    | some name => do
      let directory ← tree.enter (tree.start path) path.names.dropLast
      if name = Path.above then return (directory.dropLast, none)
      else if nameLimit < name.nativeBytes.length then throw .nameTooLong
      else return (directory, some name)

/-- Whether a path leads to a directory. -/
def isDirectory (tree : FileTree) (path : Path) : Bool :=
  match tree.enter (tree.start path) path.names with
  | .ok _ => true
  | .error _ => false

/-! ## Directories -/

/-- The tree with a new directory at a path. -/
def makeDirectory (tree : FileTree) (path : Path) : Except FileFault FileTree := do
  match (← tree.locate path) with
  | (_, none) => throw .alreadyExists
  | (directory, some name) =>
    match tree.lookup? (directory ++ [name]) with
    | some _ => throw .alreadyExists
    | none => return tree.put (directory ++ [name]) .directory

/-- Makes the directory at a path unless it is there; the directory above has to
be there. -/
def makeLastDirectory (tree : FileTree) (path : Path) : Except FileFault FileTree :=
  match tree.makeDirectory path with
  | .ok tree => .ok tree
  | .error fault =>
    if fault ≠ .notFound ∧ tree.isDirectory path then .ok tree else .error fault

/-- Makes the directory at a path together with the missing ones above it.  The
names are given from the last to the first.  What was made before a failure
stays. -/
def makeDirectories (tree : FileTree) (slashes : Nat) :
    List Text → Except Failure Unit × FileTree
  | [] => (.ok (), tree)
  | name :: above =>
    let path : Path := ⟨slashes, (name :: above).reverse⟩
    match Path.checkText path.toText with
    | .error failure => (.error failure, tree)
    | .ok () =>
      match tree.makeLastDirectory path with
      | .ok tree => (.ok (), tree)
      | .error .notFound =>
        match makeDirectories tree slashes above with
        | (.error failure, tree) => (.error failure, tree)
        | (.ok (), tree) =>
          match tree.makeLastDirectory path with
          | .ok tree => (.ok (), tree)
          | .error fault => (.error (.file fault path.toText), tree)
      | .error fault => (.error (.file fault path.toText), tree)

/-! ## Listing -/

/-- Whether a location is below a directory, and the names from there. -/
def below? (directory location : Location) : Option (List Text) :=
  if directory.isPrefixOf location ∧ directory.length < location.length then
    some (location.drop directory.length)
  else none

/-- What is below the working directory: for every entry the names from there and
the content, directories having none. -/
def listing (tree : FileTree) : List (List Text × Option Bytes) :=
  tree.entries.filterMap fun (location, entry) =>
    (below? tree.workingDirectory location).map fun names =>
      match entry with
      | .file content => (names, some content)
      | _ => (names, none)

/-! ## Laws -/

/-- A list of entries after a replacement has the new entry at its place. -/
theorem find?_replace (location place : Location) (entry : FileEntry)
    (entries : List (Location × FileEntry)) :
    find? place (replace location entry entries)
      = if location = place then some entry else find? place entries := by
  induction entries with
  | nil => simp [replace, find?]
  | cons former entries hypothesis =>
    obtain ⟨formerPlace, formerEntry⟩ := former
    by_cases here : formerPlace = location
    · subst here
      by_cases same : formerPlace = place <;> simp [replace, find?, same]
    · by_cases same : formerPlace = place
      · subst same
        have other : ¬ location = formerPlace := fun equal => here equal.symm
        simp [replace, find?, here, other]
      · simp [replace, find?, here, same, hypothesis]

/-- Putting an entry changes what is at its location and nothing else. -/
theorem lookup?_put (tree : FileTree) (location place : Location) (entry : FileEntry)
    (place_ne : place ≠ []) :
    (tree.put location entry).lookup? place
      = if location = place then some entry else tree.lookup? place := by
  cases place with
  | nil => exact absurd rfl place_ne
  | cons name names => simp [lookup?, put, find?_replace]

end FileTree

end Heartbeat
