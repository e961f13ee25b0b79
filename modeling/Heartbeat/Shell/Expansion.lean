import Heartbeat.Files.Surroundings
import Heartbeat.Shell.Pattern
import Heartbeat.Shell.State
import Heartbeat.Shell.Sum

/-!
# Expansion

Before a simple command runs, its words become fields.  Parameters, outputs and sums
are put in, what was put in without quotes is split at blanks, and a field that is a
pattern becomes the paths that it describes, if there are any.

Running the scripts whose outputs are put in is the business of whoever runs
commands, and is passed in here.
-/

namespace Heartbeat

set_option autoImplicit false

namespace Shell

/-- What a word turns into before it is split. -/
inductive Chunk where
  /-- A point that stood in the script. -/
  | written (mark : Mark)
  /-- A point that was put in without quotes. -/
  | inserted (point : CodePoint)
  /-- Quotes with nothing between them. -/
  | nothing
  /-- A border between fields. -/
  | border
deriving DecidableEq

namespace Chunk

/-- The chunks of a text that is put in. -/
def ofText (quoted : Bool) (text : Text) : List Chunk :=
  if quoted then text.map fun point => .written ⟨false, point⟩ else text.map .inserted

/-- The mark that a chunk is. -/
def mark? : Chunk → Option Mark
  | .written mark => some mark
  | .inserted point => some ⟨true, point⟩
  | _ => none

end Chunk

namespace Expansion

/-- The separators at which fields are split. -/
def separators (state : State) : Text := (state.value? "IFS").getD [0x20, 0x09, 0x0A]

/-- What is put between parameters that become one text. -/
def joiner (state : State) : Text := (separators state).take 1

/-! ## Parameters -/

/-- The values of several parameters, with borders between them, or joined to one text. -/
def several (quoted separate : Bool) (between : Text) (values : List Text) : List Chunk :=
  if quoted && !separate then Chunk.ofText true (Text.join between values)
  else match values with
    | [] => []
    | first :: rest =>
      (if quoted then [Chunk.nothing] else []) ++ Chunk.ofText quoted first
        ++ rest.flatMap fun value =>
          .border :: (if quoted then [Chunk.nothing] else []) ++ Chunk.ofText quoted value

/-- The value of a parameter that has one text. -/
def parameterValue (state : State) (name : Text) : Option Text :=
  if name.is "?" then some (Text.ofNat state.last)
  else if name.is "#" then some (Text.ofNat state.parameters.length)
  else if name.is "$" then some (Text.ofNat State.process)
  else if name.is "0" then some state.name
  else if name.is "-" then some (if state.strict then "e" else "")
  else if name.is "!" then
    match state.jobs with
    | [] => none
    | (number, _) :: _ => some (Text.ofNat number)
  else if name.is "@" || name.is "*" then
    if state.parameters.isEmpty then none else some (Text.join (joiner state) state.parameters)
  else if name.all CodePoint.isDigit then state.parameters[Text.digitsValue name - 1]?
  else state.value? name

/-- Whether a parameter may be without a value even where all have to have one. -/
def mayBeMissing (name : Text) : Bool := name.is "@" || name.is "*"

/-! ## Patterns in values -/

/-- The marks of chunks. -/
def marks (chunks : List Chunk) : List Mark := chunks.filterMap Chunk.mark?

/-- The text of chunks, with something between those of several parameters. -/
def textOf (between : Text) (chunks : List Chunk) : Text :=
  chunks.flatMap fun chunk => match chunk with
    | .border => between
    | chunk => (chunk.mark?.map Mark.point).toList

/-- A text without the shortest or the longest front that a pattern describes. -/
def withoutFront (pattern : Pattern) (longest : Bool) (text : Text) : Text :=
  let counts := List.range (text.length + 1)
  match (if longest then counts.reverse else counts).find? fun count =>
      pattern.describes (text.take count) with
  | some count => text.drop count
  | none => text

/-- A text without the shortest or the longest end that a pattern describes. -/
def withoutEnd (pattern : Pattern) (longest : Bool) (text : Text) : Text :=
  let counts := List.range (text.length + 1)
  match (if longest then counts else counts.reverse).find? fun count =>
      pattern.describes (text.drop count) with
  | some count => text.take count
  | none => text

/-! ## Pieces -/

/-- What is done with a parameter behind its name. -/
inductive Modifier where
  | none
  /-- One of the four marks for a value that is missing, or also for one that is
  empty, and a word. -/
  | ifMissing (orEmpty : Bool) (mark : CodePoint) (word : Text)
  /-- Removal of a front or an end. -/
  | without (front longest : Bool) (word : Text)
  | bad
deriving DecidableEq

/-- The modifier that a text writes. -/
def Modifier.ofText (text : Text) : Modifier :=
  match text with
  | [] => .none
  | first :: rest =>
    if first.val = 0x3A then
      match rest with
      | mark :: word =>
        if ((("-=?+" : Text) : List CodePoint).contains mark) then .ifMissing true mark word
        else .bad
      | [] => .bad
    else if ((("-=?+" : Text) : List CodePoint).contains first) then .ifMissing false first rest
    else if first.val = 0x23 then
      if rest.head? = some first then .without true true (rest.drop 1) else .without true false rest
    else if first.val = 0x25 then
      if rest.head? = some first then .without false true (rest.drop 1)
      else .without false false rest
    else .bad

/-- The number that a variable has in a sum. -/
def numberOf (state : State) (name : Text) : Option Int :=
  match state.value? name with
  | none => some 0
  | some text =>
    match text with
    | [] => some 0
    | first :: rest =>
      if first.val = 0x2D then (Sum.number? rest).map fun number => -(number : Int)
      else (Sum.number? text).map Int.ofNat

/-- The text without the line feeds at its end. -/
def withoutLineEnds (text : Text) : Text :=
  Text.dropEndWhile (fun point => decide (point = lineFeed)) text

/-- The text that some output is; what is no text is left out. -/
def ofOutput (output : Bytes) : Text :=
  ((Bytes.decode? output).getD []).filter fun point => point.val ≠ 0

mutual
/-- What a word turns into, as far as the measure goes. -/
def chunks (runScript : Text → Run Bytes) : Nat → Word → Run (List Chunk)
  | 0, _ => throw (.exit 2)
  | _ + 1, [] => return []
  | measure + 1, piece :: pieces => do
    let first ← chunksOf runScript measure piece
    let others ← chunks runScript measure pieces
    return first ++ others

/-- What a piece turns into. -/
def chunksOf (runScript : Text → Run Bytes) : Nat → Piece → Run (List Chunk)
  | 0, _ => throw (.exit 2)
  | measure + 1, piece => do
    match piece with
    | .point quoted point => return [.written ⟨!quoted, point⟩]
    | .nothing => return [.nothing]
    | .bad => throw (.exit 2)
    | .count quoted name => do
      let state ← get
      if mayBeMissing name then
        return Chunk.ofText quoted (Text.ofNat state.parameters.length)
      else match parameterValue state name with
        | some value => return Chunk.ofText quoted (Text.ofNat value.length)
        | none => if state.complete then throw (.exit 2) else return Chunk.ofText quoted "0"
    | .output quoted script => do
      let output ← runScript script
      return Chunk.ofText quoted (withoutLineEnds (ofOutput output))
    | .sum quoted expression => do
      match quotedWord expression with
      | none => throw (.exit 2)
      | some word => do
        let expanded ← chunks runScript measure word
        let state ← get
        match Sum.evaluate (numberOf state) (textOf (joiner state) expanded) with
        | some number => return Chunk.ofText quoted (Text.ofInt number)
        | none => throw (.exit 2)
    | .parameter quoted name modifier => do
      let state ← get
      let value := parameterValue state name
      let missing := fun (orEmpty : Bool) => match value with
        | none => true
        | some text => orEmpty && text.isEmpty
      let plainly : Run (List Chunk) :=
        if mayBeMissing name then
          return several quoted (name.is "@" || !quoted) (joiner state) state.parameters
        else match value with
          | some text => return Chunk.ofText quoted text
          | none => if state.complete then throw (.exit 2) else return []
      let expanded := fun (text : Text) => do
        match (if quoted then quotedWord text else wholeWord text) with
        | none => throw (.exit 2)
        | some word => chunks runScript measure word
      match Modifier.ofText modifier with
      | .none => plainly
      | .bad => throw (.exit 2)
      | .ifMissing orEmpty mark word =>
        if mark.val = 0x2D then if missing orEmpty then expanded word else plainly
        else if mark.val = 0x2B then if missing orEmpty then return [] else expanded word
        else if mark.val = 0x3D then
          if missing orEmpty then do
            let text := textOf (joiner state) (← expanded word)
            if isName name then do
              assign name text
              return Chunk.ofText quoted text
            else throw (.exit 2)
          else plainly
        else if missing orEmpty then throw (.exit 2)
        else plainly
      | .without front longest word => do
        match wholeWord word with
        | none => throw (.exit 2)
        | some word => do
          let pattern := Pattern.ofMarks (marks (← chunks runScript measure word))
          let text := value.getD []
          return Chunk.ofText quoted
            (if front then withoutFront pattern longest text else withoutEnd pattern longest text)
end

/-! ## Fields -/

/-- Fields in the making: those that are finished, and the one that was begun. -/
structure Fields where
  finished : List (List Mark)
  begun : Option (List Mark)

namespace Fields

/-- The fields with the one that was begun finished. -/
def closed (fields : Fields) : Fields :=
  match fields.begun with
  | some marks => ⟨fields.finished ++ [marks], none⟩
  | none => fields

/-- The fields with a mark at the end of the one that was begun. -/
def add (fields : Fields) (mark : Mark) : Fields :=
  { fields with begun := some (fields.begun.getD [] ++ [mark]) }

/-- The fields after one more chunk.  Blanks among the separators only part fields;
any other separator ends one, even an empty one. -/
def take (separators : Text) (fields : Fields) : Chunk → Fields
  | .written mark => fields.add mark
  | .nothing => { fields with begun := some (fields.begun.getD []) }
  | .border => fields.closed
  | .inserted point =>
    if separators.contains point then
      if isGap point || point = lineFeed then fields.closed
      else ⟨fields.finished ++ [fields.begun.getD []], none⟩
    else fields.add ⟨true, point⟩

end Fields

/-- The fields that chunks make up. -/
def fields (separators : Text) (chunks : List Chunk) : List (List Mark) :=
  (chunks.foldl (Fields.take separators) ⟨[], none⟩).closed.finished

/-! ## Paths -/

/-- The pieces of marks between slashes. -/
def splitMarks : List Mark → List (List Mark)
  | [] => [[]]
  | mark :: rest =>
    if mark.point = Path.slash then [] :: splitMarks rest
    else match splitMarks rest with
      | [] => [[mark]]
      | piece :: pieces => (mark :: piece) :: pieces

/-- Whether a name is one that a pattern describes.  A name that begins with a point is
described only by a pattern that does. -/
def isDescribed (pattern : Pattern) (name : Text) : Bool :=
  pattern.describes name
    && (name.head? != some (CodePoint.ofChar '.')
      || pattern.head? == some (.exactly (CodePoint.ofChar '.')))

/-- The paths that patterns for their names describe, from a directory; `path` is the
text of the way to it. -/
def pathsFrom (tree : FileTree) : Text → List Pattern → List Text
  | path, [] => [path]
  | path, pattern :: patterns =>
    let separator := if patterns.isEmpty then [] else [Path.slash]
    if pattern.isGeneral then
      let directory := if path.isEmpty then Path.here else path
      match tree.entryAt directory with
      | .ok (location, .directory) =>
        ((tree.names location).filter (isDescribed pattern)).flatMap fun name =>
          pathsFrom tree (path ++ name ++ separator) patterns
      | _ => []
    else
      let name := pattern.filterMap fun part => match part with
        | .exactly point => some point
        | _ => none
      let path := path ++ name
      if name.isEmpty then pathsFrom tree (path ++ separator) patterns
      else match tree.entryAt path with
        | .ok _ => pathsFrom tree (path ++ separator) patterns
        | .error _ => []

/-- The texts that a field stands for. -/
def paths (state : State) (field : List Mark) : List Text :=
  let text := field.map Mark.point
  let patterns := (splitMarks field).map Pattern.ofMarks
  if state.literal || !patterns.any Pattern.isGeneral then [text]
  else match pathsFrom state.files [] patterns with
    | [] => [text]
    | found => found

/-! ## Home directories -/

/-- The points of a word up to a slash, if none of them is quoted, and what follows
them. -/
def accountFrom : Word → Option (Text × Word)
  | [] => some ([], [])
  | .point false next :: rest =>
    if next = Path.slash then some ([], .point false next :: rest)
    else (accountFrom rest).map fun (account, rest) => (next :: account, rest)
  | _ => none

/-- The home directory of an account; without a name it is one's own. -/
def homeOf? (state : State) (account : Text) : Option Text :=
  if account.isEmpty then state.value? "HOME"
  else (Homes.standard []).accounts.findSome? fun (name, home) =>
    if name = account then some home else none

/-- A word with a home directory in place of a tilde at its front and the account behind
it. -/
def atHome (state : State) (word : Word) : Word :=
  match word with
  | .point false tilde :: rest =>
    if tilde = CodePoint.ofChar '~' then
      match (accountFrom rest).bind fun (account, rest) =>
        (homeOf? state account).map fun home => (home, rest) with
      | some (home, rest) => home.map (Piece.point true) ++ rest
      | none => word
    else word
  | _ => word

/-- How deep words may be nested. -/
def depth (word : Word) : Nat := 4 * word.length + 1000

/-- The fields of a word. -/
def fieldsOf (runScript : Text → Run Bytes) (word : Word) : Run (List Text) := do
  let word := atHome (← get) word
  let expanded ← chunks runScript (depth word) word
  let state ← get
  return (fields (separators state) expanded).flatMap (paths state)

/-- The one text of a word. -/
def text (runScript : Text → Run Bytes) (word : Word) : Run Text := do
  let state ← get
  let word := atHome state word
  return textOf (joiner state) (← chunks runScript (depth word) word)

/-- The pattern of a word. -/
def pattern (runScript : Text → Run Bytes) (word : Word) : Run Pattern := do
  let word := atHome (← get) word
  return Pattern.ofMarks (marks (← chunks runScript (depth word) word))

end Expansion

end Shell

end Heartbeat
