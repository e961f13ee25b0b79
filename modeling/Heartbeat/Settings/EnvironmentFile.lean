import Heartbeat.Text.Blank
import Heartbeat.Text.Quoted

/-!
# Environment files

An environment file has one entry to a line: a name, an equals sign and a value,
perhaps after the word `export`.  Blank lines and comments are passed over.  A
value is taken literally up to the end of the line or up to a comment behind a
blank, or it is quoted; between single quotes only the quote and the backslash can
be escaped, between double quotes the usual controls as well.  An entry without an equals
sign has a name but no value.  A line that is none of this is skipped.

Reading goes line by line from the front and always gets shorter, so the length
of the file bounds it.
-/

namespace Heartbeat

set_option autoImplicit false

namespace EnvironmentFile

/-! ## Classes -/

/-- The line feed. -/
def lineFeed : CodePoint := 0x0A

/-- The carriage return. -/
def carriageReturn : CodePoint := 0x0D

/-- The hash sign, which begins a comment. -/
def hash : CodePoint := 0x23

/-- The equals sign. -/
def equalsSign : CodePoint := 0x3D

/-- A blank within a line. -/
def isLineBlank (point : CodePoint) : Bool :=
  point.isBlank && decide (point ≠ lineFeed) && decide (point ≠ carriageReturn)

/-- Every line end becomes a line feed. -/
def normalize : Text → Text
  | [] => []
  | [point] => [if point = carriageReturn then lineFeed else point]
  | point :: next :: rest =>
    if point = carriageReturn then
      if next = lineFeed then lineFeed :: normalize rest
      else lineFeed :: normalize (next :: rest)
    else point :: normalize (next :: rest)

/-- A text from its next line on. -/
def nextLine (text : Text) : Text := (text.dropWhile fun point => decide (point ≠ lineFeed)).drop 1

/-! ## Quoted values -/

/-- A quoted text up to its closing quote, escapes still in it, and what follows.
What stands behind a backslash never closes the text. -/
def quotedText (mark : CodePoint) : Text → Option (Text × Text)
  | [] => none
  | [point] => if point = mark then some ([], []) else none
  | point :: next :: rest =>
    if point = mark then some ([], next :: rest)
    else if point = CodePoint.backslash then
      (quotedText mark rest).map fun (text, after) => (point :: next :: text, after)
    else (quotedText mark (next :: rest)).map fun (text, after) => (point :: text, after)

/-- What a letter behind a backslash stands for. -/
def escape? (mark letter : CodePoint) : Option CodePoint :=
  if letter = CodePoint.backslash || letter = CodePoint.singleQuote then some letter
  else if mark = CodePoint.singleQuote then none
  else if letter = CodePoint.doubleQuote then some letter
  else if letter = CodePoint.ofChar 'a' then some 0x07
  else if letter = CodePoint.ofChar 'b' then some 0x08
  else if letter = CodePoint.ofChar 'f' then some 0x0C
  else if letter = CodePoint.ofChar 'n' then some 0x0A
  else if letter = CodePoint.ofChar 'r' then some 0x0D
  else if letter = CodePoint.ofChar 't' then some 0x09
  else if letter = CodePoint.ofChar 'v' then some 0x0B
  else none

/-- A quoted text with its escapes replaced. -/
def unescape (mark : CodePoint) : Text → Text
  | [] => []
  | [point] => [point]
  | point :: letter :: rest =>
    match (if point = CodePoint.backslash then escape? mark letter else none) with
    | some meant => meant :: unescape mark rest
    | none => point :: unescape mark (letter :: rest)

/-! ## Literal values -/

/-- A text without a comment that stands behind a blank. -/
def withoutComment : Text → Text
  | [] => []
  | point :: rest =>
    if point.isBlank && (rest.dropWhile CodePoint.isBlank).head? == some hash then []
    else point :: withoutComment rest

/-- The value that the rest of a line is.  The blanks in front of it do not belong to
it, but a comment may begin behind them. -/
def literalValue (line : Text) : Text :=
  (Text.dropEndWhile CodePoint.isBlank (withoutComment line)).dropWhile isLineBlank

/-! ## Entries -/

/-- An entry: its name, absent in a comment, and its value, absent without an equals
sign. -/
structure Entry where
  name : Option Text
  value : Option Text

/-- A text without a leading word `export` and the blanks behind it. -/
def withoutExport (text : Text) : Text :=
  match Text.after? "export" text with
  | some rest =>
    match rest with
    | next :: _ => if isLineBlank next then rest.dropWhile isLineBlank else text
    | [] => text
  | none => text

/-- The name of an entry and what follows it, or where reading it failed. -/
def readName (text : Text) : Except Text (Option Text × Text) :=
  match text with
  | [] => .error text
  | point :: rest =>
    if point = hash then .ok (none, text)
    else if point = CodePoint.singleQuote then
      match Text.cut? CodePoint.singleQuote rest with
      | some (name, after) => if name.isEmpty then .error text else .ok (some name, after)
      | none => .error text
    else
      let ends := fun (point : CodePoint) =>
        decide (point = equalsSign) || decide (point = hash) || point.isBlank
      let name := text.takeWhile fun point => !ends point
      if name.isEmpty then .error text
      else .ok (some name, text.dropWhile fun point => !ends point)

/-- The value behind an equals sign and what follows it, or where reading it
failed. -/
def readContent (text : Text) : Except Text (Text × Text) :=
  match text.dropWhile isLineBlank with
  | [] => .ok ([], [])
  | point :: rest =>
    if point = CodePoint.singleQuote || point = CodePoint.doubleQuote then
      match quotedText point rest with
      | some (content, after) => .ok (unescape point content, after)
      | none => .error text
    else
      let inLine := fun (point : CodePoint) => decide (point ≠ lineFeed)
      .ok (literalValue (text.takeWhile inLine), text.dropWhile inLine)

/-- The value of an entry, if an equals sign follows, and what follows it. -/
def readValue (text : Text) : Except Text (Option Text × Text) :=
  match text with
  | point :: rest =>
    if point = equalsSign then do
      let (content, after) ← readContent rest
      return (some content, after)
    else .ok (none, text)
  | [] => .ok (none, text)

/-- The text behind the end of a line, before which only blanks and a comment may
stand, or where something else stands. -/
def readLineEnd (text : Text) : Except Text Text :=
  match text.dropWhile isLineBlank with
  | [] => .ok []
  | point :: rest =>
    if point = lineFeed then .ok rest
    else if point = hash then .ok (nextLine rest)
    else .error text

/-- One entry and what follows it, or where reading it failed. -/
def readEntry (text : Text) : Except Text (Entry × Text) := do
  let (name, rest) ← readName (withoutExport text)
  let (value, rest) ← readValue (rest.dropWhile isLineBlank)
  let rest ← readLineEnd rest
  return (⟨name, value⟩, rest)

/-- The entries of a text, line by line.  Where reading fails the rest of the line
is skipped. -/
def readEntries : Nat → Text → List Entry
  | 0, _ => []
  | measure + 1, text =>
    match text.dropWhile CodePoint.isBlank with
    | [] => []
    | point :: rest =>
      match readEntry (point :: rest) with
      | .ok (entry, rest) => entry :: readEntries measure rest
      | .error rest => readEntries measure (nextLine rest)

/-- The mark by which a file says how it is encoded. -/
def encodingMark : CodePoint := 0xFEFF

/-- A text without the mark at its front. -/
def withoutMark : Text → Text
  | [] => []
  | point :: rest => if point = encodingMark then rest else point :: rest

/-- The entries of an environment file. -/
def entries (text : Text) : List Entry :=
  let text := normalize (withoutMark text)
  readEntries (text.length + 1) text

/-! ## Names and values -/

/-- A list of variables with one set: a known name keeps its place. -/
def set (name : Text) (value : Option Text) :
    List (Text × Option Text) → List (Text × Option Text)
  | [] => [(name, value)]
  | (candidate, former) :: others =>
    if candidate = name then (candidate, value) :: others
    else (candidate, former) :: set name value others

/-- The variables that a file sets, each name once. -/
def assignments (text : Text) : List (Text × Option Text) :=
  (entries text).foldl
    (fun former entry => match entry.name with
      | some name => set name entry.value former
      | none => former)
    []

end EnvironmentFile

end Heartbeat
