import Heartbeat.Settings.EnvironmentFile
import Mathlib.Data.List.Infix

/-!
# Documents

A document is an environment file in the parts that it is written in.  Each of its lines is
empty but for blanks and a comment, or it declares a variable, perhaps with a value.  No
value goes on to a next line, and none refers to another variable.  The lines end in a line
feed, with or without a carriage return in front of it, and the last one may be without an
end.

Every part carries what makes it readable, so that there is no document that is not.
-/

namespace Heartbeat

set_option autoImplicit false

namespace EnvironmentFile

/-! ## Parts of a line -/

/-- What may stand in a line. -/
def isInLine (point : CodePoint) : Bool :=
  decide (point ≠ lineFeed) && decide (point ≠ carriageReturn)

/-- Blanks within a line. -/
abbrev Blanks := { text : Text // ∀ point ∈ text, isLineBlank point = true }

/-- A text within a line. -/
abbrev InLine := { text : Text // ∀ point ∈ text, isInLine point = true }

/-- Blanks and perhaps a comment, which take the rest of a line. -/
structure Trail where
  blanks : Blanks
  comment : Option InLine

/-- The text of a comment. -/
def commentText : Option InLine → Text
  | none => []
  | some words => hash :: words.val

/-- The text of the rest of a line. -/
def Trail.text (trail : Trail) : Text := trail.blanks.val ++ commentText trail.comment

/-- What ends a name that stands without quotes. -/
def endsName (point : CodePoint) : Bool :=
  decide (point = equalsSign) || decide (point = hash) || point.isBlank

/-- A name, as it is written.  The word `export` is none. -/
inductive Name where
  | plain (name : Text) (nonempty : name ≠ []) (within : ∀ point ∈ name, endsName point = false)
    (unquoted : name.head? ≠ some CodePoint.singleQuote)
    (unmarked : name.head? ≠ some encodingMark) (other : name ≠ Text.ofString "export")
  | quoted (name : InLine) (nonempty : name.val ≠ []) (within : CodePoint.singleQuote ∉ name.val)

namespace Name

/-- The name itself. -/
def meaning : Name → Text
  | plain name .. => name
  | quoted name .. => name.val

/-- The name as it is written. -/
def text : Name → Text
  | plain name .. => name
  | quoted name .. => CodePoint.singleQuote :: name.val ++ [CodePoint.singleQuote]

end Name

/-- A piece of what stands between quotes: a point that is itself, an escape, or a
backslash that is kept because nothing is escaped by it. -/
inductive Piece (mark : CodePoint) where
  | plain (point : CodePoint) (inside : isInLine point = true) (other : point ≠ mark)
    (straight : point ≠ CodePoint.backslash)
  | escape (letter meant : CodePoint) (inside : isInLine letter = true)
    (known : escape? mark letter = some meant)
  | kept (letter : CodePoint) (inside : isInLine letter = true)
    (unknown : escape? mark letter = none)

namespace Piece

variable {mark : CodePoint}

/-- What a piece stands for. -/
def meaning : Piece mark → Text
  | plain point .. => [point]
  | escape _ meant .. => [meant]
  | kept letter .. => [CodePoint.backslash, letter]

/-- A piece as it is written. -/
def text : Piece mark → Text
  | plain point .. => [point]
  | escape letter .. => [CodePoint.backslash, letter]
  | kept letter .. => [CodePoint.backslash, letter]

end Piece

/-- No comment begins in a text: there is no hash sign behind a blank. -/
def Uncommented (text : Text) : Prop :=
  ∀ point, point.isBlank = true → ¬ [point, hash] <:+: text

/-- What stands behind an equals sign: a text that is taken as it is, or one between
quotes. -/
inductive Content where
  | literal (gap : Blanks) (text : InLine)
    (first : ∀ point ∈ text.val.head?, point.isBlank = false
      ∧ point ≠ CodePoint.singleQuote ∧ point ≠ CodePoint.doubleQuote)
    (last : ∀ point ∈ text.val.getLast?, point.isBlank = false)
    (uncommented : Uncommented (gap.val ++ text.val))
  | quoted (gap : Blanks) (mark : CodePoint)
    (quotes : mark = CodePoint.singleQuote ∨ mark = CodePoint.doubleQuote)
    (pieces : List (Piece mark))

namespace Content

/-- The value. -/
def meaning : Content → Text
  | literal _ text .. => text.val
  | quoted _ _ _ pieces => pieces.flatMap Piece.meaning

/-- The value as it is written. -/
def text : Content → Text
  | literal gap text .. => gap.val ++ text.val
  | quoted gap mark _ pieces => gap.val ++ mark :: pieces.flatMap Piece.text ++ [mark]

/-- The value stands without quotes. -/
def IsLiteral : Content → Prop
  | literal .. => True
  | quoted .. => False

end Content

/-- What begins a reference to a variable. -/
def reference : Text := "$\x7b"

/-- A declaration: a name and perhaps a value, the word `export` before them or not. -/
structure Declaration where
  exported : Option Blanks
  name : Name
  /-- The blanks before the equals sign and what is behind it. -/
  value : Option (Blanks × Content)
  trail : Trail
  separate : ∀ blanks ∈ exported, blanks.val ≠ []
  constant : ∀ content ∈ value, ¬ reference <:+: content.2.meaning
  /-- There is a blank between a value without quotes and a comment. -/
  apart : ∀ content ∈ value, content.2.IsLiteral → trail.comment ≠ none → trail.blanks.val ≠ []

namespace Declaration

/-- The variable that is declared, with its value if it has one. -/
def declared (declaration : Declaration) : Text × Option Text :=
  (declaration.name.meaning, declaration.value.map fun content => content.2.meaning)

/-- The word before a name. -/
def exportText : Option Blanks → Text
  | none => []
  | some blanks => Text.ofString "export" ++ blanks.val

/-- A value with the equals sign before it. -/
def valueText : Option (Blanks × Content) → Text
  | none => []
  | some (before, content) => before.val ++ equalsSign :: content.text

/-- A declaration as it is written. -/
def text (declaration : Declaration) : Text :=
  exportText declaration.exported ++ (declaration.name.text
    ++ (valueText declaration.value ++ declaration.trail.text))

end Declaration

/-! ## Documents -/

/-- A line. -/
inductive Line where
  | empty (trail : Trail)
  | declares (indent : Blanks) (declaration : Declaration)

namespace Line

/-- The line as it is written. -/
def text : Line → Text
  | empty trail => trail.text
  | declares indent declaration => indent.val ++ declaration.text

/-- What the line declares, if anything. -/
def declared? : Line → Option (Text × Option Text)
  | empty _ => none
  | declares _ declaration => some declaration.declared

end Line

/-- What ends a line. -/
inductive LineEnd where
  | feed
  | returnAndFeed

/-- The end of a line as it is written. -/
def LineEnd.text : LineEnd → Text
  | feed => [lineFeed]
  | returnAndFeed => [carriageReturn, lineFeed]

/-- An environment file, in the parts that it is written in. -/
structure Document where
  marked : Bool
  lines : List (Line × LineEnd)
  /-- The line without an end; it may well be empty. -/
  last : Line

namespace Document

/-- The lines of a document, their ends left out. -/
def allLines (document : Document) : List Line := document.lines.map Prod.fst ++ [document.last]

/-- What the lines declare, from the first to the last. -/
def declared (document : Document) : List (Text × Option Text) :=
  document.allLines.filterMap Line.declared?

/-- The document as it is written. -/
def text (document : Document) : Text :=
  (if document.marked then [encodingMark] else [])
    ++ (document.lines.flatMap (fun line => line.1.text ++ line.2.text) ++ document.last.text)

end Document

/-! ## Blanks -/

theorem isLineBlank_lineFeed : isLineBlank lineFeed = false := by decide

theorem isLineBlank_hash : isLineBlank hash = false := by decide

theorem isBlank_of_isLineBlank {point : CodePoint} (blank : isLineBlank point = true) :
    point.isBlank = true := by
  simp only [isLineBlank, Bool.and_eq_true] at blank
  exact blank.1.1

/-- Blanks within a line are in it. -/
theorem isInLine_of_isLineBlank {point : CodePoint} (blank : isLineBlank point = true) :
    isInLine point = true := by
  simp only [isLineBlank, Bool.and_eq_true] at blank
  simp only [isInLine, Bool.and_eq_true]
  exact ⟨blank.1.2, blank.2⟩

/-- A point of a line that is blank is a blank within a line. -/
theorem isLineBlank_of_isInLine {point : CodePoint} (inside : isInLine point = true) :
    isLineBlank point = point.isBlank := by
  simp only [isInLine, Bool.and_eq_true] at inside
  rw [isLineBlank, inside.1, inside.2, Bool.and_true, Bool.and_true]

/-- What is not blank is in a line. -/
theorem isInLine_of_not_isBlank {point : CodePoint} (full : point.isBlank = false) :
    isInLine point = true := by
  rw [isInLine, Bool.and_eq_true, decide_eq_true_iff, decide_eq_true_iff]
  constructor <;> (rintro rfl; exact absurd full (by decide))

/-! ## Parts are in their line -/

theorem Trail.isInLine_of_mem {trail : Trail} {point : CodePoint} (member : point ∈ trail.text) :
    isInLine point = true := by
  obtain ⟨blanks, comment⟩ := trail
  rcases List.mem_append.mp member with blank | commented
  · exact isInLine_of_isLineBlank (blanks.property point blank)
  · cases comment with
    | none => cases commented
    | some words =>
        rcases List.mem_cons.mp commented with rfl | inside
        · decide
        · exact words.property point inside

theorem Name.isInLine_of_mem {name : Name} {point : CodePoint} (member : point ∈ name.text) :
    isInLine point = true := by
  cases name with
  | plain name _ within =>
      have inside := within point member
      simp only [endsName, Bool.or_eq_false_iff] at inside
      exact isInLine_of_not_isBlank inside.2
  | quoted name =>
      simp only [text, List.cons_append, List.mem_cons, List.mem_append, List.not_mem_nil,
        or_false] at member
      rcases member with rfl | inside | rfl
      · decide
      · exact name.property point inside
      · decide

theorem Piece.isInLine_of_mem {mark : CodePoint} {piece : Piece mark} {point : CodePoint}
    (member : point ∈ piece.text) : isInLine point = true := by
  cases piece with
  | plain other inside =>
      obtain rfl := List.mem_singleton.mp member
      exact inside
  | escape letter _ inside | kept letter inside =>
      rcases List.mem_pair.mp member with rfl | rfl
      · decide
      · exact inside

theorem Content.isInLine_of_mem {content : Content} {point : CodePoint}
    (member : point ∈ content.text) : isInLine point = true := by
  cases content with
  | literal gap text =>
      rcases List.mem_append.mp member with blank | inside
      · exact isInLine_of_isLineBlank (gap.property point blank)
      · exact text.property point inside
  | quoted gap mark quotes pieces =>
      have around : isInLine mark = true := by
        rcases quotes with rfl | rfl <;> decide
      simp only [text, List.append_assoc, List.mem_append, List.cons_append, List.mem_cons,
        List.not_mem_nil, or_false, List.mem_flatMap] at member
      rcases member with blank | rfl | ⟨piece, _, inside⟩ | rfl
      · exact isInLine_of_isLineBlank (gap.property point blank)
      · exact around
      · exact piece.isInLine_of_mem inside
      · exact around

theorem Declaration.isInLine_of_mem {declaration : Declaration} {point : CodePoint}
    (member : point ∈ declaration.text) : isInLine point = true := by
  obtain ⟨exported, name, value, trail, _, _, _⟩ := declaration
  simp only [text, List.mem_append] at member
  rcases member with word | named | given | trailing
  · cases exported with
    | none => cases word
    | some blanks =>
        rcases List.mem_append.mp word with letter | blank
        · have each : (Text.ofString "export").all isInLine = true := by decide
          exact List.all_eq_true.mp each point letter
        · exact isInLine_of_isLineBlank (blanks.property point blank)
  · exact name.isInLine_of_mem named
  · cases value with
    | none => cases given
    | some content =>
        simp only [valueText, List.mem_append, List.mem_cons] at given
        rcases given with blank | rfl | inside
        · exact isInLine_of_isLineBlank (content.1.property point blank)
        · decide
        · exact content.2.isInLine_of_mem inside
  · exact trail.isInLine_of_mem trailing

theorem Line.isInLine_of_mem {line : Line} {point : CodePoint} (member : point ∈ line.text) :
    isInLine point = true := by
  cases line with
  | empty trail => exact trail.isInLine_of_mem member
  | declares indent declaration =>
      rcases List.mem_append.mp member with blank | inside
      · exact isInLine_of_isLineBlank (indent.property point blank)
      · exact declaration.isInLine_of_mem inside

end EnvironmentFile

end Heartbeat
