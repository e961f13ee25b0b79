import Heartbeat.Text

/-!
# Patterns

A pattern describes texts point by point.  A question mark stands for any point, an
asterisk for any number of them, and brackets for one of several; a point that is
quoted stands for itself.
-/

namespace Heartbeat

set_option autoImplicit false

namespace Shell

/-- A point, and whether it may have a meaning of its own in a pattern. -/
structure Mark where
  active : Bool
  point : CodePoint
deriving DecidableEq

/-- A part of a pattern. -/
inductive PatternPart where
  | exactly (point : CodePoint)
  | any
  | several
  /-- One of some ranges, or none of them. -/
  | oneOf (negated : Bool) (ranges : List (CodePoint × CodePoint))
deriving DecidableEq

/-- A pattern. -/
abbrev Pattern := List PatternPart

namespace Pattern

/-! ## Reading -/

/-- Whether a mark is an active point with a given number. -/
def isActive (mark : Mark) (number : Nat) : Bool := mark.active && decide (mark.point.val = number)

/-- The ranges between brackets. -/
def ranges : List Mark → List (CodePoint × CodePoint)
  | [] => []
  | [mark] => [(mark.point, mark.point)]
  | [first, second] => [(first.point, first.point), (second.point, second.point)]
  | first :: second :: third :: rest =>
    if isActive second 0x2D then (first.point, third.point) :: ranges rest
    else (first.point, first.point) :: ranges (second :: third :: rest)

/-- What stands between brackets and behind them, the opening one being gone.  A closing
bracket that comes first is one of the points. -/
def bracketed? (marks : List Mark) : Option (PatternPart × List Mark) :=
  let negated := match marks with
    | mark :: _ => isActive mark 0x21 || isActive mark 0x5E
    | [] => false
  let inner := if negated then marks.drop 1 else marks
  let first := inner.take 1
  let others := (inner.drop 1).takeWhile fun mark => !isActive mark 0x5D
  match (inner.drop 1).drop others.length with
  | [] => none
  | _ :: rest => some (.oneOf negated (ranges (first ++ others)), rest)

/-- The pattern that marks write, as far as the measure goes. -/
def ofMarksFrom : Nat → List Mark → Pattern
  | 0, _ => []
  | _ + 1, [] => []
  | measure + 1, mark :: rest =>
    if isActive mark 0x2A then .several :: ofMarksFrom measure rest
    else if isActive mark 0x3F then .any :: ofMarksFrom measure rest
    else if isActive mark 0x5B then
      match bracketed? rest with
      | some (part, rest) => part :: ofMarksFrom measure rest
      | none => .exactly mark.point :: ofMarksFrom measure rest
    else .exactly mark.point :: ofMarksFrom measure rest

/-- The pattern that marks write. -/
def ofMarks (marks : List Mark) : Pattern := ofMarksFrom (marks.length + 1) marks

/-- Whether a pattern stands for more than one text. -/
def isGeneral (pattern : Pattern) : Bool :=
  pattern.any fun part => match part with
    | .exactly _ => false
    | _ => true

/-! ## Matching -/

/-- Whether a point is described by ranges. -/
def within (point : CodePoint) (ranges : List (CodePoint × CodePoint)) : Bool :=
  ranges.any fun (first, last) => decide (first ≤ point) && decide (point ≤ last)

/-- Whether a pattern describes a whole text. -/
def describes : Pattern → Text → Bool
  | [], text => text.isEmpty
  | .several :: rest, text =>
    (List.range (text.length + 1)).any fun count => describes rest (text.drop count)
  | .any :: rest, text =>
    match text with
    | [] => false
    | _ :: others => describes rest others
  | .exactly point :: rest, text =>
    match text with
    | [] => false
    | first :: others => decide (first = point) && describes rest others
  | .oneOf negated ranges :: rest, text =>
    match text with
    | [] => false
    | first :: others => (within first ranges != negated) && describes rest others

/-- Points that stand for themselves describe the text that they are. -/
theorem describes_exactly (text : Text) : describes (text.map .exactly) text = true := by
  induction text with
  | nil => rfl
  | cons point rest hypothesis => simp [describes, hypothesis]

end Pattern

end Shell

end Heartbeat
