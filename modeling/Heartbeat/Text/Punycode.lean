import Heartbeat.Text

/-!
# Punycode

A label with letters beyond ASCII has a form in ASCII: its ASCII points, a dash, and
then a sequence of numbers that says which other points there are and where they
stand.  The other points are gone through in ascending order; each number counts the
steps from one insertion to the next, over all points and all places.

A number is written with the letters and digits as digits in base thirty-six, the
lowest first.  How far a digit may go before it is the last one depends on a bias,
which follows the numbers that were written so far.
-/

namespace Heartbeat

set_option autoImplicit false

namespace Punycode

/-- A digit: letters first, then digits. -/
def digit (value : Nat) : CodePoint :=
  if value < 26 then Fin.ofNat 0x110000 (0x61 + value) else Fin.ofNat 0x110000 (0x16 + value)

/-- From which value on the digit at a place is not the last one. -/
def threshold (bias place : Nat) : Nat := max 1 (min 26 (place - bias))

/-- The digits of a number from a place on. -/
def digitsFrom (bias place number : Nat) : Text :=
  if number < threshold bias place then [digit number]
  else
    let base := 36 - threshold bias place
    let beyond := number - threshold bias place
    digit (threshold bias place + beyond % base) :: digitsFrom bias (place + 36) (beyond / base)
termination_by number
decreasing_by
  have positive : 1 ≤ threshold bias place := Nat.le_max_left _ _
  exact Nat.lt_of_le_of_lt (Nat.div_le_self _ _) (by omega)

/-- The bias that a number leads to once it is scaled, with the bias it began at. -/
def settle (bias number : Nat) : Nat :=
  if 455 < number then settle (bias + 36) (number / 35)
  else bias + 36 * number / (number + 38)
termination_by number
decreasing_by exact Nat.div_lt_self (by omega) (by omega)

/-- The bias after a number, with as many points in place as given.  The first number is
the largest and counts less. -/
def adapt (number points : Nat) (isFirst : Bool) : Nat :=
  let scaled := if isFirst then number / 700 else number / 2
  settle 0 (scaled + scaled / points)

/-- What was written, the steps since the last insertion, the bias, and how many points
are in place. -/
structure Progress where
  written : Text
  steps : Nat
  bias : Nat
  placed : Nat

/-- Goes past one point of a label while the points with a given number are inserted. -/
def pass (plain : Nat) (current : CodePoint) (progress : Progress) (point : CodePoint) :
    Progress :=
  if point < current then { progress with steps := progress.steps + 1 }
  else if point = current then
    { written := progress.written ++ digitsFrom progress.bias 36 progress.steps
      steps := 0
      bias := adapt progress.steps (progress.placed + 1) (decide (progress.placed = plain))
      placed := progress.placed + 1 }
  else progress

/-- Inserts the points of a label one number after the other, the ones below `next`
being in place. -/
def insertAll (plain : Nat) (label : Text) : Nat → List CodePoint → Progress → Progress
  | _, [], progress => progress
  | next, current :: later, progress =>
    let skipped := progress.steps + (current.val - next) * (progress.placed + 1)
    let progress := label.foldl (pass plain current) { progress with steps := skipped }
    insertAll plain label (current.val + 1) later
      { progress with steps := progress.steps + 1 }

/-- Puts a point into its place in an ascending list, once. -/
def insertOnce (point : CodePoint) : List CodePoint → List CodePoint
  | [] => [point]
  | first :: rest =>
    if point < first then point :: first :: rest
    else if point = first then first :: rest
    else first :: insertOnce point rest

/-- The form of a label in ASCII. -/
def encode (label : Text) : Text :=
  let ascii := label.filter CodePoint.isAscii
  let others := (label.filter fun point => !point.isAscii).foldr insertOnce []
  let begun := if ascii.isEmpty then [] else ascii ++ [0x2D]
  (insertAll ascii.length label 0x80 others ⟨begun, 0, 72, ascii.length⟩).written

end Punycode

end Heartbeat
