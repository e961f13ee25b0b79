import Heartbeat.Text

/-!
# Double precision numbers

A double is kept as the number it is, not as a machine word: a sign, a mantissa
and an exponent, in the one canonical form that the binary format has for it.
The exponent counts from the smallest positive double, so a finite double is a
whole number of *units*, a unit being `2 ^ (-1074)`, and comparing, negating and
rounding are arithmetic on natural numbers.

`ofRatio` rounds a fraction to the nearest double, a tie to the even mantissa.
Every double of the library is made by it, either from a whole number or from a
decimal.
-/

namespace Heartbeat

set_option autoImplicit false

/-- The exponent of the largest finite doubles. -/
def largestExponent : Nat := 2045

/-- A finite double: `mantissa * 2 ^ exponent` units of `2 ^ (-1074)`, with a
sign.  Only the smallest exponent goes with a short mantissa. -/
structure FiniteDouble where
  negative : Bool
  mantissa : Nat
  exponent : Nat
  canonical : mantissa < Nat.pow 2 53 ∧ exponent ≤ largestExponent ∧ (exponent = 0 ∨ Nat.pow 2 52 ≤ mantissa)
deriving DecidableEq

/-- A double precision number. -/
inductive Double where
  /-- The result of an operation without one. -/
  | nan
  /-- Beyond every finite double, above or below. -/
  | infinite (negative : Bool)
  /-- An exact number. -/
  | finite (number : FiniteDouble)
deriving DecidableEq

/-! ## Units -/

namespace FiniteDouble

/-- The magnitude as a whole number of units. -/
def units (number : FiniteDouble) : Nat := number.mantissa * Nat.pow 2 number.exponent

/-- How many units make one. -/
def unitsPerOne : Nat := Nat.pow 2 1074

/-- Zero, with either sign. -/
def zero (negative : Bool) : FiniteDouble := ⟨negative, 0, 0, by decide⟩

/-- Whether a number is zero, of either sign. -/
def isZero (number : FiniteDouble) : Bool := decide (number.mantissa = 0)

end FiniteDouble

/-! ## Rounding -/

/-- A quotient rounded to the nearest whole number, a tie to the even one. -/
def divideToEven (numerator denominator : Nat) : Nat :=
  let quotient := numerator / denominator
  let remainder := numerator % denominator
  if 2 * remainder < denominator then quotient
  else if denominator < 2 * remainder then quotient + 1
  else quotient + quotient % 2

namespace Double

/-- The double with a rounded mantissa of at most `2 ^ 53`; beyond the largest
exponent there is only infinity. -/
def ofParts (negative : Bool) (mantissa exponent : Nat) : Double :=
  if canonical : mantissa < Nat.pow 2 53 ∧ exponent ≤ largestExponent
      ∧ (exponent = 0 ∨ Nat.pow 2 52 ≤ mantissa) then
    .finite ⟨negative, mantissa, exponent, canonical⟩
  else if carried : mantissa = Nat.pow 2 53 ∧ exponent + 1 ≤ largestExponent then
    .finite ⟨negative, Nat.pow 2 52, exponent + 1, by
      refine ⟨by decide, carried.2, Or.inr (Nat.le_refl _)⟩⟩
  else .infinite negative

/-- The double nearest to a fraction. -/
def ofRatio (negative : Bool) (numerator denominator : Nat) : Double :=
  let scaled := numerator * FiniteDouble.unitsPerOne
  let exponent := Nat.log2 (scaled / denominator) - 52
  ofParts negative (divideToEven scaled (denominator * Nat.pow 2 exponent)) exponent

/-- The double nearest to a whole number. -/
def ofInt (number : Int) : Double := ofRatio (decide (number < 0)) number.natAbs 1

/-! ## Comparisons with whole numbers -/

/-- Less than zero. -/
def isNegative : Double → Bool
  | .nan => false
  | .infinite negative => negative
  | .finite number => number.negative && !number.isZero

/-- Greater than zero. -/
def isPositive : Double → Bool
  | .nan => false
  | .infinite negative => !negative
  | .finite number => !number.negative && !number.isZero

/-- At most zero.  Not a number is neither positive nor this. -/
def isAtMostZero : Double → Bool
  | .nan => false
  | .infinite negative => negative
  | .finite number => number.negative || number.isZero

/-- Equal to a natural number. -/
def equalsNat (number : Double) (natural : Nat) : Bool :=
  match number with
  | .finite number =>
    decide (number.units = natural * FiniteDouble.unitsPerOne)
      && (!number.negative || number.isZero)
  | _ => false

/-- The whole number that a finite double is without its fraction. -/
def truncate : FiniteDouble → Int
  | number =>
    let magnitude : Int := ((number.units / FiniteDouble.unitsPerOne : Nat) : Int)
    if number.negative then -magnitude else magnitude

/-- Whether a finite double is a whole number. -/
def isWhole (number : FiniteDouble) : Bool :=
  decide (number.units % FiniteDouble.unitsPerOne = 0)

/-- A natural number less a double that is not positive, rounded. -/
def subtractFrom (natural : Nat) : Double → Double
  | .nan => .nan
  | .infinite negative => .infinite (!negative)
  | .finite number =>
    let whole := natural * FiniteDouble.unitsPerOne
    if number.negative then
      ofRatio false (whole + number.units) FiniteDouble.unitsPerOne
    else if number.units ≤ whole then
      ofRatio false (whole - number.units) FiniteDouble.unitsPerOne
    else ofRatio true (number.units - whole) FiniteDouble.unitsPerOne

/-! ## Laws -/

/-- A double is never both at most zero and positive. -/
theorem isPositive_eq_false_of_isAtMostZero {number : Double}
    (small : number.isAtMostZero = true) : number.isPositive = false := by
  cases number with
  | nan => rfl
  | infinite negative => simpa [isAtMostZero, isPositive] using small
  | finite number =>
    simp only [isAtMostZero, Bool.or_eq_true] at small
    cases small with
    | inl negative => simp [isPositive, negative]
    | inr zero => simp [isPositive, zero]

/-- Only not a number is neither at most zero nor positive. -/
theorem isPositive_of_not_isAtMostZero {number : Double} (number_ne : number ≠ .nan)
    (large : number.isAtMostZero = false) : number.isPositive = true := by
  cases number with
  | nan => exact absurd rfl number_ne
  | infinite negative => simpa [isAtMostZero, isPositive] using large
  | finite number =>
    simp only [isAtMostZero, Bool.or_eq_false_iff] at large
    simp [isPositive, large.1, large.2]

end Double

end Heartbeat
