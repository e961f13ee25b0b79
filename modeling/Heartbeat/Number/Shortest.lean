import Heartbeat.Number.Decimal

/-!
# The shortest decimal of a double

Of all decimals that read back as a given double, the one with the fewest digits
is written, and of two such the nearer one, the even one in a tie.  The search
goes by the number of digits: on the grid of decimals with `1`, `2`, … `17`
significant digits only the two neighbours of the double have to be tried, since
a grid point that reads back lies on the same side of the double as one of them,
and no nearer.  A neighbour is tried by reading it.  Where no grid succeeded the
exact expansion of the double would be taken, so the result always reads back.
-/

namespace Heartbeat

set_option autoImplicit false

namespace FiniteDouble

/-- The magnitude of a double divided by a power of ten, as a fraction. -/
def overPowerOfTen (number : FiniteDouble) : Int → Nat × Nat
  | .ofNat power => (number.units, unitsPerOne * Nat.pow 10 power)
  | .negSucc power => (number.units * Nat.pow 10 (power + 1), unitsPerOne)

/-- The number of digits before the decimal point; it is negative or zero for
numbers below one, counting the zeros that follow the point. -/
def integralDigits (number : FiniteDouble) : Int :=
  if unitsPerOne ≤ number.units then
    ((Nat.toDigits 10 (number.units / unitsPerOne)).length : Int)
  else 1 - ((Nat.toDigits 10 (unitsPerOne / number.units)).length : Int)

/-- The decimal that a double is exactly. -/
def exactDecimal (number : FiniteDouble) : Decimal := ⟨number.units * Nat.pow 5 1074, -1074⟩

/-- Whether a decimal reads back as a double. -/
def readsBack (number : FiniteDouble) (decimal : Decimal) : Bool :=
  decide (decimal.toDouble number.negative = .finite number)

/-- The decimal with a given number of significant digits that reads back, if
there is one. -/
def decimalOfLength? (number : FiniteDouble) (length : Nat) : Option Decimal :=
  let exponent := number.integralDigits - (length : Int)
  let (numerator, denominator) := number.overPowerOfTen exponent
  let below : Decimal := ⟨numerator / denominator, exponent⟩
  let above : Decimal := ⟨numerator / denominator + 1, exponent⟩
  let nearest : Decimal := ⟨divideToEven numerator denominator, exponent⟩
  if number.readsBack nearest then some nearest
  else if number.readsBack below then some below
  else if number.readsBack above then some above
  else none

/-- The same decimal without trailing zeros. -/
def stripZeros : Nat → Decimal → Decimal
  | 0, decimal => decimal
  | fuel + 1, decimal =>
    if decimal.digits ≠ 0 ∧ decimal.digits % 10 = 0 then
      stripZeros fuel ⟨decimal.digits / 10, decimal.exponent + 1⟩
    else decimal

/-- The shortest decimal that reads back as a double. -/
def shortest (number : FiniteDouble) : Decimal :=
  match (List.range 17).findSome? fun length => number.decimalOfLength? (length + 1) with
  | some decimal => stripZeros 17 decimal
  | none => number.exactDecimal

end FiniteDouble

/-! ## Layout -/

/-- How a decimal is laid out: from which to below which power of ten its leading
digit may have for positional form, and how many digits an exponent has at
least. -/
structure NumberLayout where
  positionalFrom : Int
  positionalBelow : Int
  exponentWidth : Nat

/-- Numbers from `0.0001` to below `10 ^ 16` are positional, and an exponent has
two digits or more. -/
def NumberLayout.standard : NumberLayout := ⟨-4, 16, 2⟩

namespace Decimal

/-- A decimal in positional form, with at least one digit on each side of the
point. -/
def positional (digits : Text) (exponent : Int) : Text :=
  let zero := CodePoint.ofChar '0'
  match exponent with
  | .ofNat power => digits ++ List.replicate power zero ++ ".0"
  | .negSucc power =>
    let places := power + 1
    if places < digits.length then
      digits.take (digits.length - places) ++ "." ++ digits.drop (digits.length - places)
    else "0." ++ List.replicate (places - digits.length) zero ++ digits

/-- A decimal with one digit before the point and a power of ten after it. -/
def scientific (width : Nat) (digits : Text) (power : Int) : Text :=
  let written := Text.ofNat power.natAbs
  let tail := match digits.drop 1 with
    | [] => []
    | fraction => CodePoint.ofChar '.' :: fraction
  digits.take 1 ++ tail ++ "e" ++ (if power < 0 then "-" else "+" : Text)
    ++ List.replicate (width - written.length) (CodePoint.ofChar '0') ++ written

/-- The text of a decimal under a layout. -/
def render (layout : NumberLayout) (decimal : Decimal) : Text :=
  let digits := Text.ofNat decimal.digits
  let power := decimal.exponent + (digits.length : Int) - 1
  if layout.positionalFrom ≤ power ∧ power < layout.positionalBelow then
    positional digits decimal.exponent
  else scientific layout.exponentWidth digits power

end Decimal

/-- The text of a finite double. -/
def FiniteDouble.render (number : FiniteDouble) : Text :=
  let sign : Text := if number.negative then "-" else ""
  if number.isZero then sign ++ "0.0"
  else sign ++ number.shortest.render .standard

/-- The text of a double. -/
def Double.render : Double → Text
  | .nan => "nan"
  | .infinite true => "-inf"
  | .infinite false => "inf"
  | .finite number => number.render

end Heartbeat
