import Heartbeat.Number.Double

/-!
# Decimals

A decimal is a whole number of some power of ten.  It stands between the text of
a number and the double nearest to it.  Reading is generous about form: a sign,
digits with or without a point, an exponent, and the names of infinity and of not
a number in letters of either case.
-/

namespace Heartbeat

set_option autoImplicit false

/-- The number `digits * 10 ^ exponent`. -/
structure Decimal where
  digits : Nat
  exponent : Int
deriving DecidableEq

namespace Decimal

/-- The double nearest to a decimal.  An exponent far outside the range of the
doubles decides the result without the power being formed. -/
def toDouble (negative : Bool) (decimal : Decimal) : Double :=
  if decimal.digits = 0 then .finite (.zero negative)
  else if 400 < decimal.exponent then .infinite negative
  else if decimal.exponent < -((Nat.log2 decimal.digits : Nat) + 400 : Int) then
    .finite (.zero negative)
  else
    match decimal.exponent with
    | .ofNat power => Double.ofRatio negative (decimal.digits * Nat.pow 10 power) 1
    | .negSucc power => Double.ofRatio negative decimal.digits (Nat.pow 10 (power + 1))

/-- The decimal of an integral part, a fraction and an exponent. -/
def ofParts (whole fraction : Text) (exponent : Int) : Decimal :=
  ⟨Text.digitsValue (whole ++ fraction), exponent - (fraction.length : Int)⟩

/-! ## Reading -/

/-- A leading sign, as whether it is a minus, and the text after it. -/
def splitSign : Text → Bool × Text
  | [] => (false, [])
  | point :: rest =>
    if point = CodePoint.ofChar '-' then (true, rest)
    else if point = CodePoint.ofChar '+' then (false, rest)
    else (false, point :: rest)

/-- The exponent that a text writes: an optional sign and at least one digit. -/
def exponent? (text : Text) : Option Int :=
  let (negative, digits) := splitSign text
  if digits.isEmpty || !digits.all CodePoint.isDigit then none
  else
    let value : Int := (Text.digitsValue digits : Nat)
    some (if negative then -value else value)

/-- The decimal that a text without sign writes.  There has to be a digit on at
least one side of the point. -/
def ofText? (text : Text) : Option Decimal :=
  let whole := text.takeWhile CodePoint.isDigit
  let rest := text.dropWhile CodePoint.isDigit
  let (fraction, rest) := match rest with
    | point :: after =>
      if point = CodePoint.ofChar '.' then
        (after.takeWhile CodePoint.isDigit, after.dropWhile CodePoint.isDigit)
      else ([], rest)
    | [] => ([], [])
  if whole.isEmpty && fraction.isEmpty then none
  else match rest with
    | [] => some (ofParts whole fraction 0)
    | mark :: after =>
      if mark = CodePoint.ofChar 'e' || mark = CodePoint.ofChar 'E' then
        (exponent? after).map (ofParts whole fraction)
      else none

end Decimal

namespace Double

/-- The double that a text writes. -/
def ofText? (text : Text) : Option Double :=
  let (negative, magnitude) := Decimal.splitSign text
  let name := Text.toLowerAscii magnitude
  if name.is "inf" || name.is "infinity" then some (.infinite negative)
  else if name.is "nan" then some .nan
  else (Decimal.ofText? magnitude).map (Decimal.toDouble negative)

end Double

end Heartbeat
