import Heartbeat.Number.Shortest
import Heartbeat.Proofs.Number.Rounding

/-!
# The shortest decimal reads back

The decimal chosen for a double was either tried by reading it, or it is the
exact expansion of the double, which is rounded to the double because it is the
double.  Taking off trailing zeros keeps the value.  So whatever is chosen reads
back (`toDouble_shortest`).
-/

namespace Heartbeat

set_option autoImplicit false

namespace FiniteDouble

theorem toDouble_of_readsBack {number : FiniteDouble} {decimal : Decimal}
    (reads : number.readsBack decimal = true) :
    decimal.toDouble number.negative = .finite number := of_decide_eq_true reads

/-- A decimal that was chosen among its neighbours was tried. -/
theorem toDouble_of_decimalOfLength? {number : FiniteDouble} {length : Nat} {decimal : Decimal}
    (chosen : number.decimalOfLength? length = some decimal) :
    decimal.toDouble number.negative = .finite number := by
  unfold decimalOfLength? at chosen
  generalize number.integralDigits - (length : Int) = exponent at chosen
  dsimp only at chosen
  split at chosen
  · next reads =>
      rw [← Option.some.inj chosen]
      exact toDouble_of_readsBack reads
  split at chosen
  · next reads =>
      rw [← Option.some.inj chosen]
      exact toDouble_of_readsBack reads
  split at chosen
  · next reads =>
      rw [← Option.some.inj chosen]
      exact toDouble_of_readsBack reads
  · cases chosen

/-- The digits of the exact expansion, the power of five under a name that is not
computed. -/
theorem digits_exactDecimal (number : FiniteDouble) :
    ∃ scale, scale = 1074 ∧ number.exactDecimal.digits = number.units * 5 ^ scale := by
  unfold exactDecimal
  generalize 1074 = scale
  exact ⟨scale, rfl, rfl⟩

/-- The exact expansion of a double is the double. -/
theorem toDouble_exactDecimal (number : FiniteDouble) :
    number.exactDecimal.toDouble number.negative = .finite number := by
  rw [Decimal.toDouble_eq_ofRatio, ← Double.ofRatio_units number]
  refine Double.ofRatio_congr number.negative ?_ (Nat.pow_pos (by decide)) Double.unitsPerOne_pos
  obtain ⟨scale, is_scale, unit⟩ := Double.unitsPerOne_eq
  obtain ⟨power, is_power, digits⟩ := digits_exactDecimal number
  obtain rfl : power = scale := is_power.trans is_scale.symm
  have below : number.exactDecimal.exponent.toNat = 0 := rfl
  have above : (-number.exactDecimal.exponent).toNat = power := by rw [is_power]; rfl
  rw [below, above, digits, unit, Nat.pow_zero, Nat.mul_one, Nat.mul_assoc, ← Nat.mul_pow]

/-- Trailing zeros are no part of the value. -/
theorem toDouble_stripZeros (negative : Bool) (fuel : Nat) (decimal : Decimal) :
    (stripZeros fuel decimal).toDouble negative = decimal.toDouble negative := by
  induction fuel generalizing decimal with
  | zero => rfl
  | succ fuel hypothesis =>
      rw [stripZeros]
      split
      · next zero =>
          have digits : decimal.digits / 10 * 10 ^ 1 = decimal.digits := by omega
          have shift := Decimal.toDouble_shift negative (decimal.digits / 10) 1
            (decimal.exponent + 1)
          rw [digits] at shift
          rw [hypothesis, ← shift]
          congr 2
          omega
      · rfl

/-- **The shortest decimal of a double reads back as the double.** -/
theorem toDouble_shortest (number : FiniteDouble) :
    number.shortest.toDouble number.negative = .finite number := by
  unfold shortest
  split
  · next decimal found =>
      obtain ⟨length, _, chosen⟩ := List.exists_of_findSome?_eq_some found
      rw [toDouble_stripZeros]
      exact toDouble_of_decimalOfLength? chosen
  · exact toDouble_exactDecimal number

/-- A double with a zero mantissa is one of the two zeros. -/
theorem eq_zero_of_isZero {number : FiniteDouble} (zero : number.isZero = true) :
    number = .zero number.negative := by
  obtain ⟨negative, mantissa, exponent, short, range, normal⟩ := number
  obtain rfl : mantissa = 0 := of_decide_eq_true zero
  obtain rfl : exponent = 0 := normal.resolve_right (by decide)
  rfl

/-- The shortest decimal of a double other than zero has digits. -/
theorem digits_shortest_ne_zero {number : FiniteDouble} (nonzero : number.isZero = false) :
    number.shortest.digits ≠ 0 := by
  intro nothing
  have reads := toDouble_shortest number
  rw [Decimal.toDouble, if_pos nothing, Double.finite.injEq] at reads
  rw [← reads] at nonzero
  exact Bool.noConfusion nonzero

end FiniteDouble

end Heartbeat
