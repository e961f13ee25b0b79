import Mathlib.Tactic.Ring
import Heartbeat.Number.Decimal

/-!
# Rounding depends on the number alone

A fraction is rounded to the nearest double.  The result does not depend on how
the fraction is written (`ofRatio_congr`), a fraction that is a double is rounded
to itself (`ofRatio_units`), and far outside the range of the doubles the result
is an infinity or a zero.

A decimal is read without forming the power of ten when its exponent decides.
What is read is nevertheless the fraction that the decimal is
(`toDouble_eq_ofRatio`).  So the double of a decimal depends only on its value:
moving zeros between the digits and the exponent changes nothing
(`toDouble_shift`).
-/

namespace Heartbeat

set_option autoImplicit false

/-! ## Quotients -/

theorem divideToEven_mul_right (numerator denominator : Nat) {factor : Nat}
    (positive : 0 < factor) :
    divideToEven (numerator * factor) (denominator * factor)
      = divideToEven numerator denominator := by
  have below : 2 * (numerator % denominator * factor) < denominator * factor
      ↔ 2 * (numerator % denominator) < denominator := by
    rw [← Nat.mul_assoc]
    exact Nat.mul_lt_mul_right positive
  have above : denominator * factor < 2 * (numerator % denominator * factor)
      ↔ denominator < 2 * (numerator % denominator) := by
    rw [← Nat.mul_assoc]
    exact Nat.mul_lt_mul_right positive
  simp only [divideToEven, Nat.mul_div_mul_right _ _ positive, Nat.mul_mod_mul_right, below, above]

/-- A whole quotient is not rounded. -/
theorem divideToEven_mul_self (quotient : Nat) {denominator : Nat} (positive : 0 < denominator) :
    divideToEven (quotient * denominator) denominator = quotient := by
  simp only [divideToEven, Nat.mul_mod_left, Nat.mul_div_cancel _ positive, Nat.mul_zero,
    if_pos positive]

/-- Less than one half is rounded to nothing. -/
theorem divideToEven_of_small {numerator denominator : Nat}
    (small : 2 * numerator < denominator) : divideToEven numerator denominator = 0 := by
  have less : numerator < denominator := by omega
  simp only [divideToEven, Nat.mod_eq_of_lt less, Nat.div_eq_of_lt less, if_pos small]

/-! ## Fractions -/

namespace Double

open FiniteDouble

/-- The power of two that makes one, under a name that is not computed. -/
theorem unitsPerOne_eq : ∃ scale, scale = 1074 ∧ unitsPerOne = 2 ^ scale := by
  unfold unitsPerOne
  generalize 1074 = scale
  exact ⟨scale, rfl, rfl⟩

theorem unitsPerOne_pos : 0 < unitsPerOne := by
  obtain ⟨scale, _, power⟩ := unitsPerOne_eq
  rw [power]
  exact Nat.two_pow_pos scale

theorem ofRatio_mul_right (negative : Bool) (numerator denominator : Nat) {factor : Nat}
    (positive : 0 < factor) :
    ofRatio negative (numerator * factor) (denominator * factor)
      = ofRatio negative numerator denominator := by
  have scaled : numerator * factor * unitsPerOne = numerator * unitsPerOne * factor := by ring
  have exponent : numerator * unitsPerOne * factor / (denominator * factor)
      = numerator * unitsPerOne / denominator := Nat.mul_div_mul_right _ _ positive
  simp only [ofRatio, scaled, exponent]
  rw [show ∀ power : Nat, denominator * factor * power = denominator * power * factor from
    fun power => by ring, divideToEven_mul_right _ _ positive]

/-- **Equal fractions are rounded to the same double.** -/
theorem ofRatio_congr (negative : Bool) {first second top bottom : Nat}
    (equal : first * bottom = second * top) (top_pos : 0 < top) (bottom_pos : 0 < bottom) :
    ofRatio negative first top = ofRatio negative second bottom :=
  calc ofRatio negative first top
      = ofRatio negative (first * bottom) (top * bottom) :=
        (ofRatio_mul_right negative first top bottom_pos).symm
    _ = ofRatio negative (second * top) (bottom * top) := by rw [equal, Nat.mul_comm top]
    _ = ofRatio negative second bottom := ofRatio_mul_right negative second bottom top_pos

/-- The exponent of a double is found from its units. -/
theorem log2_units (number : FiniteDouble) :
    Nat.log2 number.units - 52 = number.exponent := by
  obtain ⟨negative, mantissa, exponent, short, range, normal⟩ := number
  simp only [units, Nat.pow_eq] at short normal ⊢
  rcases normal with rfl | normal
  · rw [Nat.pow_zero, Nat.mul_one]
    rcases Nat.eq_zero_or_pos mantissa with rfl | positive
    · rfl
    · have := (Nat.log2_lt positive.ne').mpr short
      omega
  · have positive : mantissa * 2 ^ exponent ≠ 0 :=
      (Nat.mul_pos (Nat.lt_of_lt_of_le (by decide) normal) (Nat.two_pow_pos exponent)).ne'
    have place : Nat.log2 (mantissa * 2 ^ exponent) = 52 + exponent := by
      rw [Nat.log2_eq_iff positive]
      constructor
      · rw [Nat.pow_add]
        exact Nat.mul_le_mul_right _ normal
      · rw [show 52 + exponent + 1 = 53 + exponent by omega, Nat.pow_add]
        exact Nat.mul_lt_mul_of_pos_right short (Nat.two_pow_pos exponent)
    rw [place, Nat.add_sub_cancel_left]

/-- **A double is not changed by rounding.** -/
theorem ofRatio_units (number : FiniteDouble) :
    ofRatio number.negative number.units unitsPerOne = .finite number := by
  have exponent : number.units * unitsPerOne / unitsPerOne = number.units :=
    Nat.mul_div_cancel _ unitsPerOne_pos
  have mantissa : divideToEven (number.units * unitsPerOne) (unitsPerOne * 2 ^ number.exponent)
      = number.mantissa := by
    rw [units, Nat.pow_eq, show number.mantissa * 2 ^ number.exponent * unitsPerOne
      = number.mantissa * (unitsPerOne * 2 ^ number.exponent) by ring]
    exact divideToEven_mul_self _ (Nat.mul_pos unitsPerOne_pos (Nat.two_pow_pos _))
  simp only [ofRatio, exponent, log2_units, Nat.pow_eq, mantissa]
  rw [ofParts, dif_pos number.canonical]

/-- Nothing is zero. -/
theorem ofParts_zero (negative : Bool) : ofParts negative 0 0 = .finite (.zero negative) := by
  rw [ofParts, dif_pos (by decide)]
  rfl

/-- A number less than half a unit is rounded to zero. -/
theorem ofRatio_of_small (negative : Bool) {numerator denominator : Nat}
    (small : 2 * (numerator * unitsPerOne) < denominator) :
    ofRatio negative numerator denominator = .finite (.zero negative) := by
  have exponent : numerator * unitsPerOne / denominator = 0 := Nat.div_eq_of_lt (by omega)
  simp only [ofRatio, exponent, Nat.log2_zero, Nat.zero_sub, Nat.pow_eq, Nat.pow_zero, Nat.mul_one]
  rw [divideToEven_of_small small, ofParts_zero]

/-- Zero divided by anything is zero. -/
theorem ofRatio_zero (negative : Bool) {denominator : Nat} (positive : 0 < denominator) :
    ofRatio negative 0 denominator = .finite (.zero negative) :=
  ofRatio_of_small negative (by rwa [Nat.zero_mul, Nat.mul_zero])

/-- Beyond the largest exponent there is only infinity. -/
theorem ofParts_of_large (negative : Bool) (mantissa : Nat) {exponent : Nat}
    (large : largestExponent < exponent) :
    ofParts negative mantissa exponent = .infinite negative := by
  rw [ofParts, dif_neg fun canonical => Nat.not_le_of_gt large canonical.2.1,
    dif_neg fun carried => by omega]

/-- A number from `2 ^ 1024` on is rounded to infinity. -/
theorem ofRatio_of_large (negative : Bool) {numerator denominator : Nat}
    (positive : 0 < denominator) (power : Nat) (range : 1024 ≤ power)
    (large : denominator * 2 ^ power ≤ numerator) :
    ofRatio negative numerator denominator = .infinite negative := by
  obtain ⟨scale, is_scale, unit⟩ := unitsPerOne_eq
  have quotient : 2 ^ (power + scale) ≤ numerator * unitsPerOne / denominator := by
    rw [Nat.le_div_iff_mul_le positive, Nat.pow_add, unit]
    calc 2 ^ power * 2 ^ scale * denominator
        = denominator * 2 ^ power * 2 ^ scale := by ring
      _ ≤ numerator * 2 ^ scale := Nat.mul_le_mul_right _ large
  have nonzero : numerator * unitsPerOne / denominator ≠ 0 :=
    (Nat.lt_of_lt_of_le (Nat.two_pow_pos _) quotient).ne'
  have exponent := (Nat.le_log2 nonzero).mpr quotient
  exact ofParts_of_large negative _ (by rw [largestExponent]; omega)

end Double

/-! ## Decimals -/

namespace Decimal

open FiniteDouble

/-- The powers of ten above one and below one that make up the value of a
decimal. -/
theorem toDouble_eq_ofRatio (negative : Bool) (decimal : Decimal) :
    decimal.toDouble negative
      = Double.ofRatio negative (decimal.digits * 10 ^ decimal.exponent.toNat)
          (10 ^ (-decimal.exponent).toNat) := by
  obtain ⟨digits, exponent⟩ := decimal
  have ten (power : Nat) : 0 < 10 ^ power := Nat.pow_pos (by decide)
  have eight (power : Nat) : 2 ^ (3 * power) ≤ 10 ^ power := by
    rw [Nat.pow_mul]
    exact Nat.pow_le_pow_left (by decide) power
  simp only [toDouble]
  split
  · next nothing =>
      rw [nothing, Nat.zero_mul, Double.ofRatio_zero _ (ten _)]
  split
  · next nonzero large =>
      have whole : (-exponent).toNat = 0 := by omega
      rw [whole, Nat.pow_zero, Double.ofRatio_of_large negative Nat.one_pos (3 * exponent.toNat)
        (by omega)]
      rw [Nat.one_mul]
      calc 2 ^ (3 * exponent.toNat) ≤ 10 ^ exponent.toNat := eight _
        _ ≤ digits * 10 ^ exponent.toNat := Nat.le_mul_of_pos_left _ (Nat.pos_of_ne_zero nonzero)
  split
  · next nonzero _ small =>
      have fraction : exponent.toNat = 0 := by omega
      rw [fraction, Nat.pow_zero, Nat.mul_one, Double.ofRatio_of_small]
      obtain ⟨scale, is_scale, unit⟩ := Double.unitsPerOne_eq
      have below : digits < 2 ^ (Nat.log2 digits + 1) := Nat.lt_log2_self
      rw [unit]
      calc 2 * (digits * 2 ^ scale)
          < 2 * (2 ^ (Nat.log2 digits + 1) * 2 ^ scale) :=
            Nat.mul_lt_mul_of_pos_left
              (Nat.mul_lt_mul_of_pos_right below (Nat.two_pow_pos scale)) (by decide)
        _ = 2 ^ (Nat.log2 digits + scale + 2) := by rw [Nat.pow_add, Nat.pow_add, Nat.pow_add]; ring
        _ ≤ 2 ^ (3 * (-exponent).toNat) := Nat.pow_le_pow_right (by decide) (by omega)
        _ ≤ 10 ^ (-exponent).toNat := eight _
  · cases exponent with
    | ofNat power => simp
    | negSucc power => simp [Int.neg_negSucc]

/-- **The double of a decimal depends on its value alone**: zeros may stand among
the digits or be counted by the exponent. -/
theorem toDouble_shift (negative : Bool) (digits count : Nat) (exponent : Int) :
    toDouble negative ⟨digits * 10 ^ count, exponent - count⟩
      = toDouble negative ⟨digits, exponent⟩ := by
  rw [toDouble_eq_ofRatio, toDouble_eq_ofRatio]
  refine Double.ofRatio_congr negative ?_ (Nat.pow_pos (by decide)) (Nat.pow_pos (by decide))
  have powers : count + (exponent - count).toNat + (-exponent).toNat
      = exponent.toNat + (-(exponent - count)).toNat := by omega
  calc digits * 10 ^ count * 10 ^ (exponent - count).toNat * 10 ^ (-exponent).toNat
      = digits * 10 ^ (count + (exponent - count).toNat + (-exponent).toNat) := by
        rw [Nat.pow_add, Nat.pow_add]
        ring
    _ = digits * 10 ^ exponent.toNat * 10 ^ (-(exponent - count)).toNat := by
        rw [powers, Nat.pow_add]
        ring

end Decimal

end Heartbeat
