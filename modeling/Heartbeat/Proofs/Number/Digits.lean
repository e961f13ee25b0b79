import Mathlib.Data.List.Induction
import Mathlib.Data.List.TakeWhile
import Mathlib.Tactic.Ring
import Heartbeat.Text

/-!
# Digits

The decimal form of a number consists of digits (`isDigit_of_mem_ofNat`), has the
number as its value (`digitsValue_ofNat`), and begins with a zero only if it is
the digit zero (`head?_ofNat_ne_zero`).  Leading zeros do not change the value of
a sequence of digits, trailing ones multiply it by a power of ten.

A reader takes the longest run of digits.  It gets back a run that was written
when what follows does not begin with a digit.
-/

namespace Heartbeat

set_option autoImplicit false

/-! ## Single digits -/

namespace CodePoint

/-- The code point that writes a digit. -/
def ofDigit (digit : Nat) : CodePoint := ofChar (Nat.digitChar digit)

theorem isDigit_ofDigit : ∀ digit < 10, (ofDigit digit).isDigit = true := by decide

theorem digitValue_ofDigit : ∀ digit < 10, (ofDigit digit).digitValue = digit := by decide

theorem ofDigit_eq_zero_iff : ∀ digit < 10, ofDigit digit = ofChar '0' ↔ digit = 0 := by decide

end CodePoint

namespace Text

/-! ## Decimal form -/

/-- A number below ten is written by one digit. -/
theorem ofNat_of_lt_ten {number : Nat} (small : number < 10) :
    ofNat number = [CodePoint.ofDigit number] := by
  rw [ofNat, Nat.toDigits_of_lt_base small]
  rfl

/-- The last digit of a larger number stands behind the number of its tens. -/
theorem ofNat_of_ten_le {number : Nat} (large : 10 ≤ number) :
    ofNat number = ofNat (number / 10) ++ [CodePoint.ofDigit (number % 10)] := by
  rw [ofNat, Nat.toDigits_of_base_le (by decide) large, List.map_append]
  rfl

theorem ofNat_ne_nil (number : Nat) : ofNat number ≠ [] := by
  rw [ofNat, Ne, List.map_eq_nil_iff]
  exact Nat.toDigits_ne_nil

/-- A number is written in digits. -/
theorem isDigit_of_mem_ofNat (number : Nat) : ∀ point ∈ ofNat number, point.isDigit = true := by
  induction number using Nat.strongRecOn with
  | ind number hypothesis =>
      intro point member
      rcases Nat.lt_or_ge number 10 with small | large
      · rw [ofNat_of_lt_ten small, List.mem_singleton] at member
        rw [member]
        exact CodePoint.isDigit_ofDigit number small
      · rw [ofNat_of_ten_le large, List.mem_append, List.mem_singleton] at member
        rcases member with tens | last
        · exact hypothesis (number / 10) (by omega) point tens
        · rw [last]
          exact CodePoint.isDigit_ofDigit _ (Nat.mod_lt _ (by decide))

/-- Only zero is written with a leading zero. -/
theorem head?_ofNat_ne_zero {number : Nat} (positive : number ≠ 0) :
    (ofNat number).head? ≠ some (CodePoint.ofChar '0') := by
  induction number using Nat.strongRecOn with
  | ind number hypothesis =>
      rcases Nat.lt_or_ge number 10 with small | large
      · rw [ofNat_of_lt_ten small]
        intro zero
        exact positive ((CodePoint.ofDigit_eq_zero_iff number small).mp (Option.some.inj zero))
      · have front := hypothesis (number / 10) (by omega) (by omega)
        rw [ofNat_of_ten_le large]
        cases tens : ofNat (number / 10) with
        | nil => exact absurd tens (ofNat_ne_nil _)
        | cons point points =>
            rw [tens] at front
            exact front

/-! ## Value of digits -/

/-- The value of digits behind digits. -/
theorem digitsValue_append (first second : Text) :
    digitsValue (first ++ second)
      = digitsValue first * 10 ^ second.length + digitsValue second := by
  induction second using List.reverseRecOn with
  | nil => simp [digitsValue]
  | append_singleton second digit hypothesis =>
      rw [← List.append_assoc]
      simp only [digitsValue, List.foldl_append, List.foldl_cons, List.foldl_nil,
        List.length_append, List.length_singleton] at hypothesis ⊢
      rw [hypothesis, Nat.pow_succ]
      ring

theorem digitsValue_singleton (digit : CodePoint) : digitsValue [digit] = digit.digitValue := by
  simp [digitsValue]

/-- **The decimal form of a number has the number as its value.** -/
theorem digitsValue_ofNat (number : Nat) : digitsValue (ofNat number) = number := by
  induction number using Nat.strongRecOn with
  | ind number hypothesis =>
      rcases Nat.lt_or_ge number 10 with small | large
      · rw [ofNat_of_lt_ten small, digitsValue_singleton]
        exact CodePoint.digitValue_ofDigit number small
      · rw [ofNat_of_ten_le large, digitsValue_append, hypothesis (number / 10) (by omega),
          digitsValue_singleton, CodePoint.digitValue_ofDigit _ (Nat.mod_lt _ (by decide)),
          List.length_singleton]
        omega

/-- Zeros have no value. -/
theorem digitsValue_replicate_zero (count : Nat) :
    digitsValue (List.replicate count (CodePoint.ofChar '0')) = 0 := by
  induction count with
  | zero => rfl
  | succ count hypothesis =>
      rw [List.replicate_succ', digitsValue_append, hypothesis]
      rfl

/-- Zeros behind digits multiply by a power of ten. -/
theorem digitsValue_append_zeros (digits : Text) (count : Nat) :
    digitsValue (digits ++ List.replicate count (CodePoint.ofChar '0'))
      = digitsValue digits * 10 ^ count := by
  rw [digitsValue_append, digitsValue_replicate_zero, List.length_replicate, Nat.add_zero]

/-- Zeros before digits change nothing. -/
theorem digitsValue_zeros_append (count : Nat) (digits : Text) :
    digitsValue (List.replicate count (CodePoint.ofChar '0') ++ digits) = digitsValue digits := by
  rw [digitsValue_append, digitsValue_replicate_zero, Nat.zero_mul, Nat.zero_add]

theorem isDigit_of_mem_zeros (count : Nat) :
    ∀ point ∈ List.replicate count (CodePoint.ofChar '0'), point.isDigit = true := by
  intro point member
  rw [List.eq_of_mem_replicate member]
  decide

/-! ## Runs of digits -/

/-- Text that does not go on with a digit. -/
def EndsDigits (rest : Text) : Prop := ∀ point ∈ rest.head?, point.isDigit = false

/-- The longest run of digits is the run that was written. -/
theorem takeWhile_digits {digits rest : Text} (all : ∀ point ∈ digits, point.isDigit = true)
    (ends : EndsDigits rest) : (digits ++ rest).takeWhile CodePoint.isDigit = digits := by
  rw [List.takeWhile_append_of_pos all]
  cases rest with
  | nil => simp
  | cons point rest => simp [ends point rfl]

/-- What follows the longest run of digits is what was written behind it. -/
theorem dropWhile_digits {digits rest : Text} (all : ∀ point ∈ digits, point.isDigit = true)
    (ends : EndsDigits rest) : (digits ++ rest).dropWhile CodePoint.isDigit = rest := by
  rw [List.dropWhile_append_of_pos all]
  cases rest with
  | nil => rfl
  | cons point rest => simp [ends point rfl]

end Text

end Heartbeat
