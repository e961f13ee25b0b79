import Heartbeat.Proofs.Json.Number
import Heartbeat.Proofs.Number.Shortest

/-!
# Doubles as the format writes them

The text of a finite double is a sign and a number with a fraction or an
exponent, whichever layout is chosen, and the decimal of that number is the
shortest decimal of the double up to zeros (`render_eq_signed`).  Hence the strict
reader gets the double back from its text, negative zero included
(`readNumber_render`).
-/

namespace Heartbeat

set_option autoImplicit false

open Json

/-! ## Numbers with a fraction -/

namespace Json.NumberText

/-- A number with a fraction and without an exponent. -/
def pointed (whole digits : Text) (whole_ne_nil : whole ≠ [])
    (isDigit_whole : ∀ point ∈ whole, point.isDigit = true)
    (leading : whole.length = 1 ∨ whole.head? ≠ some (CodePoint.ofChar '0'))
    (digits_ne_nil : digits ≠ []) (isDigit_digits : ∀ point ∈ digits, point.isDigit = true) :
    NumberText where
  whole := whole
  fraction := some digits
  exponent := none
  whole_ne_nil := whole_ne_nil
  isDigit_whole := isDigit_whole
  leading := leading
  isDigit_fraction := by
    intro run member
    rw [← Option.some.inj member]
    exact ⟨digits_ne_nil, isDigit_digits⟩
  isDigit_exponent := isDigit_of_mem_noExponent

/-- A number with one digit before the point, the others behind it, and an
exponent. -/
def scientific (first : CodePoint) (others : Text) (power : Bool × Text)
    (isDigit_digits : ∀ point ∈ first :: others, point.isDigit = true)
    (power_ne_nil : power.2 ≠ []) (isDigit_power : ∀ point ∈ power.2, point.isDigit = true) :
    NumberText where
  whole := [first]
  fraction := if others = [] then none else some others
  exponent := some power
  whole_ne_nil := List.cons_ne_nil _ _
  isDigit_whole := by
    intro point member
    rw [List.mem_singleton.mp member]
    exact isDigit_digits first (List.mem_cons_self ..)
  leading := .inl rfl
  isDigit_fraction := by
    intro run member
    split at member
    · cases member
    · next some_others =>
        rw [← Option.some.inj member]
        exact ⟨some_others, fun point inside =>
          isDigit_digits point (List.mem_cons_of_mem _ inside)⟩
  isDigit_exponent := by
    intro written member
    rw [← Option.some.inj member]
    exact ⟨power_ne_nil, isDigit_power⟩

end Json.NumberText

namespace Decimal

/-- What writing a decimal has to result in: a number with a fraction or an
exponent that has the value of the decimal. -/
def WrittenBy (decimal : Decimal) (text : Text) : Prop :=
  ∃ number : NumberText, text = number.text ∧ (number.fraction ≠ none ∨ number.exponent ≠ none)
    ∧ ∀ negative, number.decimal.toDouble negative = decimal.toDouble negative

/-! ## Scientific form -/

/-- The digits of an exponent have its magnitude as their value. -/
theorem exponentValue_padded (width : Nat) (power : Int) :
    NumberText.exponentValue (decide (power < 0),
      List.replicate width (CodePoint.ofChar '0') ++ Text.ofNat power.natAbs) = power := by
  simp only [NumberText.exponentValue, Text.digitsValue_zeros_append, Text.digitsValue_ofNat,
    decide_eq_true_eq]
  split <;> omega

theorem isDigit_padded (width : Nat) (power : Int) :
    ∀ point ∈ List.replicate width (CodePoint.ofChar '0') ++ Text.ofNat power.natAbs,
      point.isDigit = true := by
  intro point member
  rcases List.mem_append.mp member with zero | written
  · exact Text.isDigit_of_mem_zeros width point zero
  · exact Text.isDigit_of_mem_ofNat _ point written

/-- Digits in scientific form: one before the point, the others behind it. -/
theorem writtenBy_scientific (width : Nat) {digits : Text} (nonempty : digits ≠ [])
    (all : ∀ point ∈ digits, point.isDigit = true) (exponent : Int) :
    WrittenBy ⟨Text.digitsValue digits, exponent⟩
      (scientific width digits (exponent + (digits.length : Int) - 1)) := by
  obtain ⟨first, others, rfl⟩ := List.exists_cons_of_ne_nil nonempty
  generalize is_power : exponent + ((first :: others).length : Int) - 1 = power
  generalize is_width : width - (Text.ofNat power.natAbs).length = padding
  have written_ne_nil : List.replicate padding (CodePoint.ofChar '0')
      ++ Text.ofNat power.natAbs ≠ [] :=
    List.append_ne_nil_of_right_ne_nil _ (Text.ofNat_ne_nil _)
  refine ⟨NumberText.scientific first others (decide (power < 0), _) all written_ne_nil
    (isDigit_padded padding power), ?_, .inr (Option.some_ne_none _), fun negative => ?_⟩
  · have sign : ((if power < 0 then "-" else "+" : Text))
        = [CodePoint.ofChar (if power < 0 then '-' else '+')] := by
      split <;> rfl
    rw [scientific, sign]
    cases others with
    | nil =>
        simp [is_width, NumberText.scientific, NumberText.text, NumberText.fractionText,
          NumberText.exponentText, Text.ofString]
    | cons second others =>
        simp [is_width, NumberText.scientific, NumberText.text, NumberText.fractionText,
          NumberText.exponentText, Text.ofString]
  · have fraction : (if others = [] then none else some others).getD [] = others := by
      split
      · next none_left => exact none_left.symm
      · rfl
    simp only [NumberText.decimal, NumberText.scientific, fraction, Option.map_some,
      Option.getD_some, exponentValue_padded, ofParts]
    congr 2
    rw [← is_power, List.length_cons]
    omega

/-! ## Positional form -/

theorem isDigit_zero : ∀ point ∈ [CodePoint.ofChar '0'], point.isDigit = true := by
  intro point member
  rw [List.mem_singleton.mp member]
  rfl

/-- Digits around a point are a number that has the value of a decimal when they
do. -/
theorem writtenBy_pointed {whole digits : Text} {decimal : Decimal} (whole_ne_nil : whole ≠ [])
    (isDigit_whole : ∀ point ∈ whole, point.isDigit = true)
    (leading : whole.length = 1 ∨ whole.head? ≠ some (CodePoint.ofChar '0'))
    (digits_ne_nil : digits ≠ []) (isDigit_digits : ∀ point ∈ digits, point.isDigit = true)
    (value : ∀ negative, (ofParts whole digits 0).toDouble negative = decimal.toDouble negative) :
    WrittenBy decimal (whole ++ CodePoint.ofChar '.' :: digits) := by
  refine ⟨.pointed whole digits whole_ne_nil isDigit_whole leading digits_ne_nil isDigit_digits,
    ?_, .inl (Option.some_ne_none _), value⟩
  rw [NumberText.text]
  exact congrArg (whole ++ ·) (List.append_nil _).symm

/-- Digits in positional form, with zeros before or behind them where there are
too few. -/
theorem writtenBy_positional {digits : Text} (nonempty : digits ≠ [])
    (all : ∀ point ∈ digits, point.isDigit = true)
    (leading : digits.head? ≠ some (CodePoint.ofChar '0')) (exponent : Int) :
    WrittenBy ⟨Text.digitsValue digits, exponent⟩ (positional digits exponent) := by
  obtain ⟨first, others, rfl⟩ := List.exists_cons_of_ne_nil nonempty
  cases exponent with
  | ofNat power =>
      have value : ofParts (first :: others ++ List.replicate power (CodePoint.ofChar '0'))
          [CodePoint.ofChar '0'] 0
            = ⟨Text.digitsValue (first :: others) * 10 ^ (power + 1),
              (power : Int) - (power + 1 : Nat)⟩ := by
        rw [ofParts, List.append_assoc, ← List.replicate_succ', Text.digitsValue_append_zeros,
          List.length_singleton]
        congr 1
        omega
      have tail : (".0" : Text) = CodePoint.ofChar '.' :: [CodePoint.ofChar '0'] := rfl
      rw [positional, tail]
      refine writtenBy_pointed (List.cons_ne_nil _ _) ?_ (.inr leading) (List.cons_ne_nil _ _)
        isDigit_zero fun negative => ?_
      · intro point member
        rcases List.mem_append.mp member with digit | zero
        · exact all point digit
        · exact Text.isDigit_of_mem_zeros power point zero
      · rw [value]
        exact toDouble_shift ..
  | negSucc power =>
      simp only [positional]
      split
      · next inside =>
          obtain ⟨count, is_count⟩ : ∃ count, (first :: others).length - (power + 1) = count + 1 :=
            ⟨(first :: others).length - (power + 1) - 1, by omega⟩
          have value : ofParts ((first :: others).take (count + 1))
              ((first :: others).drop (count + 1)) 0
                = ⟨Text.digitsValue (first :: others), Int.negSucc power⟩ := by
            rw [ofParts, List.take_append_drop, List.length_drop]
            congr 1
            omega
          have mark : ∀ rest : Text, ("." : Text) ++ rest = CodePoint.ofChar '.' :: rest :=
            fun _ => rfl
          rw [is_count, List.append_assoc, mark]
          refine writtenBy_pointed (List.cons_ne_nil _ _) ?_ (.inr leading) ?_ ?_
            fun negative => by rw [value]
          · exact fun point member => all point (List.mem_of_mem_take member)
          · rw [Ne, List.drop_eq_nil_iff]
            omega
          · exact fun point member => all point (List.mem_of_mem_drop member)
      · next outside =>
          generalize is_places : power + 1 - (first :: others).length = places
          have value : ofParts [CodePoint.ofChar '0']
              (List.replicate places (CodePoint.ofChar '0') ++ first :: others) 0
                = ⟨Text.digitsValue (first :: others), Int.negSucc power⟩ := by
            rw [ofParts, ← List.append_assoc, List.singleton_append, ← List.replicate_succ,
              Text.digitsValue_zeros_append, List.length_append, List.length_replicate]
            congr 1
            omega
          have lead : ∀ rest : Text, ("0." : Text) ++ rest
              = [CodePoint.ofChar '0'] ++ CodePoint.ofChar '.' :: rest := fun _ => rfl
          rw [List.append_assoc, lead]
          refine writtenBy_pointed (List.cons_ne_nil _ _) isDigit_zero (.inl rfl)
            (List.append_ne_nil_of_right_ne_nil _ nonempty) ?_ fun negative => by rw [value]
          intro point member
          rcases List.mem_append.mp member with zero | digit
          · exact Text.isDigit_of_mem_zeros places point zero
          · exact all point digit

/-- **A decimal other than zero is written as a number with its value.** -/
theorem writtenBy_render (layout : NumberLayout) {decimal : Decimal}
    (nonzero : decimal.digits ≠ 0) : decimal.WrittenBy (decimal.render layout) := by
  obtain ⟨digits, exponent⟩ := decimal
  have value := Text.digitsValue_ofNat digits
  simp only [render]
  split
  · have written := writtenBy_positional (Text.ofNat_ne_nil digits)
      (Text.isDigit_of_mem_ofNat digits) (Text.head?_ofNat_ne_zero nonzero) exponent
    rwa [value] at written
  · have written := writtenBy_scientific layout.exponentWidth (Text.ofNat_ne_nil digits)
      (Text.isDigit_of_mem_ofNat digits) exponent
    rwa [value] at written

end Decimal

namespace Json

/-! ## Doubles -/

/-- The number zero, which is written with a fraction. -/
def NumberText.zero : NumberText :=
  .pointed [CodePoint.ofChar '0'] [CodePoint.ofChar '0'] (List.cons_ne_nil _ _)
    Decimal.isDigit_zero (.inl rfl) (List.cons_ne_nil _ _) Decimal.isDigit_zero

/-- A double is written as a number with a fraction or an exponent whose decimal
is nearest to the double. -/
theorem render_eq_signed (number : FiniteDouble) :
    ∃ written : NumberText, number.render = written.signed number.negative
      ∧ (written.fraction ≠ none ∨ written.exponent ≠ none)
      ∧ written.decimal.toDouble number.negative = .finite number := by
  by_cases zero : number.isZero = true
  · refine ⟨NumberText.zero, ?_, .inl (Option.some_ne_none _), ?_⟩
    · rw [FiniteDouble.render, if_pos zero]
      cases number.negative <;> rfl
    · have nothing : NumberText.zero.decimal.digits = 0 := by decide
      rw [Decimal.toDouble, if_pos nothing, ← FiniteDouble.eq_zero_of_isZero zero]
  · rw [Bool.not_eq_true] at zero
    obtain ⟨written, is_text, broken, value⟩ :=
      Decimal.writtenBy_render .standard (FiniteDouble.digits_shortest_ne_zero zero)
    refine ⟨written, ?_, broken, (value number.negative).trans number.toDouble_shortest⟩
    simp only [FiniteDouble.render, zero, Bool.false_eq_true, if_false, is_text,
      NumberText.signed]
    cases number.negative <;> rfl

/-- **A finite double is read back from its text.** -/
theorem readNumber_render (number : FiniteDouble) {rest : Text} (ends : EndsNumber rest) :
    readNumber (number.render ++ rest) = some (.double number, rest) := by
  obtain ⟨written, is_signed, broken, nearest⟩ := render_eq_signed number
  rw [is_signed, NumberText.readNumber_signed]
  exact NumberText.readMagnitude_decimal ends broken nearest

end Json

end Heartbeat
