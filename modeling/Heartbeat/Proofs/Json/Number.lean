import Heartbeat.Json.Reader
import Heartbeat.Proofs.Number.Digits

/-!
# Numbers as the format writes them

A number has a whole part without a superfluous zero, and after it a fraction, an
exponent, both or none.  `NumberText` is such a number, part by part, and its
parts obey the grammar by construction.

The strict reader takes a number apart again.  Without fraction and exponent it
finds the integer that the whole part writes (`readMagnitude_whole`), otherwise
the double nearest to the decimal (`readMagnitude_decimal`).  What follows must
not go on with the number, which the punctuation of the format does not.  So an
integer is read back, whatever its size (`readNumber_ofInt`).
-/

namespace Heartbeat

set_option autoImplicit false

namespace Json

/-- Text that does not go on with a number. -/
def EndsNumber (rest : Text) : Prop :=
  ∀ point ∈ rest.head?, point.isDigit = false ∧ point ≠ CodePoint.ofChar '.'
    ∧ point ≠ CodePoint.ofChar 'e' ∧ point ≠ CodePoint.ofChar 'E'

theorem EndsNumber.nil : EndsNumber [] := fun _ member => absurd member (Option.not_mem_none _)

theorem EndsNumber.endsDigits {rest : Text} (ends : EndsNumber rest) : Text.EndsDigits rest :=
  fun point member => (ends point member).1

/-- A number without its sign, part by part. -/
structure NumberText where
  whole : Text
  fraction : Option Text
  /-- Whether the exponent is negative, and its digits. -/
  exponent : Option (Bool × Text)
  whole_ne_nil : whole ≠ []
  isDigit_whole : ∀ point ∈ whole, point.isDigit = true
  leading : whole.length = 1 ∨ whole.head? ≠ some (CodePoint.ofChar '0')
  isDigit_fraction : ∀ digits ∈ fraction, digits ≠ [] ∧ ∀ point ∈ digits, point.isDigit = true
  isDigit_exponent : ∀ power ∈ exponent, power.2 ≠ [] ∧ ∀ point ∈ power.2, point.isDigit = true

namespace NumberText

theorem isDigit_of_mem_noFraction :
    ∀ digits ∈ (none : Option Text), digits ≠ [] ∧ ∀ point ∈ digits, point.isDigit = true :=
  fun _ member => absurd member (Option.not_mem_none _)

theorem isDigit_of_mem_noExponent :
    ∀ power ∈ (none : Option (Bool × Text)),
      power.2 ≠ [] ∧ ∀ point ∈ power.2, point.isDigit = true :=
  fun _ member => absurd member (Option.not_mem_none _)

/-! ## Writing -/

/-- The fraction behind its point. -/
def fractionText : Option Text → Text
  | none => []
  | some digits => CodePoint.ofChar '.' :: digits

/-- The exponent behind its mark and its sign. -/
def exponentText : Option (Bool × Text) → Text
  | none => []
  | some (negative, digits) =>
    CodePoint.ofChar 'e' :: CodePoint.ofChar (if negative then '-' else '+') :: digits

/-- The number that an exponent writes. -/
def exponentValue (power : Bool × Text) : Int :=
  if power.1 then -(Text.digitsValue power.2 : Int) else (Text.digitsValue power.2 : Int)

/-- The text of a number without its sign. -/
def text (number : NumberText) : Text :=
  number.whole ++ (fractionText number.fraction ++ exponentText number.exponent)

/-- The decimal that a number writes. -/
def decimal (number : NumberText) : Decimal :=
  Decimal.ofParts number.whole (number.fraction.getD [])
    ((number.exponent.map exponentValue).getD 0)

/-! ## Reading -/

theorem endsDigits_exponentText (exponent : Option (Bool × Text)) {rest : Text}
    (ends : EndsNumber rest) : Text.EndsDigits (exponentText exponent ++ rest) := by
  cases exponent with
  | none => exact ends.endsDigits
  | some power =>
      intro point member
      rw [← Option.some.inj member]
      decide

theorem endsDigits_fractionText (fraction : Option Text) {rest : Text}
    (ends : Text.EndsDigits rest) : Text.EndsDigits (fractionText fraction ++ rest) := by
  cases fraction with
  | none => exact ends
  | some digits =>
      intro point member
      rw [← Option.some.inj member]
      decide

/-- A fraction is read back, and so is its absence. -/
theorem readFraction_fractionText {fraction : Option Text} {rest : Text}
    (digits : ∀ digits ∈ fraction, digits ≠ [] ∧ ∀ point ∈ digits, point.isDigit = true)
    (ends : Text.EndsDigits rest) (point_free : rest.head? ≠ some (CodePoint.ofChar '.')) :
    readFraction (fractionText fraction ++ rest) = some (fraction, rest) := by
  cases fraction with
  | none =>
      cases rest with
      | nil => rfl
      | cons point rest =>
          have other : point ≠ CodePoint.ofChar '.' := fun same => point_free (by rw [same]; rfl)
          simp only [fractionText, List.nil_append, readFraction, if_neg other]
  | some run =>
      obtain ⟨nonempty, all⟩ := digits run rfl
      have found : run.isEmpty = false := by simpa using nonempty
      simp only [fractionText, List.cons_append, readFraction,
        Text.takeWhile_digits all ends, Text.dropWhile_digits all ends, found]
      rfl

theorem splitSign_sign (negative : Bool) (rest : Text) :
    Decimal.splitSign (CodePoint.ofChar (if negative then '-' else '+') :: rest)
      = (negative, rest) := by
  cases negative with
  | false =>
      rw [Decimal.splitSign, if_neg (by decide), if_pos (by decide)]
  | true => rw [Decimal.splitSign, if_pos (by decide)]

/-- An exponent is read back, and so is its absence. -/
theorem readExponent_exponentText {exponent : Option (Bool × Text)} {rest : Text}
    (digits : ∀ power ∈ exponent, power.2 ≠ [] ∧ ∀ point ∈ power.2, point.isDigit = true)
    (ends : EndsNumber rest) :
    readExponent (exponentText exponent ++ rest) = some (exponent.map exponentValue, rest) := by
  cases exponent with
  | none =>
      cases rest with
      | nil => rfl
      | cons point rest =>
          obtain ⟨_, _, small, large⟩ := ends point rfl
          simp [exponentText, readExponent, small, large]
  | some power =>
      obtain ⟨negative, run⟩ := power
      obtain ⟨nonempty, all⟩ := digits _ rfl
      have found : run.isEmpty = false := by simpa using nonempty
      simp only [exponentText, List.cons_append, readExponent, decide_true, Bool.true_or, if_true,
        splitSign_sign, Text.takeWhile_digits all ends.endsDigits,
        Text.dropWhile_digits all ends.endsDigits, found]
      rfl

/-- The reader finds the parts of a number. -/
theorem readMagnitude_text (number : NumberText) (negative : Bool) {rest : Text}
    (ends : EndsNumber rest) :
    readMagnitude negative (number.text ++ rest)
      = match number.fraction, number.exponent.map exponentValue with
        | none, none =>
          let value : Int := (Text.digitsValue number.whole : Nat)
          some (.int (if negative then -value else value), rest)
        | fraction, exponent =>
          match (Decimal.ofParts number.whole (fraction.getD [])
            (exponent.getD 0)).toDouble negative with
          | .finite value => some (.double value, rest)
          | _ => none := by
  have ends_exponent := endsDigits_exponentText number.exponent ends
  have point_free : (exponentText number.exponent ++ rest).head? ≠ some (CodePoint.ofChar '.') := by
    cases number.exponent with
    | none =>
        intro point
        exact (ends _ point).2.1 rfl
    | some power =>
        intro point
        exact absurd (Option.some.inj point) (by decide)
  have ends_whole := endsDigits_fractionText number.fraction ends_exponent
  have regular : (number.whole.isEmpty || (decide (1 < number.whole.length)
      && number.whole.head? == some (CodePoint.ofChar '0'))) = false := by
    have nonempty := number.whole_ne_nil
    rcases number.leading with single | other
    · simp [nonempty, single]
    · simp [nonempty, other]
  simp only [text, List.append_assoc, readMagnitude,
    Text.takeWhile_digits number.isDigit_whole ends_whole,
    Text.dropWhile_digits number.isDigit_whole ends_whole, regular]
  simp only [Bool.false_eq_true, if_false,
    readFraction_fractionText number.isDigit_fraction ends_exponent point_free,
    readExponent_exponentText number.isDigit_exponent ends, Option.bind_eq_bind, Option.bind_some]
  cases number.fraction with
  | none => cases number.exponent.map exponentValue <;> rfl
  | some digits => rfl

/-- A whole part alone is read as an integer. -/
theorem readMagnitude_whole {number : NumberText} (negative : Bool) {rest : Text}
    (ends : EndsNumber rest) (plain : number.fraction = none ∧ number.exponent = none) :
    readMagnitude negative (number.text ++ rest)
      = some (.int (if negative then -(Text.digitsValue number.whole : Int)
          else (Text.digitsValue number.whole : Int)), rest) := by
  rw [readMagnitude_text number negative ends, plain.1, plain.2]
  rfl

/-- A number with a fraction or an exponent is read as a double. -/
theorem readMagnitude_decimal {number : NumberText} {negative : Bool} {rest : Text}
    {value : FiniteDouble} (ends : EndsNumber rest)
    (broken : number.fraction ≠ none ∨ number.exponent ≠ none)
    (nearest : number.decimal.toDouble negative = .finite value) :
    readMagnitude negative (number.text ++ rest) = some (.double value, rest) := by
  rw [readMagnitude_text number negative ends]
  rw [decimal] at nearest
  split
  · next no_fraction no_exponent =>
      exact absurd no_exponent (by simpa [no_fraction] using broken)
  · rw [nearest]

/-! ## Signs -/

/-- The text of a number with its sign. -/
def signed (negative : Bool) (number : NumberText) : Text :=
  if negative then CodePoint.ofChar '-' :: number.text else number.text

/-- Without its sign a number begins with a digit. -/
theorem text_eq_cons (number : NumberText) :
    ∃ point rest, number.text = point :: rest ∧ point.isDigit = true := by
  obtain ⟨point, rest, is_whole⟩ := List.exists_cons_of_ne_nil number.whole_ne_nil
  refine ⟨point, rest ++ (fractionText number.fraction ++ exponentText number.exponent), ?_,
    number.isDigit_whole point ?_⟩
  · rw [text, is_whole, List.cons_append]
  · rw [is_whole]
    exact List.mem_cons_self ..

/-- A number begins with a minus sign or a digit. -/
theorem signed_eq_cons (negative : Bool) (number : NumberText) :
    ∃ point rest, number.signed negative = point :: rest
      ∧ (point = CodePoint.ofChar '-' ∨ point.isDigit = true) := by
  cases negative with
  | true => exact ⟨_, _, rfl, .inl rfl⟩
  | false =>
      obtain ⟨point, rest, written, digit⟩ := number.text_eq_cons
      exact ⟨point, rest, written, .inr digit⟩

/-- The reader takes the sign off. -/
theorem readNumber_signed (negative : Bool) (number : NumberText) (rest : Text) :
    readNumber (number.signed negative ++ rest)
      = readMagnitude negative (number.text ++ rest) := by
  cases negative with
  | true => rfl
  | false =>
      obtain ⟨point, tail, written, digit⟩ := number.text_eq_cons
      have unsigned : point ≠ CodePoint.ofChar '-' := by
        rintro rfl
        exact absurd digit (by decide)
      simp only [signed, Bool.false_eq_true, if_false, written, List.cons_append, readNumber,
        if_neg unsigned]

end NumberText

/-! ## Integers -/

/-- The number that a natural number is written as. -/
def NumberText.ofNat (number : Nat) : NumberText where
  whole := Text.ofNat number
  fraction := none
  exponent := none
  whole_ne_nil := Text.ofNat_ne_nil number
  isDigit_whole := Text.isDigit_of_mem_ofNat number
  leading := by
    by_cases zero : number = 0
    · rw [zero]
      exact .inl rfl
    · exact .inr (Text.head?_ofNat_ne_zero zero)
  isDigit_fraction := NumberText.isDigit_of_mem_noFraction
  isDigit_exponent := NumberText.isDigit_of_mem_noExponent

/-- An integer is written as a number. -/
theorem ofInt_eq_signed (number : Int) :
    Text.ofInt number = (NumberText.ofNat number.natAbs).signed (decide (number < 0)) := by
  have plain : ∀ magnitude, (NumberText.ofNat magnitude).text = Text.ofNat magnitude := by
    intro magnitude
    simp [NumberText.text, NumberText.ofNat, NumberText.fractionText, NumberText.exponentText]
  cases number with
  | ofNat magnitude =>
      have positive : ¬ Int.ofNat magnitude < 0 := by simp
      rw [decide_eq_false positive]
      exact (plain magnitude).symm
  | negSucc magnitude =>
      rw [decide_eq_true (Int.negSucc_lt_zero magnitude)]
      exact congrArg (CodePoint.ofChar '-' :: ·) (plain (magnitude + 1)).symm

/-- **An integer of any size is read back.** -/
theorem readNumber_ofInt (number : Int) {rest : Text} (ends : EndsNumber rest) :
    readNumber (Text.ofInt number ++ rest) = some (.int number, rest) := by
  rw [ofInt_eq_signed, NumberText.readNumber_signed,
    NumberText.readMagnitude_whole _ ends ⟨rfl, rfl⟩]
  have value : Text.digitsValue (NumberText.ofNat number.natAbs).whole = number.natAbs :=
    Text.digitsValue_ofNat number.natAbs
  rw [value]
  congr 3
  by_cases negative : number < 0
  · simp only [negative, decide_true, if_true]
    omega
  · simp only [negative, decide_false, Bool.false_eq_true, if_false]
    omega

end Json

end Heartbeat
