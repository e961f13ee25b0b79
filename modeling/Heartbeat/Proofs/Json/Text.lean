import Mathlib.Tactic.SplitIfs
import Heartbeat.Json.Reader
import Heartbeat.Proofs.Number.Digits

/-!
# Texts as the format writes them

A text stands between double quotes, and each of its points is written by itself
or by an escape.  The strict reader takes the escapes back one by one
(`readText_escape`), so it finds the text again whatever points it consists of,
and stops behind the closing quote (`readText_renderText`).
-/

namespace Heartbeat

set_option autoImplicit false

namespace Json

/-! ## Forms -/

/-- A point is written as a backslash and a letter, or by the escape of a control,
or as it stands. -/
theorem escape_cases (point : CodePoint) :
    (∃ letter, letter ≠ CodePoint.ofChar 'u' ∧ escaped? letter = some point
        ∧ escape point = [CodePoint.backslash, letter])
      ∨ (point.val < 0x20 ∧ escape point = ("\\u" : Text) ++ Text.hexadecimal 4 point.val)
      ∨ (point ≠ CodePoint.doubleQuote ∧ point ≠ CodePoint.backslash ∧ ¬ point.val < 0x20
        ∧ escape point = [point]) := by
  rw [escape]
  split_ifs with quote backslash backspace formFeed lineFeed carriageReturn tab control
  · exact .inl ⟨CodePoint.ofChar '"', by decide, by rw [quote]; rfl, rfl⟩
  · exact .inl ⟨CodePoint.ofChar '\\', by decide, by rw [backslash]; rfl, rfl⟩
  · exact .inl ⟨CodePoint.ofChar 'b', by decide, by rw [backspace]; rfl, rfl⟩
  · exact .inl ⟨CodePoint.ofChar 'f', by decide, by rw [formFeed]; rfl, rfl⟩
  · exact .inl ⟨CodePoint.ofChar 'n', by decide, by rw [lineFeed]; rfl, rfl⟩
  · exact .inl ⟨CodePoint.ofChar 'r', by decide, by rw [carriageReturn]; rfl, rfl⟩
  · exact .inl ⟨CodePoint.ofChar 't', by decide, by rw [tab]; rfl, rfl⟩
  · exact .inr (.inl ⟨control, rfl⟩)
  · exact .inr (.inr ⟨quote, backslash, control, rfl⟩)

/-! ## Controls -/

theorem hexadecimalValue?_ofDigit :
    ∀ digit < 16, (CodePoint.ofDigit digit).hexadecimalValue? = some digit := by decide

/-- The escape of a control has two zeros and two digits. -/
theorem hexadecimal_control : ∀ value < 0x20, Text.hexadecimal 4 value
    = [CodePoint.ofDigit 0, CodePoint.ofDigit 0, CodePoint.ofDigit (value / 16),
      CodePoint.ofDigit (value % 16)] := by decide

/-- A unit that is no surrogate is put before a text as it is. -/
theorem consUnit_of_lt {unit : Nat} (small : unit < 0xD800) (text : Text) :
    consUnit unit text = Fin.ofNat 0x110000 unit :: text := by
  cases text with
  | nil => rfl
  | cons low rest =>
      have single : ¬ (0xD800 ≤ unit ∧ unit < 0xDC00 ∧ 0xDC00 ≤ low.val ∧ low.val < 0xE000) :=
        fun pair => absurd pair.1 (by omega)
      simp only [consUnit, if_neg single]

/-- The escape of a control is read as the control. -/
theorem readText_control {point : CodePoint} (control : point.val < 0x20) (rest : Text) :
    readText (("\\u" : Text) ++ Text.hexadecimal 4 point.val ++ rest)
      = (readText rest).map fun (text, rest) => (point :: text, rest) := by
  have high := hexadecimalValue?_ofDigit (point.val / 16) (by omega)
  have low := hexadecimalValue?_ofDigit (point.val % 16) (by omega)
  have zero := hexadecimalValue?_ofDigit 0 (by decide)
  have value : ((0 * 16 + 0) * 16 + point.val / 16) * 16 + point.val % 16 = point.val := by omega
  have same : Fin.ofNat 0x110000 point.val = point := Fin.ofNat_val_eq_self point
  have mark : ("\\u" : Text) = [CodePoint.backslash, CodePoint.ofChar 'u'] := by decide
  rw [hexadecimal_control point.val control, mark]
  simp only [List.cons_append, List.nil_append, readText, high, low, zero, value,
    Option.bind_eq_bind, Option.bind_some, if_true]
  rw [if_neg (by decide)]
  cases readText rest with
  | none => rfl
  | some found =>
      simp only [Option.bind_some, Option.map_some, consUnit_of_lt (by omega : point.val < 0xD800),
        same]
      rfl

/-! ## Texts -/

/-- A quote ends a text. -/
theorem readText_quote (rest : Text) :
    readText (CodePoint.doubleQuote :: rest) = some ([], rest) := by
  rw [readText.eq_def]
  dsimp only
  rw [if_pos rfl]

/-- A point that needs no escape is read as it stands. -/
theorem readText_plain {point : CodePoint} (quote : point ≠ CodePoint.doubleQuote)
    (backslash : point ≠ CodePoint.backslash) (shown : ¬ point.val < 0x20) (rest : Text) :
    readText (point :: rest) = (readText rest).map fun (text, rest) => (point :: text, rest) := by
  rw [readText.eq_def]
  dsimp only
  rw [if_neg quote, if_neg backslash, if_neg shown]
  cases readText rest <;> rfl

/-- A backslash and a letter are read as what they stand for. -/
theorem readText_letter {letter point : CodePoint} (other : letter ≠ CodePoint.ofChar 'u')
    (meant : escaped? letter = some point) (rest : Text) :
    readText (CodePoint.backslash :: letter :: rest)
      = (readText rest).map fun (text, rest) => (point :: text, rest) := by
  rw [readText.eq_def]
  dsimp only
  rw [if_neg (by decide), if_pos rfl, if_neg other, meant]
  cases readText rest <;> rfl

/-- The form of a point is read as the point. -/
theorem readText_escape (point : CodePoint) (rest : Text) :
    readText (escape point ++ rest)
      = (readText rest).map fun (text, rest) => (point :: text, rest) := by
  rcases escape_cases point with ⟨letter, other, meant, form⟩ | ⟨control, form⟩
    | ⟨quote, backslash, shown, form⟩
  · rw [form]
    exact readText_letter other meant rest
  · rw [form]
    exact readText_control control rest
  · rw [form]
    exact readText_plain quote backslash shown rest

/-- **A text is read back, whatever points it consists of.** -/
theorem readText_renderText (text rest : Text) :
    readText (text.flatMap escape ++ CodePoint.doubleQuote :: rest) = some (text, rest) := by
  induction text with
  | nil => exact readText_quote rest
  | cons point text hypothesis =>
      rw [List.flatMap_cons, List.append_assoc, readText_escape, hypothesis]
      rfl

end Json

end Heartbeat
