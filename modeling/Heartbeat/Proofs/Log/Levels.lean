import Heartbeat.Proofs.Settings.Usable

/-!
# Values that are levels

The log is set up with a level, and a level is given by a number, by a truth value, or by a
text that spells one (`Value.GivesLevel`).  No other value gives one, and the word for an
outcome does not either (`LogSetup.levelOf_eq_ok_iff`).

A text spells a level if it is one of eight names in capitals once it is taken in capitals
itself.  In particular each of the names does, in letters of either case
(`LogLevel.spells_of_recases`).
-/

namespace Heartbeat

set_option autoImplicit false

/-! ## Names in letters of either case -/

namespace CodePoint

/-- The ASCII capitals. -/
def isCapital (point : CodePoint) : Bool := decide (0x41 ≤ point.val ∧ point.val ≤ 0x5A)

/-- An ASCII letter of either case is taken for the capital. -/
theorem toUpper_of_isCapital {point letter : CodePoint} (capital : letter.isCapital = true)
    (same : point = letter ∨ point.val = letter.val + 0x20) : point.toUpper = [letter] := by
  have each : ∀ place : Fin 26, ∀ shift ∈ [0, 0x20],
      CodePoint.toUpper (Fin.ofNat 0x110000 (0x41 + place.val + shift))
        = [Fin.ofNat 0x110000 (0x41 + place.val)] := by decide +kernel
  have known : ∀ {found : CodePoint} {number : Nat}, found.val = number →
      found = Fin.ofNat 0x110000 number := by
    rintro found _ rfl
    exact (Fin.ofNat_val_eq_self found).symm
  obtain ⟨least, greatest⟩ := of_decide_eq_true capital
  let place : Fin 26 := ⟨letter.val - 0x41, by omega⟩
  have is_letter : letter.val = 0x41 + place.val := by
    show letter.val = 0x41 + (letter.val - 0x41)
    omega
  obtain ⟨shift, member, is_point⟩ : ∃ shift ∈ [0, 0x20], point.val = 0x41 + place.val + shift := by
    rcases same with rfl | small
    · exact ⟨0, by decide, is_letter⟩
    · exact ⟨0x20, by decide, by rw [small, is_letter]⟩
  rw [known is_point, each place shift member, ← known is_letter]

end CodePoint

namespace Text

/-- A text is a name in which capitals may have become small letters. -/
def Recases (text name : Text) : Prop :=
  List.Forall₂ (fun point letter => point = letter ∨ point.val = letter.val + 0x20) text name

instance (text name : Text) : Decidable (text.Recases name) :=
  inferInstanceAs (Decidable (List.Forall₂ _ text name))

/-- A text in capitals does not depend on the case of its letters. -/
theorem toUpper_of_recases {text name : Text} (recases : text.Recases name)
    (capital : name.all CodePoint.isCapital = true) : text.toUpper = name := by
  induction recases with
  | nil => rfl
  | @cons point letter text name same _ hypothesis =>
      rw [List.all_cons, Bool.and_eq_true] at capital
      have rest := hypothesis capital.2
      rw [toUpper] at rest ⊢
      rw [List.flatMap_cons, CodePoint.toUpper_of_isCapital capital.1 same, rest]
      rfl

end Text

/-- **A name spells its level in letters of either case.** -/
theorem LogLevel.spells_of_recases {name : String} {rank : Int} (member : (name, rank) ∈ named)
    {text : Text} (recases : text.Recases (name : Text)) : Spells text rank := by
  have capital : ∀ entry ∈ named, (entry.1 : Text).all CodePoint.isCapital = true := by decide
  exact ⟨name, member, Text.toUpper_of_recases recases (capital (name, rank) member)⟩

/-! ## Levels of values -/

/-- The level that a value gives. -/
inductive Value.GivesLevel : Value → LogLevel → Prop where
  | number (rank : Int) : GivesLevel (.int rank) (.number rank)
  | flag (set : Bool) : GivesLevel (.bool set) (.flag set)
  | spelled {text : Text} {rank : Int} (spells : LogLevel.Spells text rank) :
      GivesLevel (.text text) (.number rank)

namespace LogSetup

variable {value : Value} {level : LogLevel}

/-- No word for an outcome is the name of a level. -/
theorem levelOf_status (outcome : Status) :
    levelOf (.status outcome) = .error (.unknownLevel outcome.text.toUpper) := by
  have unnamed : LogLevel.ofName? outcome.text.toUpper = none := by
    cases outcome <;> decide +kernel
  show LogLevel.ofValue (.text outcome.text.toUpper) = _
  rw [LogLevel.ofValue, unnamed]

theorem givesLevel_of_levelOf (found : levelOf value = .ok level) : value.GivesLevel level := by
  cases value with
  | int rank =>
      obtain rfl : .number rank = level := Except.ok.inj found
      exact .number rank
  | bool set =>
      obtain rfl : .flag set = level := Except.ok.inj found
      exact .flag set
  | text text =>
      by_cases spelled : ∃ rank, LogLevel.Spells text rank
      · obtain ⟨rank, spells⟩ := spelled
        rw [levelOf_of_spells spells] at found
        obtain rfl : .number rank = level := Except.ok.inj found
        exact .spelled spells
      · rw [levelOf_of_not_spells fun rank spells => spelled ⟨rank, spells⟩] at found
        cases found
  | status outcome =>
      rw [levelOf_status] at found
      cases found
  | _ =>
      obtain ⟨shown, _, thrown⟩ := eq_ok_of_bind found
      cases thrown

/-- **The log takes exactly the values that give a level, and takes that level.** -/
theorem levelOf_eq_ok_iff : levelOf value = .ok level ↔ value.GivesLevel level := by
  refine ⟨givesLevel_of_levelOf, fun gives => ?_⟩
  cases gives with
  | number rank => rfl
  | flag set => rfl
  | spelled spells => exact levelOf_of_spells spells

/-- A value that the log refuses gives no level. -/
theorem not_givesLevel_of_refused (refused : (levelOf value).isOk = false) (level : LogLevel) :
    ¬ value.GivesLevel level := by
  intro gives
  rw [levelOf_eq_ok_iff.mpr gives] at refused
  cases refused

end LogSetup

end Heartbeat
