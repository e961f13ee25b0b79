import Heartbeat.Value.Display

/-!
# What keeps a value from being shown

Showing a value fails for two reasons only: an integer in it is too long, or its
containers are nested too deeply (`Value.hinders_of_shown`).  So what goes wrong
when a failure is put into words can itself be put into words.
-/

namespace Heartbeat

set_option autoImplicit false

/-! ## Two steps in a row -/

section Outcomes

variable {failure first second : Type} {step : Except failure first}
  {next : first → Except failure second}

/-- What comes of two steps comes of the second after the first. -/
theorem eq_ok_of_bind {result : second} (done : step >>= next = .ok result) :
    ∃ value, step = .ok value ∧ next value = .ok result := by
  cases step with
  | error failure => cases done
  | ok value => exact ⟨value, rfl, done⟩

/-- Two steps fail because the first fails or the second one after it. -/
theorem eq_error_of_bind {cause : failure} (failed : step >>= next = .error cause) :
    step = .error cause ∨ ∃ value, step = .ok value ∧ next value = .error cause := by
  cases step with
  | error failure => exact .inl (congrArg Except.error (Except.error.inj failed))
  | ok value => exact .inr ⟨value, rfl, failed⟩

end Outcomes

namespace Value

/-- The failures to show a value. -/
def Hinders (failure : Failure) : Prop := failure = .tooDeepToShow ∨ failure = .longInteger

mutual

theorem hinders_of_shownWithin {around : List Brackets} {depth : Nat} (value : Value)
    {failure : Failure} (failed : shownWithin around depth value = .error failure) :
    Hinders failure := by
  cases value with
  | null => cases failed
  | bool value => cases value <;> cases failed
  | int number =>
      rw [shownWithin, shownInt] at failed
      split at failed
      · cases failed
      · exact .inr (Except.error.inj failed).symm
  | double number => cases failed
  | text content => cases failed
  | status outcome => cases failed
  | list items =>
      rw [shownWithin] at failed
      split at failed
      · rcases eq_error_of_bind failed with inside | ⟨shown, _, impossible⟩
        · exact hinders_of_shownItems items inside
        · cases impossible
      · exact .inl (Except.error.inj failed).symm
  | tuple items =>
      rw [shownWithin] at failed
      split at failed
      · rcases eq_error_of_bind failed with inside | ⟨shown, _, impossible⟩
        · exact hinders_of_shownItems items inside
        · cases impossible
      · exact .inl (Except.error.inj failed).symm
  | dict entries =>
      rw [shownWithin] at failed
      split at failed
      · rcases eq_error_of_bind failed with inside | ⟨shown, _, impossible⟩
        · exact hinders_of_shownEntries entries inside
        · cases impossible
      · exact .inl (Except.error.inj failed).symm
  | command name context source outcome =>
      rw [shownWithin] at failed
      split at failed
      · rcases eq_error_of_bind failed with inside | ⟨_, _, failed⟩
        · exact hinders_of_shownWithin name inside
        rcases eq_error_of_bind failed with inside | ⟨_, _, failed⟩
        · exact hinders_of_shownWithin context inside
        rcases eq_error_of_bind failed with inside | ⟨_, _, failed⟩
        · exact hinders_of_shownWithin source inside
        rcases eq_error_of_bind failed with inside | ⟨_, _, impossible⟩
        · exact hinders_of_shownWithin outcome inside
        · cases impossible
      · exact .inl (Except.error.inj failed).symm
  | foreign name => cases failed
  | enclosing level => cases failed

theorem hinders_of_shownItems {around : List Brackets} {depth : Nat} (items : List Value)
    {failure : Failure} (failed : shownItems around depth items = .error failure) :
    Hinders failure := by
  cases items with
  | nil => cases failed
  | cons item items =>
      rw [shownItems] at failed
      rcases eq_error_of_bind failed with inside | ⟨_, _, failed⟩
      · exact hinders_of_shownWithin item inside
      rcases eq_error_of_bind failed with inside | ⟨_, _, impossible⟩
      · exact hinders_of_shownItems items inside
      · cases impossible

theorem hinders_of_shownEntries {around : List Brackets} {depth : Nat}
    (entries : List (Value × Value)) {failure : Failure}
    (failed : shownEntries around depth entries = .error failure) : Hinders failure := by
  cases entries with
  | nil => cases failed
  | cons entry entries =>
      obtain ⟨key, value⟩ := entry
      rw [shownEntries] at failed
      rcases eq_error_of_bind failed with inside | ⟨_, _, failed⟩
      · exact hinders_of_shownWithin key inside
      rcases eq_error_of_bind failed with inside | ⟨_, _, failed⟩
      · exact hinders_of_shownWithin value inside
      rcases eq_error_of_bind failed with inside | ⟨_, _, impossible⟩
      · exact hinders_of_shownEntries entries inside
      · cases impossible

end

/-- **Nothing but depth and long integers keeps a value from being shown.** -/
theorem hinders_of_shown {value : Value} {failure : Failure}
    (failed : value.shown = .error failure) : Hinders failure :=
  hinders_of_shownWithin value failed

end Value

end Heartbeat
