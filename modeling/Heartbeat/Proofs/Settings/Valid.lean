import Heartbeat.Proofs.Value.Display
import Heartbeat.Settings.Resolve

/-!
# Settings that were checked

Settings that were resolved are valid, wherever they come from: what decides where
heartbeats go has the class that it should have, and the timeout is positive
(`Settings.valid_of_resolve`).  Overrides of the right classes keep settings valid.
-/

namespace Heartbeat

set_option autoImplicit false

namespace Settings

/-- The settings that decide where heartbeats go are what they should be. -/
structure Valid (settings : Settings) : Prop where
  metricsFile : ∃ path, settings.metricsFile = Value.ofText? path
  stdout : ∃ flag, settings.stdout = .bool flag
  httpEnabled : ∃ flag, settings.httpEnabled = .bool flag
  httpTimeout : ∃ number, settings.httpTimeout = .double number ∧ number.isPositive = true

/-- What holds of the default of a setting and of everything that its check lets
through holds of the setting. -/
theorem holds_of_checked {α : Type} {sources : Sources} {setting : SettingName}
    {check : Value → Except SettingFault α} {default result : α} (holds : α → Prop)
    (found : checked sources setting check default = .ok result) (initially : holds default)
    (checks : ∀ value result, check value = .ok result → holds result) : holds result := by
  rw [checked] at found
  split at found
  · exact checks _ _ found
  · obtain rfl := Except.ok.inj found
    exact initially

/-- What a check is turned into afterwards has the form that it is turned into. -/
theorem exists_of_map_ok {α β : Type} {check : Except SettingFault α} {form : α → β} {result : β}
    (found : form <$> check = .ok result) : ∃ value, check = .ok value ∧ result = form value := by
  cases check with
  | error fault => cases found
  | ok value => exact ⟨value, rfl, (Except.ok.inj found).symm⟩

/-- The timeout that is waited if nothing is set is positive. -/
theorem isPositive_standard : (Double.ofRatio false 2 1).isPositive = true := by decide +kernel

/-- **Settings that were resolved are valid.** -/
theorem valid_of_resolve {sources : Sources} {settings : Settings}
    (resolved : resolve sources = .ok settings) : settings.Valid := by
  rw [resolve] at resolved
  split at resolved
  · next found built =>
      obtain rfl := Except.ok.inj resolved
      obtain ⟨_, _, built⟩ := eq_ok_of_bind built
      obtain ⟨_, _, built⟩ := eq_ok_of_bind built
      obtain ⟨_, _, built⟩ := eq_ok_of_bind built
      obtain ⟨metricsFile, filed, built⟩ := eq_ok_of_bind built
      obtain ⟨stdout, printed, built⟩ := eq_ok_of_bind built
      obtain ⟨httpEnabled, posted, built⟩ := eq_ok_of_bind built
      obtain ⟨httpTimeout, timed, built⟩ := eq_ok_of_bind built
      obtain rfl := Except.ok.inj built
      have is_flag : ∀ value result, Value.bool <$> Scalar.bool value = .ok result →
          ∃ flag, result = .bool flag := fun value result found => by
        obtain ⟨flag, _, rfl⟩ := exists_of_map_ok found
        exact ⟨flag, rfl⟩
      refine ⟨?_, ?_, ?_, ?_⟩
      · refine holds_of_checked (fun value => ∃ path, value = Value.ofText? path) filed ⟨none, rfl⟩ ?_
        intro value result found
        obtain ⟨path, _, rfl⟩ := exists_of_map_ok found
        exact ⟨path, rfl⟩
      · exact holds_of_checked (∃ flag, · = .bool flag) printed ⟨false, rfl⟩ is_flag
      · exact holds_of_checked (∃ flag, · = .bool flag) posted ⟨true, rfl⟩ is_flag
      · refine holds_of_checked (∃ number, · = .double number ∧ number.isPositive = true) timed
          ⟨_, rfl, isPositive_standard⟩ ?_
        intro value result found
        obtain ⟨number, checked, rfl⟩ := exists_of_map_ok found
        rw [Scalar.positiveDouble] at checked
        obtain ⟨read, _, checked⟩ := eq_ok_of_bind checked
        split at checked
        · next positive =>
            obtain rfl := Except.ok.inj checked
            exact ⟨read, rfl, positive⟩
        · cases checked
  · cases resolved

/-- Overrides by truth values keep settings valid. -/
theorem Valid.override {settings : Settings} (valid : settings.Valid) {overrides : Overrides}
    (stdout : ∀ value ∈ overrides.stdout, ∃ flag, value = .bool flag)
    (http : ∀ value ∈ overrides.http, ∃ flag, value = .bool flag) :
    (settings.override overrides).Valid := by
  refine ⟨?_, ?_, ?_, valid.httpTimeout⟩
  · rw [Settings.override]
    cases overrides.metricsFile with
    | none => exact valid.metricsFile
    | some path => exact ⟨some path, rfl⟩
  · rw [Settings.override]
    cases given : overrides.stdout with
    | none => exact valid.stdout
    | some value => exact stdout value given
  · rw [Settings.override]
    cases given : overrides.http with
    | none => exact valid.httpEnabled
    | some value => exact http value given

end Settings

end Heartbeat
