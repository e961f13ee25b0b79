import Heartbeat.CommandLine.Invocation
import Heartbeat.Proofs.Settings.Precedence

/-!
# Overrides and variables

Where heartbeats go can be said in two ways.  A command line overrides settings that were
read before, and what it says is not checked again.  A variable is read with the other
settings and has to pass their checks, since it is a text, whatever is written in it.

Both ways lead to the same settings, except that a command line takes the path of the
metrics file apart and keeps the text of what it found (`Choices.Exports.resolve`).  A
variable is not always the one of its exact name: of two spellings the later one counts.
-/

namespace Heartbeat

set_option autoImplicit false

open Sources (Last Unnamed)

/-- Of what stands in two lists the second one counts. -/
theorem Sources.lastOf_append {α : Type} (name : Text) (first second : List (Text × α)) :
    lastOf name (first ++ second) = (lastOf name second).or (lastOf name first) := by
  rw [lastOf, lastOf, lastOf, List.reverse_append, List.find?_append, Option.map_or]

/-! ## Choices as texts -/

/-- A text writes itself, and a truth value is written as one of its words, in letters of
either case. -/
inductive Value.WrittenAs : Value → Text → Prop where
  | text (content : Text) : WrittenAs (.text content) content
  | bool {flag : Bool} {written : Text} {word : String}
    (listed : (word, flag) ∈ Scalar.boolWords) (spelled : written.toLowerAscii = word) :
    WrittenAs (.bool flag) written

/-- Small letters in place of capitals leave surrogates as they are. -/
theorem Text.any_isSurrogate_toLowerAscii (text : Text) :
    text.toLowerAscii.any CodePoint.isSurrogate = text.any CodePoint.isSurrogate := by
  rw [toLowerAscii, List.any_map]
  congr 1
  funext point
  rw [Function.comp_apply, CodePoint.toLowerAscii]
  split
  · next capital =>
      simp only [CodePoint.isSurrogate]
      have below : ¬ 0xD800 ≤ point.val := by omega
      have still : ¬ 0xD800 ≤ point.val + 32 := by omega
      simp [below, still]
  · rfl

namespace Scalar

/-- Every word for a truth value is read as that value. -/
theorem boolOfWord_of_listed {written : Text} {word : String} {flag : Bool}
    (listed : (word, flag) ∈ boolWords) (spelled : written.toLowerAscii = word) :
    boolOfWord written = .ok flag := by
  have apart : ∀ row ∈ boolWords, (Text.ofString row.1).any CodePoint.isSurrogate = false
      ∧ boolWords.find? (fun other => (Text.ofString row.1).is other.1) = some row := by
    decide
  obtain ⟨plain, found⟩ := apart _ listed
  rw [boolOfWord, ← Text.any_isSurrogate_toLowerAscii, spelled, plain]
  simp only [Bool.false_eq_true, if_false, found]

end Scalar

namespace Choices

/-- The value that is chosen for a setting. -/
def value? (choices : Choices) : SettingName → Option Value
  | .metricsFile => choices.path.map .text
  | .stdout => choices.stdout.map .bool
  | .httpEnabled => choices.http.map .bool
  | _ => none

/-- What is chosen passes the check of its setting in every way in which it is written. -/
theorem check_writtenAs {choices : Choices} {setting : SettingName} {value : Value}
    (chosen : choices.value? setting = some value) {content : Text}
    (written : value.WrittenAs content) : setting.check (.text content) = .ok value := by
  have flagged : ∀ {choice : Option Bool}, choice.map Value.bool = some value →
      Value.bool <$> Scalar.bool (.text content) = .ok value := by
    intro choice found
    obtain ⟨flag, _, rfl⟩ := Option.map_eq_some_iff.mp found
    cases written with
    | bool listed spelled => exact congrArg _ (Scalar.boolOfWord_of_listed listed spelled)
  cases setting with
  | metricsFile =>
      obtain ⟨path, _, rfl⟩ := Option.map_eq_some_iff.mp chosen
      cases written with
      | text => rfl
  | stdout => exact flagged chosen
  | httpEnabled => exact flagged chosen
  | appName => cases chosen
  | logLevel => cases chosen
  | telemetryEnabled => cases chosen
  | httpTimeout => cases chosen

/-! ## Choices in an environment -/

/-- Choices are exported to an environment: the variable of each setting is a text of what
is chosen for it, or it is what it was if nothing is chosen. -/
structure Exports (choices : Choices) (environment changed : List (Text × Text)) : Prop where
  chosen : ∀ setting value, choices.value? setting = some value →
    ∃ content, value.WrittenAs content ∧ Last setting.variableName changed content
  others : ∀ setting, choices.value? setting = none → ∀ content,
    Last setting.variableName changed content ↔ Last setting.variableName environment content

section Exports

variable {choices : Choices} {environment changed : List (Text × Text)}
  (exported : choices.Exports environment changed)

include exported

/-- With choices exported a setting comes to what is chosen for it, or to what it came to
before. -/
theorem Exports.settled (file : List (Text × Option Text)) (setting : SettingName) :
    Settings.settled ⟨[], changed, file⟩ setting
      = match choices.value? setting with
        | some value => .ok value
        | none => Settings.settled ⟨[], environment, file⟩ setting := by
  cases found : choices.value? setting with
  | some value =>
      obtain ⟨content, written, last⟩ := exported.chosen setting value found
      have selected : Sources.selected? ⟨[], changed, file⟩ setting = some (.text content) := by
        rw [Sources.selected?, Sources.environment?, Sources.lastOf_eq_some_iff.mpr last]
        rfl
      rw [Settings.settled, Settings.checked, selected]
      exact check_writtenAs found written
  | none =>
      have same : Sources.lastOf setting.variableName changed
          = Sources.lastOf setting.variableName environment := by
        refine Option.ext fun content => ?_
        rw [Sources.lastOf_eq_some_iff, Sources.lastOf_eq_some_iff]
        exact exported.others setting found content
      simp only [Settings.settled, Settings.checked, Sources.selected?, Sources.environment?, same]
      rfl

end Exports

/-! ## Choices on a command line -/

/-- Overriding changes what is chosen and nothing else. -/
theorem get_override_verbatim (choices : Choices) (settings : Settings) (setting : SettingName) :
    (settings.override choices.verbatim).get setting
      = (choices.value? setting).getD (settings.get setting) := by
  cases setting <;> rfl

/-- How the path is written matters to the metrics file only. -/
theorem get_override_overrides (choices : Choices) (settings : Settings) {setting : SettingName}
    (other : setting ≠ .metricsFile) :
    (settings.override choices.overrides).get setting
      = (settings.override choices.verbatim).get setting := by
  cases setting with
  | metricsFile => exact absurd rfl other
  | _ => rfl

/-- The metrics file of choices is the path that is chosen. -/
theorem metricsFile_override_verbatim (choices : Choices) (settings : Settings) :
    (settings.override choices.verbatim).metricsFile
      = (choices.path.map Value.text).getD settings.metricsFile := rfl

/-- The metrics file of a command line is the path that is chosen, taken apart. -/
theorem metricsFile_override_overrides (choices : Choices) (settings : Settings) :
    (settings.override choices.overrides).metricsFile
      = (choices.path.map fun path => Value.text (Path.ofText path).toText).getD
        settings.metricsFile := by
  rw [Settings.override, overrides, Option.map_map]
  rfl

/-- A setting for which nothing is chosen stays as it is. -/
theorem get_override_of_unchosen {choices : Choices} {setting : SettingName}
    (unchosen : choices.value? setting = none) (settings : Settings) :
    (settings.override choices.overrides).get setting = settings.get setting
      ∧ (settings.override choices.verbatim).get setting = settings.get setting := by
  have kept : (settings.override choices.verbatim).get setting = settings.get setting := by
    rw [get_override_verbatim, unchosen, Option.getD_none]
  refine ⟨?_, kept⟩
  by_cases file : setting = .metricsFile
  · subst file
    have pathless : choices.path = none := Option.map_eq_none_iff.mp unchosen
    rw [Settings.get, metricsFile_override_overrides, pathless]
    rfl
  · rw [get_override_overrides choices settings file, kept]

/-- **Exporting choices gives the settings that overriding gives**, and it cannot fail where
there were settings to override. -/
theorem Exports.resolve {choices : Choices} {environment changed : List (Text × Text)}
    (exported : choices.Exports environment changed) {file : List (Text × Option Text)}
    {settings : Settings} (resolved : Settings.resolve ⟨[], environment, file⟩ = .ok settings) :
    Settings.resolve ⟨[], changed, file⟩ = .ok (settings.override choices.verbatim) := by
  refine Settings.resolve_eq_ok_iff.mpr fun setting => ?_
  rw [exported.settled, get_override_verbatim]
  cases choices.value? setting with
  | some value => rfl
  | none => exact Settings.resolve_eq_ok_iff.mp resolved setting

/-! ## Exporting -/

/-- The word that a truth value is exported as. -/
def wordOf (flag : Bool) : Text := if flag then "true" else "false"

theorem writtenAs_wordOf (flag : Bool) : (Value.bool flag).WrittenAs (wordOf flag) := by
  cases flag with
  | false => exact .bool (by decide : ("false", false) ∈ Scalar.boolWords) (by decide)
  | true => exact .bool (by decide : ("true", true) ∈ Scalar.boolWords) (by decide)

/-- The text that is exported for a setting. -/
def content? (choices : Choices) : SettingName → Option Text
  | .metricsFile => choices.path
  | .stdout => choices.stdout.map wordOf
  | .httpEnabled => choices.http.map wordOf
  | _ => none

/-- What is exported for a setting is what is chosen for it, written as a text. -/
theorem rel_content? (choices : Choices) (setting : SettingName) :
    Option.Rel Value.WrittenAs (choices.value? setting) (choices.content? setting) := by
  have flagged : ∀ choice : Option Bool,
      Option.Rel Value.WrittenAs (choice.map Value.bool) (choice.map wordOf) := by
    rintro (_ | flag)
    · exact .none
    · exact .some (writtenAs_wordOf flag)
  cases setting with
  | metricsFile =>
      show Option.Rel Value.WrittenAs (choices.path.map Value.text) choices.path
      cases choices.path with
      | none => exact .none
      | some path => exact .some (.text path)
  | stdout => exact flagged choices.stdout
  | httpEnabled => exact flagged choices.http
  | appName => exact .none
  | logLevel => exact .none
  | telemetryEnabled => exact .none
  | httpTimeout => exact .none

/-- The variables that choices are exported in, with their contents. -/
def assignments (choices : Choices) : List (Text × Text) :=
  [("CLI_METRICS_METRICS_FILE", SettingName.metricsFile),
    ("CLI_METRICS_STDOUT", .stdout), ("CLI_METRICS_HTTP_ENABLED", .httpEnabled)].filterMap
    fun (name, setting) => (choices.content? setting).map fun content => (name, content)

/-- The variable of a setting has what is exported for it. -/
theorem lastOf_assignments (choices : Choices) (setting : SettingName) :
    Sources.lastOf setting.variableName choices.assignments = choices.content? setting := by
  obtain ⟨path, stdout, http⟩ := choices
  cases path <;> cases stdout <;> cases http <;> cases setting <;> rfl

/-- **Choices can be exported to every environment**, which is to set their variables last. -/
theorem exports_append (choices : Choices) (environment : List (Text × Text)) :
    choices.Exports environment (environment ++ choices.assignments) := by
  have last : ∀ setting : SettingName,
      Sources.lastOf setting.variableName (environment ++ choices.assignments)
        = (choices.content? setting).or (Sources.lastOf setting.variableName environment) :=
    fun setting => by rw [Sources.lastOf_append, lastOf_assignments]
  constructor
  · intro setting value chosen
    have related := choices.rel_content? setting
    have found := last setting
    rw [chosen] at related
    generalize choices.content? setting = exported at related found
    cases related with
    | some written => exact ⟨_, written, Sources.lastOf_eq_some_iff.mp found⟩
  · intro setting unchosen content
    have related := choices.rel_content? setting
    have found := last setting
    rw [unchosen] at related
    generalize choices.content? setting = exported at related found
    cases related with
    | none => rw [← Sources.lastOf_eq_some_iff, ← Sources.lastOf_eq_some_iff, found, Option.none_or]

end Choices

end Heartbeat
