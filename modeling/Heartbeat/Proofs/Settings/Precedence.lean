import Heartbeat.Proofs.Settings.EnvironmentFile
import Heartbeat.Proofs.Settings.Valid
import Heartbeat.Proofs.Text.Utf8

/-!
# Where settings are taken from

Every setting is taken from the first place that has it: an argument, a variable of the
environment, a variable of the environment file, the default.  Which value that is, the
relation `Selects` says, and what it comes to, the relation `Settles`: a value that is
selected is checked, and the default stays as it is.

Resolving goes through if and only if every setting is settled well, and then it gives what
each of them is settled as.  Otherwise it names exactly the settings that are not, in their
order (`Settings.resolve_settles`).  So nothing that is written in a later place matters,
not even if it is wrong, and neither does anything under a name that no setting has.
-/

namespace Heartbeat

set_option autoImplicit false

open Sources (Unnamed Last)
open EnvironmentFile (Gives Document assign)

/-! ## What is selected -/

/-- The value that is selected for a setting from arguments, an environment and what an
environment file declares, if any is. -/
inductive Selects (arguments : List (Text × Value)) (environment : List (Text × Text))
    (declared : List (Text × Option Text)) (setting : SettingName) : Option Value → Prop where
  | argument {value : Value} (given : Last setting.name arguments value) :
    Selects arguments environment declared setting (some value)
  | environment {content : Text} (no_argument : Unnamed setting.name arguments)
    (given : Last setting.variableName environment content) :
    Selects arguments environment declared setting (some (.text content))
  | file {content : Text} (no_argument : Unnamed setting.name arguments)
    (not_in_environment : Unnamed setting.variableName environment)
    (given : Gives declared setting.variableName content) :
    Selects arguments environment declared setting (some (.text content))
  | nothing (no_argument : Unnamed setting.name arguments)
    (not_in_environment : Unnamed setting.variableName environment)
    (not_in_file : ∀ content, ¬ Gives declared setting.variableName content) :
    Selects arguments environment declared setting none

/-- A value as a setting has to be, or what is wrong with it. -/
def SettingName.check (setting : SettingName) (value : Value) : Except SettingFault Value :=
  match setting with
  | .appName | .logLevel => Value.text <$> Scalar.text value
  | .telemetryEnabled | .stdout | .httpEnabled => Value.bool <$> Scalar.bool value
  | .metricsFile => Value.ofText? <$> Scalar.optionalText value
  | .httpTimeout => Value.double <$> Scalar.positiveDouble value

/-- What a setting comes to: its value, or what is wrong with the one that is selected. -/
inductive Settles (arguments : List (Text × Value)) (environment : List (Text × Text))
    (declared : List (Text × Option Text)) (setting : SettingName) :
    Except SettingFault Value → Prop where
  | selected {value : Value}
    (selects : Selects arguments environment declared setting (some value)) :
    Settles arguments environment declared setting (setting.check value)
  | default (selects : Selects arguments environment declared setting none) :
    Settles arguments environment declared setting (.ok (Settings.standard.get setting))

section Selection

variable {arguments : List (Text × Value)} {environment : List (Text × Text)}
  {declared : List (Text × Option Text)} {setting : SettingName}

/-- What is selected is the value in the first place that has one. -/
theorem selects_iff {value : Option Value} :
    Selects arguments environment declared setting value
      ↔ Sources.selected? ⟨arguments, environment, assign declared⟩ setting = value := by
  rw [Sources.selected?, Sources.argument?, Sources.environment?, Sources.file?]
  constructor
  · rintro (given | ⟨no_argument, given⟩ | ⟨no_argument, not_in_environment, given⟩
      | ⟨no_argument, not_in_environment, not_in_file⟩)
    · rw [Sources.lastOf_eq_some_iff.mpr given]
      rfl
    · rw [Sources.lastOf_eq_none_iff.mpr no_argument, Sources.lastOf_eq_some_iff.mpr given]
      rfl
    · rw [Sources.lastOf_eq_none_iff.mpr no_argument,
        Sources.lastOf_eq_none_iff.mpr not_in_environment,
        EnvironmentFile.join_lastOf_assign_eq_some_iff.mpr given]
      rfl
    · rw [Sources.lastOf_eq_none_iff.mpr no_argument,
        Sources.lastOf_eq_none_iff.mpr not_in_environment,
        EnvironmentFile.join_lastOf_assign_eq_none_iff.mpr not_in_file]
      rfl
  · rintro rfl
    cases argued : Sources.lastOf setting.name arguments with
    | some value => exact .argument (Sources.lastOf_eq_some_iff.mp argued)
    | none =>
        have no_argument := Sources.lastOf_eq_none_iff.mp argued
        cases there : Sources.lastOf setting.variableName environment with
        | some content => exact .environment no_argument (Sources.lastOf_eq_some_iff.mp there)
        | none =>
            have not_in_environment := Sources.lastOf_eq_none_iff.mp there
            cases found : (Sources.lastOf setting.variableName (assign declared)).join with
            | some content =>
                exact .file no_argument not_in_environment
                  (EnvironmentFile.join_lastOf_assign_eq_some_iff.mp found)
            | none =>
                exact .nothing no_argument not_in_environment
                  (EnvironmentFile.join_lastOf_assign_eq_none_iff.mp found)

end Selection

/-! ## Settings one by one -/

namespace Settings

/-- What a setting comes to. -/
def settled (sources : Sources) (setting : SettingName) : Except SettingFault Value :=
  checked sources setting setting.check (standard.get setting)

theorem settles_iff {arguments : List (Text × Value)} {environment : List (Text × Text)}
    {declared : List (Text × Option Text)} {setting : SettingName}
    {outcome : Except SettingFault Value} :
    Settles arguments environment declared setting outcome
      ↔ settled ⟨arguments, environment, assign declared⟩ setting = outcome := by
  rw [settled, checked]
  constructor
  · rintro (selects | selects) <;> rw [selects_iff.mp selects]
  · rintro rfl
    split
    · next selected => exact .selected (selects_iff.mpr selected)
    · next nothing => exact .default (selects_iff.mpr nothing)

section Resolve

variable {sources : Sources}

/-- A setting whose values are kept in another form comes to that form of what is kept. -/
theorem settled_eq_map {α : Type} {setting : SettingName}
    {check : Value → Except SettingFault α} {default : α} (form : α → Value)
    (checks : ∀ value, setting.check value = form <$> check value)
    (initially : standard.get setting = form default) :
    settled sources setting = form <$> checked sources setting check default := by
  rw [settled, checked, checked, initially]
  split
  · exact checks _
  · rfl

/-- What a check is turned into has one value that it comes from. -/
theorem eq_ok_of_map_ok {α β : Type} {check : Except SettingFault α} {form : α → β}
    (injective : Function.Injective form) {value : α} (found : form <$> check = .ok (form value)) :
    check = .ok value := by
  obtain ⟨original, checked, same⟩ := exists_of_map_ok found
  rw [checked, injective same]

/-- The settings are built as what each of them comes to. -/
theorem build_eq_ok_iff {settings : Settings} :
    build sources = .ok settings
      ↔ ∀ setting, settled sources setting = .ok (settings.get setting) := by
  constructor
  · intro built setting
    obtain ⟨appName, named, built⟩ := eq_ok_of_bind built
    obtain ⟨logLevel, logged, built⟩ := eq_ok_of_bind built
    obtain ⟨telemetryEnabled, enabled, built⟩ := eq_ok_of_bind built
    obtain ⟨metricsFile, filed, built⟩ := eq_ok_of_bind built
    obtain ⟨stdout, printed, built⟩ := eq_ok_of_bind built
    obtain ⟨httpEnabled, posted, built⟩ := eq_ok_of_bind built
    obtain ⟨httpTimeout, timed, built⟩ := eq_ok_of_bind built
    obtain rfl := Except.ok.inj built
    cases setting with
    | appName =>
        exact (settled_eq_map Value.text (fun _ => rfl) rfl).trans (congrArg _ named)
    | logLevel =>
        exact (settled_eq_map Value.text (fun _ => rfl) rfl).trans (congrArg _ logged)
    | telemetryEnabled =>
        exact (settled_eq_map Value.bool (fun _ => rfl) rfl).trans (congrArg _ enabled)
    | metricsFile => exact filed
    | stdout => exact printed
    | httpEnabled => exact posted
    | httpTimeout => exact timed
  · intro each
    have named : checked sources .appName Scalar.text standard.appName = .ok settings.appName :=
      eq_ok_of_map_ok (fun _ _ => Value.text.inj)
        ((settled_eq_map Value.text (fun _ => rfl) rfl).symm.trans (each .appName))
    have logged : checked sources .logLevel Scalar.text standard.logLevel
        = .ok settings.logLevel :=
      eq_ok_of_map_ok (fun _ _ => Value.text.inj)
        ((settled_eq_map Value.text (fun _ => rfl) rfl).symm.trans (each .logLevel))
    have enabled : checked sources .telemetryEnabled Scalar.bool standard.telemetryEnabled
        = .ok settings.telemetryEnabled :=
      eq_ok_of_map_ok (fun _ _ => Value.bool.inj)
        ((settled_eq_map Value.bool (fun _ => rfl) rfl).symm.trans (each .telemetryEnabled))
    have filed : checked sources .metricsFile
        (fun value => Value.ofText? <$> Scalar.optionalText value)
        standard.metricsFile = .ok settings.metricsFile := each .metricsFile
    have printed : checked sources .stdout (fun value => Value.bool <$> Scalar.bool value)
        standard.stdout = .ok settings.stdout := each .stdout
    have posted : checked sources .httpEnabled (fun value => Value.bool <$> Scalar.bool value)
        standard.httpEnabled = .ok settings.httpEnabled := each .httpEnabled
    have timed : checked sources .httpTimeout
        (fun value => Value.double <$> Scalar.positiveDouble value)
        standard.httpTimeout = .ok settings.httpTimeout := each .httpTimeout
    rw [build, named, logged, enabled, filed, printed, posted, timed]
    rfl

/-- Where settings are not built, something is wrong with one of them. -/
theorem exists_settled_error {fault : SettingFault} (failed : build sources = .error fault) :
    ∃ setting, settled sources setting = .error fault := by
  rcases eq_error_of_bind failed with wrong | ⟨_, _, failed⟩
  · exact ⟨.appName, (settled_eq_map Value.text (fun _ => rfl) rfl).trans (congrArg _ wrong)⟩
  rcases eq_error_of_bind failed with wrong | ⟨_, _, failed⟩
  · exact ⟨.logLevel, (settled_eq_map Value.text (fun _ => rfl) rfl).trans (congrArg _ wrong)⟩
  rcases eq_error_of_bind failed with wrong | ⟨_, _, failed⟩
  · exact ⟨.telemetryEnabled,
      (settled_eq_map Value.bool (fun _ => rfl) rfl).trans (congrArg _ wrong)⟩
  rcases eq_error_of_bind failed with wrong | ⟨_, _, failed⟩
  · exact ⟨.metricsFile, wrong⟩
  rcases eq_error_of_bind failed with wrong | ⟨_, _, failed⟩
  · exact ⟨.stdout, wrong⟩
  rcases eq_error_of_bind failed with wrong | ⟨_, _, failed⟩
  · exact ⟨.httpEnabled, wrong⟩
  rcases eq_error_of_bind failed with wrong | ⟨_, _, impossible⟩
  · exact ⟨.httpTimeout, wrong⟩
  cases impossible

/-- What is wrong with a setting is what is wrong with its value in another form. -/
theorem fault?_map {α β : Type} (form : α → β) (step : Except SettingFault α) :
    fault? (form <$> step) = fault? step := by
  cases step <;> rfl

/-- What is complained of about a setting is what it comes to. -/
theorem complaint?_eq_some_iff {setting : SettingName} {fault : SettingFault} :
    complaint? sources setting = some fault ↔ settled sources setting = .error fault := by
  have same : complaint? sources setting = fault? (settled sources setting) := by
    rw [complaint?, settled, checked]
    cases sources.selected? setting with
    | none => rfl
    | some value => cases setting <;> exact (fault?_map ..).symm
  rw [same]
  cases settled sources setting with
  | ok value => constructor <;> (intro impossible; cases impossible)
  | error cause => exact ⟨fun same => congrArg _ (Option.some.inj same),
      fun same => congrArg _ (Except.error.inj same)⟩

/-- The complaints are about the settings of which something wrong is selected. -/
theorem mem_complaints_iff {setting : SettingName} {fault : SettingFault} :
    (setting, fault) ∈ complaints sources ↔ settled sources setting = .error fault := by
  rw [← complaint?_eq_some_iff, complaints, List.mem_filterMap]
  constructor
  · rintro ⟨other, _, found⟩
    obtain ⟨_, complained, same⟩ := Option.map_eq_some_iff.mp found
    obtain ⟨rfl, rfl⟩ := Prod.mk.inj same
    exact complained
  · intro complained
    exact ⟨setting, by cases setting <;> decide, by rw [complained]; rfl⟩

/-- The complaints are in the order of the settings. -/
theorem sublist_complaints (sources : Sources) :
    ((complaints sources).map Prod.fst).Sublist SettingName.all := by
  have names : (complaints sources).map Prod.fst
      = SettingName.all.filter fun setting => (complaint? sources setting).isSome := by
    rw [complaints, List.map_filterMap, ← List.filterMap_eq_filter]
    congr 1
    funext setting
    cases complained : complaint? sources setting <;> simp [Option.guard, complained]
  rw [names]
  exact List.filter_sublist

/-- Settings are resolved as what each of them comes to. -/
theorem resolve_eq_ok_iff {settings : Settings} :
    resolve sources = .ok settings
      ↔ ∀ setting, settled sources setting = .ok (settings.get setting) := by
  rw [← build_eq_ok_iff, resolve]
  cases build sources with
  | ok built => exact ⟨fun same => congrArg _ (Except.ok.inj same),
      fun same => congrArg _ (Except.ok.inj same)⟩
  | error => constructor <;> (intro impossible; cases impossible)

/-- Resolving fails with all complaints, and if there is one. -/
theorem resolve_eq_error_iff {found : List SettingComplaint} :
    resolve sources = .error found
      ↔ found = complaints sources ∧ ∃ setting fault, settled sources setting = .error fault := by
  rw [resolve]
  cases built : build sources with
  | ok settings =>
      constructor
      · intro impossible
        cases impossible
      · rintro ⟨_, setting, fault, wrong⟩
        rw [build_eq_ok_iff.mp built setting] at wrong
        cases wrong
  | error fault =>
      constructor
      · intro same
        obtain ⟨setting, wrong⟩ := exists_settled_error built
        exact ⟨(Except.error.inj same).symm, setting, fault, wrong⟩
      · rintro ⟨rfl, _⟩
        rfl

/-- Resolving depends on nothing but what is selected. -/
theorem resolve_congr {others : Sources}
    (same : ∀ setting, others.selected? setting = sources.selected? setting) :
    resolve others = resolve sources := by
  have checked_same : ∀ {α : Type} (setting : SettingName)
      (check : Value → Except SettingFault α) (default : α),
      checked others setting check default = checked sources setting check default :=
    fun setting check default => by rw [checked, checked, same]
  have complaints_same : complaints others = complaints sources := by
    rw [complaints, complaints]
    congr 1
    funext setting
    rw [complaint?, complaint?, same]
  rw [resolve, resolve, build, build, complaints_same]
  simp only [checked_same]

end Resolve

end Settings

/-! ## From the environment file -/

namespace EnvironmentFile

/-- What a tree has for an environment file is what a document says.  A tree without such a
file says nothing. -/
inductive Document.StandsIn (document : Document) (tree : FileTree) : Prop where
  | file (readable : ∀ point ∈ document.text, point.isSurrogate = false)
    (content : tree.content? (tree.workingDirectory ++ [(".env" : Text)])
      = some document.text.bytes)
  | absent (silent : document.declared = [])
    (missing : tree.content? (tree.workingDirectory ++ [(".env" : Text)]) = none)

/-- The variables of the environment file are what the document declares. -/
theorem Document.StandsIn.fileVariables_eq {document : Document} {tree : FileTree}
    (stands : document.StandsIn tree) : Sources.fileVariables tree = assign document.declared := by
  rw [Sources.fileVariables]
  cases stands with
  | file readable content =>
      rw [content]
      dsimp only
      rw [Bytes.decode?_bytes _ readable]
      exact document.assignments_text
  | absent silent missing =>
      rw [missing, silent]
      rfl

end EnvironmentFile

namespace SettingName

/-- Whether an argument may matter: it is for a setting, in letters of either case, or it
begins with an underscore and so is not for settings at all. -/
def isKeyword (written : Text) : Bool :=
  all.any (fun setting => decide (written.toLowerAscii = setting.name))
    || decide (written.head? = some 0x5F)

/-- Whether a variable is for a setting. -/
def isVariable (written : Text) : Bool :=
  all.any fun setting => decide (written.toLowerAscii = setting.variableName)

theorem mem_all (setting : SettingName) : setting ∈ all := by cases setting <;> decide

theorem isKeyword_of_eq {setting : SettingName} {written : Text}
    (named : written.toLowerAscii = setting.name) : isKeyword written = true := by
  rw [isKeyword, List.any_eq_true.mpr ⟨setting, setting.mem_all, decide_eq_true named⟩,
    Bool.true_or]

theorem isVariable_of_eq {setting : SettingName} {written : Text}
    (named : written.toLowerAscii = setting.variableName) : isVariable written = true :=
  List.any_eq_true.mpr ⟨setting, setting.mem_all, decide_eq_true named⟩

end SettingName

/-- Names that no setting has do not matter to what is selected. -/
theorem Sources.selected?_filter (arguments : List (Text × Value))
    (environment : List (Text × Text)) (declared : List (Text × Option Text))
    (setting : SettingName) :
    selected? ⟨arguments.filter fun entry => SettingName.isKeyword entry.1,
        environment.filter fun entry => SettingName.isVariable entry.1,
        assign (declared.filter fun entry => SettingName.isVariable entry.1)⟩ setting
      = selected? ⟨arguments, environment, assign declared⟩ setting := by
  rw [← EnvironmentFile.filter_assign]
  simp only [selected?, argument?, environment?, file?]
  rw [lastOf_filter fun _ => SettingName.isKeyword_of_eq,
    lastOf_filter fun _ => SettingName.isVariable_of_eq,
    lastOf_filter fun _ => SettingName.isVariable_of_eq]

namespace Settings

/-- **Every setting is taken from the first place that has it.**  Whatever the arguments,
the environment and the environment file are, every setting comes to one thing: the checked
form of what is selected for it, or its default.  Resolving gives settings if and only if
they are what every setting comes to, and fails if and only if what is selected for one of
them is wrong.  Then it says of exactly these what is wrong with them, in the order of the
settings.  Names that no setting has do not matter. -/
theorem resolve_settles {document : Document} {tree : FileTree} (stands : document.StandsIn tree)
    (arguments : List (Text × Value)) (environment : List (Text × Text)) :
    let resolved := resolve ⟨arguments, environment, Sources.fileVariables tree⟩
    (∀ setting, ∃! outcome, Settles arguments environment document.declared setting outcome)
      ∧ (∀ settings, resolved = .ok settings ↔ ∀ setting,
        Settles arguments environment document.declared setting (.ok (settings.get setting)))
      ∧ ((∃ complaints, resolved = .error complaints) ↔ ∃ setting fault,
        Settles arguments environment document.declared setting (.error fault))
      ∧ (∀ complaints, resolved = .error complaints →
        (complaints.map Prod.fst).Sublist SettingName.all
          ∧ ∀ setting fault, (setting, fault) ∈ complaints
            ↔ Settles arguments environment document.declared setting (.error fault))
      ∧ ∀ (others : List (Text × Value)) (surroundings : List (Text × Text))
        (otherDocument : Document) (otherTree : FileTree), otherDocument.StandsIn otherTree →
        others.filter (fun entry => SettingName.isKeyword entry.1)
          = arguments.filter (fun entry => SettingName.isKeyword entry.1) →
        surroundings.filter (fun entry => SettingName.isVariable entry.1)
          = environment.filter (fun entry => SettingName.isVariable entry.1) →
        otherDocument.declared.filter (fun entry => SettingName.isVariable entry.1)
          = document.declared.filter (fun entry => SettingName.isVariable entry.1) →
        resolve ⟨others, surroundings, Sources.fileVariables otherTree⟩ = resolved := by
  rw [stands.fileVariables_eq]
  refine ⟨fun setting => ?_, fun settings => ?_, ?_, fun found failed => ?_, ?_⟩
  · exact ⟨_, settles_iff.mpr rfl, fun outcome settles => (settles_iff.mp settles).symm⟩
  · simp only [settles_iff]
    exact resolve_eq_ok_iff
  · simp only [settles_iff, resolve_eq_error_iff, exists_eq_left]
  · obtain ⟨rfl, _⟩ := resolve_eq_error_iff.mp failed
    simp only [settles_iff]
    exact ⟨sublist_complaints _, fun _ _ => mem_complaints_iff⟩
  · intro others surroundings otherDocument otherTree also same_keywords same_variables same_file
    rw [also.fileVariables_eq]
    refine resolve_congr fun setting => ?_
    rw [← Sources.selected?_filter, same_keywords, same_variables, same_file,
      Sources.selected?_filter]

/-- A file that gives one setting a value that is wrong and another one a value that is
not.  An argument is before the first of them. -/
theorem resolve_settles_shadowed :
    ∃ (document : Document) (tree : FileTree),
      let arguments : List (Text × Value) := [("stdout", .bool true)]
      let environment : List (Text × Text) := [("cli_metrics_http_enabled", "off")]
      document.text = ("export CLI_METRICS_STDOUT=\"?\"\nCLI_METRICS_APP_NAME= file # c" : Text)
        ∧ document.StandsIn tree
        ∧ resolve ⟨arguments, environment, Sources.fileVariables tree⟩
          = .ok { standard with
            appName := "file", stdout := .bool true, httpEnabled := .bool false } := by
  have name_points : ∀ word : Text, word.all (fun point => !EnvironmentFile.endsName point) = true →
      ∀ point ∈ word, EnvironmentFile.endsName point = false := fun word each => by
    simpa only [List.all_eq_true, Bool.not_eq_true'] using each
  let nothing : EnvironmentFile.Blanks := ⟨[], List.forall_mem_nil _⟩
  let space : EnvironmentFile.Blanks := ⟨" ", List.all_eq_true.mp (by decide)⟩
  let file : EnvironmentFile.InLine := ⟨"file", List.all_eq_true.mp (by decide)⟩
  let comment : EnvironmentFile.InLine := ⟨" c", List.all_eq_true.mp (by decide)⟩
  let quoted : EnvironmentFile.Content := .quoted nothing CodePoint.doubleQuote (.inr rfl)
    [.plain 0x3F (by decide) (by decide) (by decide)]
  have uncommented : EnvironmentFile.Uncommented (space.val ++ file.val) := fun _ _ part =>
    absurd (part.subset (List.mem_cons_of_mem _ (List.mem_cons_self ..))) (by decide)
  let literal : EnvironmentFile.Content := .literal space file
    (by rintro _ ⟨⟩; decide) (by rintro _ ⟨⟩; decide) uncommented
  let first : EnvironmentFile.Declaration := ⟨some space,
    .plain "CLI_METRICS_STDOUT" (by decide) (name_points _ (by decide)) (by decide) (by decide)
      (by decide),
    some (nothing, quoted), ⟨nothing, none⟩, by rintro _ ⟨⟩; decide, by rintro _ ⟨⟩; decide,
    by rintro _ ⟨⟩ ⟨⟩⟩
  let last : EnvironmentFile.Declaration := ⟨none,
    .plain "CLI_METRICS_APP_NAME" (by decide) (name_points _ (by decide)) (by decide) (by decide)
      (by decide),
    some (nothing, literal), ⟨space, some comment⟩, by rintro _ ⟨⟩,
    by rintro _ ⟨⟩; show ¬ EnvironmentFile.reference <:+: Text.ofString "file"; decide,
    by rintro _ ⟨⟩ _ _; decide⟩
  let document : Document := ⟨false, [(.declares nothing first, .feed)], .declares nothing last⟩
  let tree : FileTree := ⟨[([".env"], .file document.text.bytes)], [], []⟩
  have written : document.text
      = ("export CLI_METRICS_STDOUT=\"?\"\nCLI_METRICS_APP_NAME= file # c" : Text) := rfl
  have readable : document.text.all (fun point => !point.isSurrogate) = true := by
    rw [written]
    decide
  have stands : document.StandsIn tree :=
    .file (by simpa only [List.all_eq_true, Bool.not_eq_true'] using readable) rfl
  refine ⟨document, tree, written, stands, ?_⟩
  obtain ⟨_, resolved, _⟩ := resolve_settles stands [("stdout", .bool true)]
    [("cli_metrics_http_enabled", "off")]
  refine (resolved _).mpr fun setting => settles_iff.mpr ?_
  cases setting <;> rfl

/-- An argument whose name is in capitals has no setting's name, and yet it decides.  A
declaration without a value takes back the value that was declared before it. -/
theorem resolve_capitals :
    (∀ setting : SettingName, Text.ofString "STDOUT" ≠ Text.ofString setting.name)
      ∧ (∃ settings, resolve ⟨[("STDOUT", .bool true)], [], []⟩ = .ok settings
        ∧ settings.stdout = .bool true)
      ∧ (∃ settings, resolve ⟨[], [], []⟩ = .ok settings ∧ settings.stdout = .bool false)
      ∧ ∃ settings, resolve ⟨[], [], EnvironmentFile.assignments
          "CLI_METRICS_STDOUT=true\nCLI_METRICS_STDOUT\n"⟩ = .ok settings
        ∧ settings.stdout = .bool false := by
  refine ⟨fun setting => ?_, ⟨_, rfl, rfl⟩, ⟨_, rfl, rfl⟩, ⟨_, rfl, rfl⟩⟩
  cases setting <;> decide

end Settings

end Heartbeat
