import Heartbeat.Settings.Scalar
import Heartbeat.Settings.EnvironmentFile
import Heartbeat.Files.Tree

/-!
# Resolving settings

Every setting is taken from the first place that has it: the arguments of a
caller, the environment, the environment file, the default.  What stands in a
later place does not matter, not even if it is wrong.  Names are compared without
regard to case everywhere, and of two spellings the later one counts.

All settings that are wrong are reported together, in their order.
-/

namespace Heartbeat

set_option autoImplicit false

/-- Where settings come from. -/
structure Sources where
  arguments : List (Text × Value)
  environment : List (Text × Text)
  /-- The variables of the environment file; a name may be without a value. -/
  file : List (Text × Option Text)

namespace Sources

/-- The last value in a list for a name in small letters. -/
def lastOf {α : Type} (name : Text) (assignments : List (Text × α)) : Option α :=
  (assignments.reverse.find? fun (candidate, _) => decide (candidate.toLowerAscii = name)).map
    Prod.snd

/-- The value that a caller gives to a setting. -/
def argument? (sources : Sources) (setting : SettingName) : Option Value :=
  lastOf setting.name sources.arguments

/-- The value of a setting in the environment. -/
def environment? (sources : Sources) (setting : SettingName) : Option Value :=
  (lastOf setting.variableName sources.environment).map Value.text

/-- The value of a setting in the environment file. -/
def file? (sources : Sources) (setting : SettingName) : Option Value :=
  (lastOf setting.variableName sources.file).join.map Value.text

/-- The value of a setting in the first place that has it. -/
def selected? (sources : Sources) (setting : SettingName) : Option Value :=
  sources.argument? setting <|> sources.environment? setting <|> sources.file? setting

/-- The variables of the environment file in the working directory; a directory of
that name is no file. -/
def fileVariables (tree : FileTree) : List (Text × Option Text) :=
  match tree.content? (tree.workingDirectory ++ [(".env" : Text)]) with
  | some content => EnvironmentFile.assignments ((Bytes.decode? content).getD [])
  | none => []

end Sources

/-- A setting that is wrong, and how. -/
abbrev SettingComplaint := SettingName × SettingFault

namespace Settings

/-- A setting, checked, or its default. -/
def checked {α : Type} (sources : Sources) (setting : SettingName)
    (check : Value → Except SettingFault α) (default : α) : Except SettingFault α :=
  match sources.selected? setting with
  | some value => check value
  | none => .ok default

/-- What is wrong with a result. -/
def fault? {α : Type} : Except SettingFault α → Option SettingFault
  | .ok _ => none
  | .error fault => some fault

/-- What is wrong with a setting, if anything. -/
def complaint? (sources : Sources) (setting : SettingName) : Option SettingFault :=
  match sources.selected? setting with
  | none => none
  | some value =>
    match setting with
    | .appName => fault? (Scalar.text value)
    | .logLevel => fault? (Scalar.text value)
    | .telemetryEnabled => fault? (Scalar.bool value)
    | .metricsFile => fault? (Scalar.optionalText value)
    | .stdout => fault? (Scalar.bool value)
    | .httpEnabled => fault? (Scalar.bool value)
    | .httpTimeout => fault? (Scalar.positiveDouble value)

/-- Everything that is wrong, in the order of the settings. -/
def complaints (sources : Sources) : List SettingComplaint :=
  SettingName.all.filterMap fun setting =>
    (complaint? sources setting).map fun fault => (setting, fault)

/-- The settings that the sources give. -/
def build (sources : Sources) : Except SettingFault Settings := do
  let appName ← checked sources .appName Scalar.text standard.appName
  let logLevel ← checked sources .logLevel Scalar.text standard.logLevel
  let telemetryEnabled ← checked sources .telemetryEnabled Scalar.bool standard.telemetryEnabled
  let metricsFile ← checked sources .metricsFile
    (fun value => Value.ofText? <$> Scalar.optionalText value) standard.metricsFile
  let stdout ← checked sources .stdout
    (fun value => Value.bool <$> Scalar.bool value) standard.stdout
  let httpEnabled ← checked sources .httpEnabled
    (fun value => Value.bool <$> Scalar.bool value) standard.httpEnabled
  let httpTimeout ← checked sources .httpTimeout
    (fun value => Value.double <$> Scalar.positiveDouble value) standard.httpTimeout
  return { appName, logLevel, telemetryEnabled, metricsFile, stdout, httpEnabled, httpTimeout }

/-- The settings that the sources give, or everything that is wrong with them. -/
def resolve (sources : Sources) : Except (List SettingComplaint) Settings :=
  match build sources with
  | .ok settings => .ok settings
  | .error _ => .error (complaints sources)

end Settings

end Heartbeat
