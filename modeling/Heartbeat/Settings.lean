import Heartbeat.Value.Display

/-!
# Settings

The settings say where heartbeats go and how loudly the library speaks of what
went wrong.  There are seven of them, always in the same order.  Each has a name,
by which it is found in the environment and in the environment file, and a
default.
-/

namespace Heartbeat

set_option autoImplicit false

/-- The settings in force.  What decides where heartbeats go is kept as values, since
these settings may be changed without being checked. -/
structure Settings where
  appName : Text
  logLevel : Text
  telemetryEnabled : Bool
  metricsFile : Value
  stdout : Value
  httpEnabled : Value
  httpTimeout : Value

/-- The settings by name. -/
inductive SettingName where
  | appName
  | logLevel
  | telemetryEnabled
  | metricsFile
  | stdout
  | httpEnabled
  | httpTimeout
deriving DecidableEq

namespace SettingName

/-- All settings in their order. -/
def all : List SettingName :=
  [.appName, .logLevel, .telemetryEnabled, .metricsFile, .stdout, .httpEnabled, .httpTimeout]

/-- The name of a setting. -/
def name : SettingName → String
  | .appName => "app_name"
  | .logLevel => "log_level"
  | .telemetryEnabled => "telemetry_enabled"
  | .metricsFile => "metrics_file"
  | .stdout => "stdout"
  | .httpEnabled => "http_enabled"
  | .httpTimeout => "http_timeout_seconds"

/-- What the names of variables begin with, in small letters. -/
def variablePrefix : Text := "cli_metrics_"

/-- The name of the variable for a setting, in small letters. -/
def variableName (setting : SettingName) : Text := variablePrefix ++ setting.name

end SettingName

namespace Settings

/-- The settings when nothing is set. -/
def standard : Settings where
  appName := "cli-metrics"
  logLevel := "WARNING"
  telemetryEnabled := true
  metricsFile := .null
  stdout := .bool false
  httpEnabled := .bool true
  httpTimeout := .double (Double.ofRatio false 2 1)

/-- The value of a setting. -/
def get (settings : Settings) : SettingName → Value
  | .appName => .text settings.appName
  | .logLevel => .text settings.logLevel
  | .telemetryEnabled => .bool settings.telemetryEnabled
  | .metricsFile => settings.metricsFile
  | .stdout => settings.stdout
  | .httpEnabled => settings.httpEnabled
  | .httpTimeout => settings.httpTimeout

/-- All settings with their values, in order. -/
def entries (settings : Settings) : List (SettingName × Value) :=
  SettingName.all.map fun setting => (setting, settings.get setting)

end Settings

/-! ## Overrides -/

/-- What a caller changes about the settings.  Only the path has to be a text; the
rest is not checked. -/
structure Overrides where
  metricsFile : Option Text
  stdout : Option Value
  http : Option Value

namespace Overrides

/-- No change. -/
def unchanged : Overrides := ⟨none, none, none⟩

/-- The names of what can be changed. -/
def names : List String := ["metrics_file", "stdout", "http"]

/-- The first of the names that is none of a change. -/
def unknownName? (changes : List (Text × Value)) : Option Text :=
  (changes.map Prod.fst).find? fun name => !names.any fun known => name.is known

/-- The value given under a name; nothing is no change. -/
def given? (changes : List (Text × Value)) (name : String) : Option Value :=
  ((changes.find? fun (candidate, _) => candidate.is name).map Prod.snd).filter
    fun value => !value.isNull

/-- The overrides that changes by name ask for.  Anything can be the path, which is
the value in its plain form. -/
def ofChanges (changes : List (Text × Value)) : Except Failure Overrides := do
  let metricsFile ← (given? changes "metrics_file").mapM Value.plain
  return ⟨metricsFile, given? changes "stdout", given? changes "http"⟩

end Overrides

namespace Settings

/-- The settings with overrides. -/
def override (settings : Settings) (overrides : Overrides) : Settings :=
  { settings with
    metricsFile := (overrides.metricsFile.map Value.text).getD settings.metricsFile
    stdout := overrides.stdout.getD settings.stdout
    httpEnabled := overrides.http.getD settings.httpEnabled }

/-- Overriding nothing changes nothing. -/
theorem override_unchanged (settings : Settings) :
    settings.override Overrides.unchanged = settings := rfl

end Settings

end Heartbeat
