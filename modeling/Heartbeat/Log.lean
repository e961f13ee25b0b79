import Heartbeat.Record

/-!
# The log

Failures that delivery absorbs are not silent: each leaves an entry in the log,
and an entry is let through if its severity reaches the threshold of the logger
it was written to.  Loggers form a hierarchy by their names.  A logger without a
level of its own takes that of the nearest logger above it that has one, and the
root has the level of warnings.

What can be logged is a closed set of events, each with the data it carries.
-/

namespace Heartbeat

set_option autoImplicit false

/-! ## Levels -/

/-- The severity of an entry. -/
inductive Severity where
  | debug
  | info
  | warning
  | error
  | critical
deriving DecidableEq

namespace Severity

/-- All severities, in ascending order. -/
def all : List Severity := [.debug, .info, .warning, .error, .critical]

/-- The number of a severity. -/
def rank : Severity → Int
  | .debug => 10
  | .info => 20
  | .warning => 30
  | .error => 40
  | .critical => 50

/-- The name of a severity. -/
def name : Severity → String
  | .debug => "DEBUG"
  | .info => "INFO"
  | .warning => "WARNING"
  | .error => "ERROR"
  | .critical => "CRITICAL"

end Severity

/-- The level of a logger: a number, or a truth value that stands for one. -/
inductive LogLevel where
  | number (value : Int)
  | flag (value : Bool)
deriving DecidableEq

namespace LogLevel

/-- The number of a level. -/
def rank : LogLevel → Int
  | .number value => value
  | .flag value => if value then 1 else 0

/-- A level as a value. -/
def toValue : LogLevel → Value
  | .number value => .int value
  | .flag value => .bool value

/-- The names of levels, in capitals. -/
def named : List (String × Int) :=
  [("CRITICAL", 50), ("FATAL", 50), ("ERROR", 40), ("WARN", 30), ("WARNING", 30), ("INFO", 20),
    ("DEBUG", 10), ("NOTSET", 0)]

/-- The level with a name in capitals. -/
def ofName? (name : Text) : Option LogLevel :=
  (named.find? fun (candidate, _) => name.is candidate).map fun (_, rank) => .number rank

/-- The level that a value is: a number, a truth value, or a name in capitals. -/
def ofValue : Value → Except Failure LogLevel
  | .int rank => .ok (.number rank)
  | .bool set => .ok (.flag set)
  | .text name =>
    match ofName? name with
    | some level => .ok level
    | none => .error (.unknownLevel name)
  | value => do
    let shown ← value.shown
    throw (.invalidLevel shown)

end LogLevel

/-! ## Loggers -/

/-- The name of a logger, part by part from the root down. -/
abbrev LoggerName := List String

namespace LoggerName

/-- A name as it is written, with points between the parts. -/
def dotted (name : LoggerName) : String := String.intercalate "." name

/-- A logger and all above it, the nearest first; the root is not among them. -/
def lineage (name : LoggerName) : List LoggerName :=
  (List.range name.length).map fun above => name.take (name.length - above)

/-- The logger of the library. -/
def library : LoggerName := ["cli_metrics"]

/-- The logger of stream sinks. -/
def stream : LoggerName := ["cli_metrics", "sinks", "stream"]

/-- The logger of collector sinks. -/
def http : LoggerName := ["cli_metrics", "sinks", "http"]

/-- The logger of fan-outs. -/
def fanout : LoggerName := ["cli_metrics", "sinks", "fanout"]

/-- The logger of trackers. -/
def tracker : LoggerName := ["cli_metrics", "cli"]

/-- The logger of the assembly of reporters. -/
def reporter : LoggerName := ["cli_metrics", "telemetry", "reporter"]

end LoggerName

/-- The levels that loggers were given. -/
abbrev LoggerLevels := List (LoggerName × LogLevel)

namespace LoggerLevels

/-- The number that the level of the root logger has. -/
def rootRank : Int := 30

/-- The level that a logger was given, as a number; zero means none. -/
def ownRank (levels : LoggerLevels) (name : LoggerName) : Int :=
  match levels.find? fun (candidate, _) => decide (candidate = name) with
  | some (_, level) => level.rank
  | none => 0

/-- The least severity that a logger lets through, as a number. -/
def threshold (levels : LoggerLevels) (name : LoggerName) : Int :=
  match (LoggerName.lineage name).find? fun above => decide (ownRank levels above ≠ 0) with
  | some above => ownRank levels above
  | none => rootRank

/-- Whether a logger lets a severity through. -/
def lets (levels : LoggerLevels) (name : LoggerName) (severity : Severity) : Bool :=
  decide (threshold levels name ≤ severity.rank)

/-- The levels with that of one logger changed. -/
def set (levels : LoggerLevels) (name : LoggerName) (level : LogLevel) : LoggerLevels :=
  (name, level) :: levels.filter fun (candidate, _) => decide (candidate ≠ name)

/-- A logger has the level that it was given last. -/
theorem ownRank_set (levels : LoggerLevels) (name : LoggerName) (level : LogLevel) :
    ownRank (set levels name level) name = level.rank := by
  simp [ownRank, set]

end LoggerLevels

/-! ## Entries -/

/-- What can be logged. -/
inductive LogEvent where
  /-- A record could not be encoded. -/
  | encodeFailed (failure : Failure)
  /-- An entry could not be written. -/
  | writeFailed (failure : Failure)
  /-- An entry could not be posted to a collector. -/
  | postFailed (url : Text) (failure : Failure)
  /-- The answer of a collector could not be closed. -/
  | responseCloseFailed (failure : Failure)
  /-- A member of a fan-out failed. -/
  | memberFailed (index : Nat) (className : Text) (failure : Failure)
  /-- A child could not be started. -/
  | launchFailed (command : Value) (error : Text)
  /-- A heartbeat was handed over. -/
  | reported (command : Value) (status : Status)
  /-- The metrics file could not be opened. -/
  | fileUnavailable (path : Value) (failure : Failure)

namespace LogEvent

/-- The name of an event. -/
def name : LogEvent → String
  | .encodeFailed _ => "heartbeat_encode_failed"
  | .writeFailed _ => "heartbeat_write_failed"
  | .postFailed .. => "heartbeat_post_failed"
  | .responseCloseFailed _ => "heartbeat_response_close_failed"
  | .memberFailed .. => "heartbeat_member_failed"
  | .launchFailed .. => "command_launch_failed"
  | .reported .. => "heartbeat_reported"
  | .fileUnavailable .. => "metrics_file_unavailable"

/-- The severity of an event. -/
def severity : LogEvent → Severity
  | .launchFailed .. => .info
  | .fileUnavailable .. => .warning
  | _ => .debug

/-- The fields that an event carries beside its name. -/
def fields : LogEvent → List (String × Value)
  | .postFailed url _ => [("url", .text url)]
  | .memberFailed index className _ =>
    [("member_index", .int index), ("member", .text className)]
  | .launchFailed command error => [("command", command), ("error", .text error)]
  | .reported command status => [("command", command), ("status", .text status.text)]
  | .fileUnavailable path _ => [("path", path)]
  | _ => []

/-- The failure that an event tells of. -/
def failure? : LogEvent → Option Failure
  | .encodeFailed failure => some failure
  | .writeFailed failure => some failure
  | .postFailed _ failure => some failure
  | .responseCloseFailed failure => some failure
  | .memberFailed _ _ failure => some failure
  | .fileUnavailable _ failure => some failure
  | .launchFailed .. => none
  | .reported .. => none

end LogEvent

/-- An event together with the logger it was written to. -/
structure LogEntry where
  logger : LoggerName
  event : LogEvent

end Heartbeat
