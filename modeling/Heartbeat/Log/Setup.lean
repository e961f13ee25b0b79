import Heartbeat.Log
import Heartbeat.Text.Upper

/-!
# Setting up the log

Setting up gives the library's logger a level and attaches a handler to it, the
handler only once.  A level is given by name, in letters of either case, or by
number.  What is no level is a failure, and then nothing has changed.
-/

namespace Heartbeat

set_option autoImplicit false

/-- The library's logger: its level, and how many handlers are attached. -/
structure LogSetup where
  level : LogLevel
  handlers : Nat

namespace LogSetup

/-- A logger that nobody has set up. -/
def unconfigured : LogSetup := ⟨.number 0, 0⟩

/-- The level that is used where none is given. -/
def defaultLevel : Value := .text "WARNING"

/-- The level that a value gives, a name being taken in capitals. -/
def levelOf (value : Value) : Except Failure LogLevel :=
  match value.text? with
  | some name => LogLevel.ofValue (.text name.toUpper)
  | none => LogLevel.ofValue value

/-- Sets up the logger with a level. -/
def configure (setup : LogSetup) (level : Value) : Except Failure Unit × LogSetup :=
  match levelOf level with
  | .error failure => (.error failure, setup)
  | .ok level => (.ok (), ⟨level, if setup.handlers = 0 then 1 else setup.handlers⟩)

/-- The levels of loggers that a setup brings about. -/
def levels (setup : LogSetup) : LoggerLevels := [(LoggerName.library, setup.level)]

/-- The severities that the library's logger lets through. -/
def enabled (setup : LogSetup) : List Severity :=
  Severity.all.filter fun severity => setup.levels.lets LoggerName.library severity

end LogSetup

end Heartbeat
