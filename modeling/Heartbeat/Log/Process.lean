import Heartbeat.Log.Setup

/-!
# The log of a process

A process holds more of its log than shows from outside.  Beside the level of the library's
logger and the handlers attached to it there is a note that the log was set up, and it is the
note, not the handlers, that decides whether one more is attached.

Setting up is done step by step.  A failure ends it where it occurs, and what the steps before
it have changed stays changed.
-/

namespace Heartbeat

set_option autoImplicit false

/-- What is attached to the library's logger. -/
inductive LogHandler where
  /-- Drops every entry.  It is attached from the beginning, so that nothing is printed
  unless the log is set up. -/
  | silent
  /-- Prints entries to the standard error. -/
  | standardError
deriving DecidableEq

/-- The log of a process. -/
structure ProcessLog where
  level : LogLevel
  handlers : List LogHandler
  /-- Whether the log was set up. -/
  isConfigured : Bool
deriving DecidableEq

namespace ProcessLog

/-- The log of a process that has not set it up, whatever level its logger has. -/
def unconfigured (level : LogLevel) : ProcessLog := ⟨level, [.silent], false⟩

/-- What shows of the log from outside. -/
def setup (log : ProcessLog) : LogSetup := ⟨log.level, log.handlers.count .standardError⟩

/-- Sets up the log with a level.  The handler is attached and the note is made by the first
set-up only. -/
def configure (value : Value) : ExceptT Failure (StateM ProcessLog) Unit := do
  let level ← ofExcept (LogSetup.levelOf value)
  modify fun log => { log with level }
  unless (← get).isConfigured do
    modify fun log => { log with handlers := log.handlers ++ [.standardError] }
    modify fun log => { log with isConfigured := true }

/-- Sets up the log again and again, whether that fails or not. -/
def configureAll : List Value → ProcessLog → List (Except Failure Unit) × ProcessLog
  | [], log => ([], log)
  | value :: values, log =>
    let done := (configure value).run.run log
    let later := configureAll values done.2
    (done.1 :: later.1, later.2)

/-- Setting up by some values and then by others is setting up by all of them. -/
theorem configureAll_append (first second : List Value) (log : ProcessLog) :
    configureAll (first ++ second) log
      = ((configureAll first log).1 ++ (configureAll second (configureAll first log).2).1,
        (configureAll second (configureAll first log).2).2) := by
  induction first generalizing log with
  | nil => rfl
  | cons value values hypothesis => simp [configureAll, hypothesis]

end ProcessLog

end Heartbeat
