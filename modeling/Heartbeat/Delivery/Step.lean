import Heartbeat.Delivery.Tracker

/-!
# Runs

A run is a sequence of steps.  Records are reported, commands are tracked,
buffers are closed by their owners, and the level of the log changes.  A step
that fails leaves its mark on the world like any other, and the next one starts
from there.
-/

namespace Heartbeat

set_option autoImplicit false

/-- One step of a run. -/
inductive Step where
  /-- Deliver a record to a sink. -/
  | report (sink : Sink) (record : Record)
  /-- Run a command line and send the heartbeat for it. -/
  | track (tracker : Tracker) (runner : Runner) (line : Value)
  /-- Send the heartbeat for a command that was run elsewhere. -/
  | announce (tracker : Tracker) (command status : Value)
  /-- Close a buffer. -/
  | closeBuffer (destination : Label)
  /-- Give the library's logger a level. -/
  | setLevel (level : Value)

/-- What a step returns. -/
inductive StepResult where
  | nothing
  | code (code : Value)
  | command (command : Command)

namespace Delivery

/-- Closes a buffer; its content is not lost. -/
def closeBuffer (label : Label) : Delivery Unit := do
  match (← get).destination label with
  | .buffer content _ =>
    modify fun world => world.setDestination label (.buffer content true)
  | _ => return ()

/-- Gives the library's logger a level, or fails and leaves it as it was. -/
def setLevel (level : Value) : Delivery Unit := do
  let level ← ofExcept (LogLevel.ofValue level)
  modify fun world =>
    { world with levels := LoggerLevels.set world.levels LoggerName.library level }

end Delivery

namespace Step

/-- Does a step. -/
def perform : Step → Delivery StepResult
  | .report sink record => do
    sink.report record
    return .nothing
  | .track tracker runner line => do return .code (← tracker.track runner line)
  | .announce tracker command status => do
    return .command (← tracker.report command status)
  | .closeBuffer label => do
    Delivery.closeBuffer label
    return .nothing
  | .setLevel level => do
    Delivery.setLevel level
    return .nothing

/-- Does steps one after the other, whether they fail or not. -/
def performAll : List Step → World → List (Except Failure StepResult) × World
  | [], world => ([], world)
  | step :: steps, world =>
    let done := step.perform.run.run world
    let later := performAll steps done.2
    (done.1 :: later.1, later.2)

/-- Doing steps and then more steps is doing them all. -/
theorem performAll_append (first second : List Step) (world : World) :
    performAll (first ++ second) world
      = ((performAll first world).1 ++ (performAll second (performAll first world).2).1,
        (performAll second (performAll first world).2).2) := by
  induction first generalizing world with
  | nil => rfl
  | cons step steps hypothesis => simp [performAll, hypothesis]

end Step

end Heartbeat
