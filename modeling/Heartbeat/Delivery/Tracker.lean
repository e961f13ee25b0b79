import Heartbeat.Delivery.Sink
import Heartbeat.ExitCode

/-!
# Trackers

A tracker runs a command and sends one heartbeat that says how it ended.  An
interrupt counts as the command having been canceled, and a child that the system
could not start as a failure; any other failure of the runner passes, and then
there is no heartbeat.
-/

namespace Heartbeat

set_option autoImplicit false

/-- What becomes of a run: a code, or a failure. -/
inductive RunOutcome where
  | exited (code : Value)
  | failed (failure : Failure)

/-- What runs commands.  A run may change the files.  Only the runs of a traced runner
are noted. -/
structure Runner where
  traced : Bool
  start : FileTree → List Value → RunOutcome × FileTree

namespace Runner

/-- A runner that runs nothing and always has the same outcome. -/
def scripted (outcome : RunOutcome) : Runner := ⟨true, fun files _ => (outcome, files)⟩

end Runner

/-- A tracker: where its heartbeats go and what they say beside the outcome. -/
structure Tracker where
  sink : Sink
  context : Value
  source : Value
  logger : LoggerName

namespace Tracker

open Delivery

/-- The arguments of a command line; a text is a line of its characters. -/
def arguments : Value → Except Failure (List Value)
  | .list items => .ok items
  | .tuple items => .ok items
  | .dict entries => .ok (entries.map Prod.fst)
  | .text content => .ok (content.map fun point => .text [point])
  | .status outcome => .ok (outcome.text.map fun point => .text [point])
  | value => .error (.notIterable value.className)

/-- Whether a key is the one that the number zero looks up. -/
def isZeroKey : Value → Bool
  | .int number => decide (number = 0)
  | .bool flag => !flag
  | .double (.finite number) => number.isZero
  | _ => false

/-- The name of the command in a command line, which is what stands at zero.  In a
dictionary that need not be the first key. -/
def commandName (line : Value) : Except Failure Value :=
  match line with
  | .dict entries =>
    match entries.find? fun (key, _) => isZeroKey key with
    | some (_, name) => .ok name
    | none => .error (.missingKey "0")
  | other => do
    match (← arguments other) with
    | [] => throw .noCommand
    | name :: _ => return name

/-- Runs a command line. -/
def run (runner : Runner) (line : List Value) : Delivery Value := do
  if runner.traced then note (.run line)
  let (outcome, files) := runner.start (← get).files line
  modify fun world => { world with files }
  match outcome with
  | .exited code => return code
  | .failed failure => throw failure

/-- Sends a heartbeat for a command and returns the record.  A value that is only
the word for an outcome has no word of its own to be logged. -/
def report (tracker : Tracker) (command status : Value) : Delivery Command := do
  let record : Command := ⟨command, tracker.context, tracker.source, status⟩
  tracker.sink.report (.command record)
  match status with
  | .status outcome => log tracker.logger (.reported command outcome)
  | value => throw (.missingAttribute value.className "value")
  return record

/-- The code for a run that failed, an interrupt and a child that did not start having
codes too. -/
def recovered (tracker : Tracker) (line : Value) (failure : Failure) : Delivery Value := do
  if failure.kind = .keyboardInterrupt then return .int ExitCode.interrupted
  else if failure.isSystem then
    let name ← ofExcept (commandName line)
    log tracker.logger (.launchFailed name (← ofExcept failure.words))
    return .int ExitCode.notStarted
  else throw failure

/-- Runs a command line and returns its code. -/
def code (tracker : Tracker) (runner : Runner) (line : Value) : Delivery Value :=
  tryCatch
    (do
      let code ← run runner (← ofExcept (arguments line))
      ofExcept (ExitCode.normalize code))
    (tracker.recovered line)

/-- Runs a command line, sends one heartbeat, and returns the code. -/
def track (tracker : Tracker) (runner : Runner) (line : Value) : Delivery Value := do
  if !line.isTruthy then throw .noCommand
  let code ← tracker.code runner line
  let name ← ofExcept (commandName line)
  let outcome ← ofExcept (ExitCode.outcome code)
  let _ ← tracker.report name (.status outcome)
  return code

end Tracker

end Heartbeat
