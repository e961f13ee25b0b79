import Heartbeat.CommandLine.Invocation
import Heartbeat.Delivery.Tracker
import Heartbeat.Log.Setup
import Heartbeat.Reporter
import Heartbeat.Settings.Layout
import Heartbeat.Settings.Resolve

/-!
# The application

A call of the application first reads the settings, then looks at the command
line as far as the name of the command, then sets up the log, and only then looks
at the rest.  Whatever is wrong ends the call at that point.

A call ends with a code or with the reason why there is none.  The files and the
log outlive it; the session to the collector does not.
-/

namespace Heartbeat

set_option autoImplicit false

/-- What outlives a call. -/
structure Application where
  files : FileTree
  log : LogSetup
  troubles : Troubles := {}

/-- What a call depends on beside its command line. -/
structure Circumstances where
  environment : List (Text × Text)
  homes : Homes
  network : Network
  /-- What runs children. -/
  runner : Runner

/-- Why a call ends without a code. -/
inductive Refusal where
  /-- The settings are wrong. -/
  | settings (complaints : List SettingComplaint)
  /-- The command line is not understood. -/
  | usage (fault : UsageFault)
  /-- Something failed. -/
  | failure (failure : Failure)

namespace Refusal

/-- The code that the program ends with. -/
def code : Refusal → Nat
  | .settings _ => 1
  | .usage _ => 2
  | .failure _ => 1

end Refusal

/-- What a call leaves behind: its ending, the events it caused, and what it wrote
to the standard output. -/
structure Ending where
  result : Except Refusal Value
  trace : List Event
  output : Bytes

namespace Ending

/-- The ending of a call that did nothing. -/
def silent (result : Except Refusal Value) : Ending := ⟨result, [], []⟩

/-- The code of a call to which nothing went wrong. -/
def success : Value := .int 0

/-- The ending of a delivery.  An interrupt has a code. -/
def ofDelivery (outcome : Except Failure Value) (world : World) : Ending where
  result := match outcome with
    | .ok code => .ok code
    | .error failure =>
      if failure.kind = .keyboardInterrupt then .ok (.int ExitCode.interrupted)
      else .error (.failure failure)
  trace := world.trace
  output := world.output

end Ending

namespace Application

open Delivery

/-- An application that was not called yet. -/
def fresh (files : FileTree) : Application := { files, log := LogSetup.unconfigured }

/-- The code that a call ends with for the code of a child.  Only whole numbers and
truth values are codes. -/
def codeOf : Value → Value
  | .int code => .int code
  | .bool code => .bool code
  | _ => Ending.success

/-- The tracker that the settings ask for. -/
def tracker (circumstances : Circumstances) (settings : Settings) (context source : Option Text) :
    Delivery Tracker := do
  let sink ←
    Reporter.build circumstances.homes circumstances.network settings Lending.onlyResources
  return ⟨sink, Value.ofText? context, Value.ofText? source, LoggerName.tracker⟩

/-- Does what a command line asks for. -/
def perform (circumstances : Circumstances) (settings : Settings) :
    Invocation → Delivery Value
  | .showConfig => do
    let shown ← ofExcept settings.layout
    modify fun world => { world with output := world.output ++ shown.bytes }
    return Ending.success
  | .report command context source status overrides => closing do
    let tracker ← tracker circumstances (settings.override overrides) context source
    let _ ← tracker.report (.text command) (.status status)
    return Ending.success
  | .track line context source => do
    let code ← closing do
      let tracker ← tracker circumstances settings context source
      tracker.track circumstances.runner (.list (line.map Value.text))
    return codeOf code

/-- Where a call finds its settings. -/
def sources (circumstances : Circumstances) (application : Application) : Sources where
  arguments := []
  environment := circumstances.environment
  file := Sources.fileVariables application.files

/-- The world that a call begins in. -/
def start (application : Application) : World :=
  { World.initial application.files application.log.levels with
    troubles := application.troubles }

/-- The part of a call that comes after the log was set up. -/
def callCommand (circumstances : Circumstances) (application : Application)
    (settings : Settings) (command : CommandName) (line : List Text) : Ending × Application :=
  match Invocation.ofArguments command line with
  | .error fault => (.silent (.error (.usage fault)), application)
  | .ok none => (.silent (.ok Ending.success), application)
  | .ok (some invocation) =>
    let (outcome, world) :=
      (perform circumstances settings invocation).run.run application.start
    (.ofDelivery outcome world, { application with files := world.files })

/-- One call of the application. -/
def call (circumstances : Circumstances) (application : Application) (line : List Text) :
    Ending × Application :=
  match Settings.resolve (sources circumstances application) with
  | .error complaints => (.silent (.error (.settings complaints)), application)
  | .ok settings =>
    match CommandName.select line with
    | .error fault => (.silent (.error (.usage fault)), application)
    | .ok none => (.silent (.ok Ending.success), application)
    | .ok (some (command, rest)) =>
      match application.log.configure (.text settings.logLevel) with
      | (.error failure, log) =>
        (.silent (.error (.failure failure)), { application with log })
      | (.ok (), log) => callCommand circumstances { application with log } settings command rest

end Application

end Heartbeat
