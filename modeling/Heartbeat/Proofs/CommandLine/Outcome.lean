import Heartbeat.CommandLine.Application
import Heartbeat.Proofs.Delivery.Closing
import Heartbeat.Proofs.Delivery.Tracker
import Heartbeat.Proofs.Record.Acceptance
import Heartbeat.Proofs.Reporter.Quiet

/-!
# How calls end

What telemetry runs into while it delivers a heartbeat stays inside: a call that sends
a heartbeat ends with zero, and a call that runs a command with the number that the
run says.  But what was opened for a call is closed after the sinks have done their
part, with nobody left to absorb a failure, so what closing fails with takes the place
of the number.  This happens to a metrics file on a full device even if the sink
absorbed the first failure, since what was not written is tried again
(`Application.call_outcome`).

The proof follows the world through the call.  Building the reporter leaves it quiet
and registers what was opened (`Reporter.build_quiet`), heartbeats keep it so, and
closing fails with what the world says it fails with (`Delivery.run_closing`), which
is nothing if the call closes safely (`World.Calm.closingFailure_eq_none`).
-/

namespace Heartbeat

set_option autoImplicit false

open Delivery

/-! ## Trackers in quiet worlds -/

/-- A command with an outcome fails ordinarily if it cannot be encoded. -/
theorem Record.quiet_of_status (name context source : Value) (status : Status) :
    (Record.command ⟨name, context, source, .status status⟩).Quiet := by
  intro failure failed
  rcases (encode_eq_error_iff _ failure).mp failed with ⟨cause, found, rfl⟩ | ⟨_, _, _, _, rfl⟩
  · have described : (Record.command ⟨name, context, source, .status status⟩).payload = .ok _ := rfl
    rw [toJson_of_payload described] at found
    split at found
    · cases found
    · next offence _ =>
        obtain rfl := Except.error.inj found
        cases offence <;> rfl
  · rfl

/-- Running a child keeps a world quiet. -/
theorem Runner.quiet_once {world : World} (quiet : world.Quiet) (runner : Runner)
    (line : List Value) : (runner.once line world).2.Quiet := by
  rw [once]
  dsimp only
  split
  · exact quiet.of_same rfl rfl rfl
  · exact quiet.of_same rfl rfl rfl

theorem Runner.resources_once (runner : Runner) (line : List Value) (world : World) :
    (runner.once line world).2.resources = world.resources := by
  rw [once]
  dsimp only
  split <;> rfl

/-- What only adds to the log is calm. -/
theorem World.LogsOnly.calm {world later : World} (logs : world.LogsOnly later)
    (quiet : world.Quiet) : World.Calm world later := by
  obtain ⟨entries, rfl⟩ := logs
  exact { World.Calm.refl quiet with quiet := quiet.of_same rfl rfl rfl }

namespace Tracker

variable (tracker : Tracker) {members : List Sink} {logger : LoggerName}
  (is_fanout : tracker.sink = .fanout members logger) (harmless : tracker.sink.Quiet)

include is_fanout harmless

/-- A heartbeat over a fan-out is sent and logged. -/
theorem report_returns (name : Value) (status : Status) {start : World} (quiet : start.Quiet) :
    ∃ record later, (tracker.report name (.status status)).run.run start = (.ok record, later)
      ∧ World.Calm start later := by
  have encodes := Record.quiet_of_status name tracker.context tracker.source status
  obtain ⟨later, returned, kept⟩ :=
    Sink.returns_of_quiet encodes (is_fanout ▸ harmless) (World.Calm.refl quiet)
  rw [← is_fanout] at returned
  exact ⟨_, _, tracker.report_of_returns name status returned, kept.logged _⟩

/-- A run that says a number is tracked to its end. -/
theorem track_returns {runner : Runner} {name : Value} {arguments : List Value} {number : Nat}
    {start : World} (quiet : start.Quiet)
    (concludes : (runner.once (name :: arguments) start).1.Concludes number) :
    ∃ code later, (tracker.track runner (.list (name :: arguments))).run.run start
        = (.ok code, later)
      ∧ code.Whole number ∧ World.Calm (runner.once (name :: arguments) start).2 later := by
  obtain ⟨code, status, handed, whole, _, _, logs, reports⟩ := tracker.track_of_concludes concludes
  have found := logs.calm (Runner.quiet_once quiet runner _)
  have encodes := Record.quiet_of_status name tracker.context tracker.source status
  obtain ⟨later, returned, kept⟩ := Sink.returns_of_quiet encodes (is_fanout ▸ harmless) found
  rw [← is_fanout] at returned
  exact ⟨code, _, reports later returned, whole, kept.logged _⟩

end Tracker

/-! ## Closing what was opened for a call -/

namespace Ending

/-- A call ends with an outcome unless closing fails what was opened for it: then the last
failure of closing takes its place. -/
structure ClosesWith (ending : Ending) (opened : World) (outcome : Except Refusal Value) :
    Prop where
  closed : ∃ left, World.Calm opened left ∧ ending.result = match left.closingFailure with
    | none => outcome
    | some failure => .error (.failure failure)
  safely : opened.ClosesSafely → ending.result = outcome

/-- What a delivery fails with is what the call ends with, unless it is an interrupt. -/
theorem result_ofDelivery_error {failure : Failure} (apart : failure.kind ≠ .keyboardInterrupt)
    (world : World) : (ofDelivery (.error failure) world).result = .error (.failure failure) :=
  if_neg apart

/-- What closes everything after calm deliveries ends with their outcome unless closing
fails. -/
theorem closesWith_of_calm {opened left : World} (calm : World.Calm opened left)
    {outcome done : Except Failure Value} (ended : done = match left.closingFailure with
      | none => outcome
      | some failure => .error failure) (world : World) :
    (ofDelivery done world).ClosesWith opened (ofDelivery outcome world).result := by
  refine ⟨⟨left, calm, ?_⟩, fun safely => ?_⟩
  · rw [ended]
    cases failed : left.closingFailure with
    | none => rfl
    | some failure =>
        have ordinary := World.isOrdinary_of_closingFailure calm.quiet failed
        exact result_ofDelivery_error (Failure.kind_ne_interrupt ordinary) world
  · rw [ended, calm.closingFailure_eq_none safely]

end Ending

/-! ## Invocations -/

namespace Invocation

/-- What an invocation is that was read off arguments: overrides by switches are truth
values, and there is something to run. -/
def Sound : Invocation → Prop
  | .showConfig => True
  | .report _ _ _ _ overrides => (∀ value ∈ overrides.stdout, ∃ flag, value = .bool flag)
    ∧ ∀ value ∈ overrides.http, ∃ flag, value = .bool flag
  | .track words _ _ => words ≠ []

/-- A switch that was given is a truth value. -/
theorem is_bool_of_switch {switch : Option Bool} {value : Value}
    (given : value ∈ switch.map Value.bool) : ∃ flag, value = .bool flag := by
  obtain ⟨flag, _, same⟩ := Option.mem_map.mp given
  exact ⟨flag, same.symm⟩

/-- Every command checks what it reads. -/
theorem sound_of_read {command : CommandName} {line : List Text} {invocation : Invocation}
    (read : ofArguments command line = .ok (some invocation)) : invocation.Sound := by
  cases command with
  | showConfig =>
      obtain ⟨arguments, _, read⟩ := eq_ok_of_bind read
      split at read
      · cases read
      · obtain ⟨_, _, read⟩ := eq_ok_of_bind read
        cases read
        trivial
  | report =>
      obtain ⟨arguments, _, read⟩ := eq_ok_of_bind read
      split at read
      · cases read
      · obtain ⟨_, _, read⟩ := eq_ok_of_bind read
        obtain ⟨_, _, read⟩ := eq_ok_of_bind read
        split at read
        · cases read
        · obtain ⟨_, _, read⟩ := eq_ok_of_bind read
          cases read
          exact ⟨fun _ => is_bool_of_switch, fun _ => is_bool_of_switch⟩
  | track =>
      obtain ⟨arguments, _, read⟩ := eq_ok_of_bind read
      split at read
      · cases read
      · split at read
        · cases read
        · next occupied =>
            cases read
            exact fun empty => occupied (empty ▸ rfl)

end Invocation

/-! ## Calls -/

namespace Application

/-- A call comes as far as an invocation, with the settings that were found and the log
that was set up. -/
structure Understands (circumstances : Circumstances) (application : Application)
    (line : List Text) (settings : Settings) (invocation : Invocation) (log : LogSetup) : Prop where
  resolved : Settings.resolve (sources circumstances application) = .ok settings
  read : ∃ command rest, CommandName.select line = .ok (some (command, rest))
    ∧ Invocation.ofArguments command rest = .ok (some invocation)
  configured : application.log.configure (.text settings.logLevel) = (.ok (), log)

variable {circumstances : Circumstances} {application : Application} {line : List Text}
  {settings : Settings} {invocation : Invocation} {log : LogSetup}

/-- Such a call ends as what it asks for. -/
theorem call_of_understands
    (understands : application.Understands circumstances line settings invocation log) :
    let done := (perform circumstances settings invocation).run.run { application with log }.start
    (call circumstances application line).1 = .ofDelivery done.1 done.2 := by
  obtain ⟨command, rest, selected, read⟩ := understands.read
  intro done
  rw [call, understands.resolved]
  dsimp only
  rw [selected]
  dsimp only
  rw [understands.configured]
  dsimp only
  rw [callCommand, read]
  rfl

/-- What a call leaves behind is the log that was set up and the files. -/
theorem left_of_understands
    (understands : application.Understands circumstances line settings invocation log) :
    let done := (perform circumstances settings invocation).run.run { application with log }.start
    (call circumstances application line).2 = { application with log, files := done.2.files } := by
  obtain ⟨command, rest, selected, read⟩ := understands.read
  intro done
  rw [call, understands.resolved]
  dsimp only
  rw [selected]
  dsimp only
  rw [understands.configured]
  dsimp only
  rw [callCommand, read]
  rfl

theorem quiet_start (fine : Ordinary application.troubles.outcomes) : application.start.Quiet :=
  ⟨fun _ => trivial, fun _ => ⟨nofun, nofun⟩, fine⟩

/-- A whole number is the code that it says. -/
theorem codeOf_of_whole {code : Value} {number : Int} (whole : code.Whole number) :
    codeOf code = code := by
  rcases whole with rfl | ⟨flag, rfl, _⟩ <;> rfl

/-- What a tracked command line ends with once everything is closed. -/
theorem run_perform_track (words : List Text) {start built left : World} {found : Tracker}
    {context source : Option Text} {outcome : Except Failure Value}
    (is_found : (tracker circumstances settings context source).run.run start = (.ok found, built))
    (tracked : (found.track circumstances.runner (.list (words.map Value.text))).run.run built
      = (outcome, left)) (once : left.resources.Nodup) :
    ((perform circumstances settings (.track words context source)).run.run start).1
      = match left.closingFailure with
        | none => outcome.map codeOf
        | some failure => .error failure := by
  have delivered : (tracker circumstances settings context source >>= fun tracker =>
      tracker.track circumstances.runner (.list (words.map Value.text))
        : Delivery Value).run.run start = (outcome, left) :=
    (run_bind_of_ok is_found _).trans tracked
  have closed := run_closing delivered once
  rw [perform, run_bind]
  generalize (closing _).run.run start = done at closed ⊢
  obtain ⟨ended, last⟩ := done
  dsimp only at closed ⊢
  rw [closed]
  cases left.closingFailure with
  | none => cases outcome <;> rfl
  | some failure => rfl

/-- A heartbeat is sent by the tracker that is had. -/
theorem run_report_of_tracker {start built later : World} {found : Tracker}
    {context source : Option Text} {name : Text} {status : Status} {record : Command}
    (is_found : (tracker circumstances settings context source).run.run start = (.ok found, built))
    (reported : (found.report (.text name) (.status status)).run.run built = (.ok record, later)) :
    (tracker circumstances settings context source >>= fun tracker =>
        tracker.report (.text name) (.status status) >>= fun _ =>
          pure Ending.success : Delivery Value).run.run start = (.ok Ending.success, later) := by
  rw [run_bind_of_ok is_found, run_bind_of_ok reported]
  rfl

section Performing

variable (reachable : Ordinary circumstances.network.failures) {start built : World}
  (quiet : start.Quiet) (fresh : start.resources = []) {sink : Sink}

include reachable quiet fresh

/-- A tracker is had if the reporter is built, and what it reports to is a fan-out that
absorbs everything. -/
theorem tracker_of_builds (valid : settings.Valid)
    (builds : (Reporter.build circumstances.homes circumstances.network settings
      Lending.onlyResources).run.run start = (.ok sink, built)) (context source : Option Text) :
    ∃ found, (tracker circumstances settings context source).run.run start = (.ok found, built)
      ∧ (∃ members logger, found.sink = .fanout members logger) ∧ found.sink.Quiet
      ∧ built.Quiet ∧ built.resources.Nodup := by
  obtain ⟨still, ⟨filed, posted, registered⟩, members, logger, is_fanout, harmless⟩ :=
    Reporter.build_quiet valid reachable quiet fresh builds
  refine ⟨⟨sink, Value.ofText? context, Value.ofText? source, LoggerName.tracker⟩, ?_,
    ⟨members, logger, is_fanout⟩, harmless, still, ?_⟩
  · rw [tracker, run_bind_of_ok builds]
    rfl
  · rw [registered]
    exact Reporter.nodup_opens filed posted

/-- A heartbeat is sent, and then everything is closed. -/
theorem perform_report {overrides : Overrides} (valid : (settings.override overrides).Valid)
    (builds : (Reporter.build circumstances.homes circumstances.network
      (settings.override overrides) Lending.onlyResources).run.run start = (.ok sink, built))
    (name : Text) (context source : Option Text) (status : Status) :
    ∃ left, World.Calm built left
      ∧ ((perform circumstances settings
          (.report name context source status overrides)).run.run start).1
        = match left.closingFailure with
          | none => .ok Ending.success
          | some failure => .error failure := by
  obtain ⟨found, is_found, ⟨members, logger, is_fanout⟩, harmless, still, once⟩ :=
    tracker_of_builds reachable quiet fresh valid builds context source
  obtain ⟨record, later, reported, calm⟩ :=
    found.report_returns is_fanout harmless (.text name) status still
  have delivered := run_report_of_tracker is_found reported
  exact ⟨later, calm, run_closing delivered (calm.resources ▸ once)⟩

section Tracking

variable (valid : settings.Valid)
  (builds : (Reporter.build circumstances.homes circumstances.network settings
    Lending.onlyResources).run.run start = (.ok sink, built))
  {words : List Text} (something : words ≠ []) (context source : Option Text)

include valid builds something

/-- A command line whose run says a number is tracked, and then everything is closed. -/
theorem perform_track_of_concludes {number : Nat}
    (concludes : (circumstances.runner.once (words.map Value.text) built).1.Concludes number) :
    ∃ code left, code.Whole number
      ∧ World.Calm (circumstances.runner.once (words.map Value.text) built).2 left
      ∧ ((perform circumstances settings (.track words context source)).run.run start).1
        = match left.closingFailure with
          | none => .ok code
          | some failure => .error failure := by
  obtain ⟨found, is_found, ⟨members, logger, is_fanout⟩, harmless, still, once⟩ :=
    tracker_of_builds reachable quiet fresh valid builds context source
  obtain ⟨word, rest, rfl⟩ := List.exists_cons_of_ne_nil something
  obtain ⟨code, left, tracked, whole, calm⟩ := found.track_returns is_fanout harmless still concludes
  have registered := calm.resources.trans (circumstances.runner.resources_once _ built)
  have closed := run_perform_track (word :: rest) is_found tracked (registered ▸ once)
  rw [Except.map, codeOf_of_whole whole] at closed
  exact ⟨code, left, whole, calm, closed⟩

/-- So it is where the tracker cannot say why the child was not started. -/
theorem perform_track_of_unshown {failure obstacle : Failure}
    (failed : (circumstances.runner.once (words.map Value.text) built).1 = .failed failure)
    (system : failure.isSystem = true) (hindered : failure.words = .error obstacle) :
    ∃ left, World.Calm (circumstances.runner.once (words.map Value.text) built).2 left
      ∧ ((perform circumstances settings (.track words context source)).run.run start).1
        = match left.closingFailure with
          | none => .error obstacle
          | some failure => .error failure := by
  obtain ⟨found, is_found, _, _, still, once⟩ :=
    tracker_of_builds reachable quiet fresh valid builds context source
  obtain ⟨word, rest, rfl⟩ := List.exists_cons_of_ne_nil something
  have tracked := found.track_of_unshown failed system hindered
  have registered := circumstances.runner.resources_once ((word :: rest).map Value.text) built
  exact ⟨_, World.Calm.refl (Runner.quiet_once still _ _),
    run_perform_track (word :: rest) is_found tracked (registered ▸ once)⟩

end Tracking

end Performing

/-- **Telemetry changes how a call ends only when it is closed.**  Let a call come as far
as an invocation, among collaborators that raise no request to stop, and let the reporter
be built.  A heartbeat for a command ends with zero, and a command line whose run says a
number ends with that number, whatever the sinks run into, unless closing fails what was
opened; and where nothing registered is in trouble when it is closed and the metrics file
is not on a full device, closing does not fail.  What keeps the tracker from saying why
the child was not started takes the place of the number. -/
theorem call_outcome
    (understands : application.Understands circumstances line settings invocation log)
    (reachable : Ordinary circumstances.network.failures)
    (fine : Ordinary application.troubles.outcomes) :
    let start := { application with log }.start
    let ending := (call circumstances application line).1
    (∀ name context source status overrides,
      invocation = .report name context source status overrides →
      ∀ sink built, (Reporter.build circumstances.homes circumstances.network
          (settings.override overrides) Lending.onlyResources).run.run start = (.ok sink, built) →
        ending.ClosesWith built (.ok (.int 0)))
      ∧ ∀ words context source, invocation = .track words context source →
        ∀ sink built, (Reporter.build circumstances.homes circumstances.network settings
            Lending.onlyResources).run.run start = (.ok sink, built) →
          let ran := circumstances.runner.once (words.map Value.text) built
          (∀ number, ran.1.Concludes number →
            ∃ code, code.Whole number ∧ ending.ClosesWith ran.2 (.ok code))
          ∧ ∀ failure obstacle, ran.1 = .failed failure → failure.isSystem = true →
            failure.words = .error obstacle → obstacle.kind ≠ .keyboardInterrupt →
            ending.ClosesWith ran.2 (.error (.failure obstacle)) := by
  intro start ending
  have valid := Settings.valid_of_resolve understands.resolved
  have quiet : start.Quiet := quiet_start fine
  have ends : ending = _ := call_of_understands understands
  obtain ⟨command, rest, _, read⟩ := understands.read
  have sound := Invocation.sound_of_read read
  rw [ends]
  refine ⟨?_, ?_⟩
  · rintro name context source status overrides rfl sink built builds
    obtain ⟨left, calm, ended⟩ := perform_report reachable quiet rfl
      (valid.override sound.1 sound.2) builds name context source status
    exact Ending.closesWith_of_calm calm ended _
  · rintro words context source rfl sink built builds
    refine ⟨fun number concludes => ?_, fun failure obstacle failed system hindered apart => ?_⟩
    · obtain ⟨code, left, whole, calm, ended⟩ := perform_track_of_concludes reachable quiet rfl
        valid builds sound context source concludes
      exact ⟨code, whole, Ending.closesWith_of_calm calm ended _⟩
    · obtain ⟨left, calm, ended⟩ := perform_track_of_unshown reachable quiet rfl
        valid builds sound context source failed system hindered
      rw [← Ending.result_ofDelivery_error apart]
      exact Ending.closesWith_of_calm calm ended _

/-- A child that was killed decides how the call ends, though the network is down. -/
theorem call_outcome_killed :
    let down := Failure.external .transportConnection "down"
    let circumstances : Circumstances :=
      ⟨[], ⟨"/home", []⟩, ⟨[some down], 200⟩, Runner.scripted (.exited (.int (-9)))⟩
    let application := fresh ⟨[], [], []⟩
    let line : List Text := ["track", "sleep", "10"]
    (∃ settings invocation log,
        application.Understands circumstances line settings invocation log)
      ∧ Ordinary circumstances.network.failures ∧ Ordinary application.troubles.outcomes
      ∧ (call circumstances application line).1.result = .ok (.int 137) := by
  intro down circumstances application line
  have understands : application.Understands circumstances line Settings.standard
      (.track ["sleep", "10"] none none) _ :=
    ⟨rfl, ⟨.track, ["sleep", "10"], rfl, rfl⟩, rfl⟩
  have reachable : Ordinary circumstances.network.failures := by
    intro failure listed
    obtain rfl := Option.some.inj (List.mem_singleton.mp listed)
    rfl
  have fine : Ordinary application.troubles.outcomes := by
    intro failure listed
    exact absurd listed (by simp [Troubles.outcomes, application, fresh])
  have killed : (RunOutcome.exited (.int (-9))).Concludes 137 :=
    RunOutcome.Concludes.killed (show 0 < 9 by decide)
  let start := { application with log := (application.log.configure (.text "WARNING")).2 }.start
  have builds : (Reporter.build circumstances.homes circumstances.network Settings.standard
      Lending.onlyResources).run.run start
        = (.ok (.fanout [.http .session LoggerName.http] LoggerName.fanout),
          start.prepared Settings.standard Lending.onlyResources circumstances.network) := by
    rw [Reporter.run_build _ _ _ (Settings.valid_of_resolve understands.resolved)]
    rfl
  obtain ⟨code, whole, closes⟩ :=
    ((call_outcome understands reachable fine).2 _ _ _ rfl _ _ builds).1 137 killed
  have told : code = .int 137 := whole.eq_int (by decide)
  refine ⟨⟨_, _, _, understands⟩, reachable, fine, told ▸ closes.safely ⟨?_, fun _ _ => rfl⟩⟩
  intro label listed
  cases List.mem_singleton.mp listed

/-- A metrics file on a full device fails a second time when it is closed. -/
example : ((call ⟨[], ⟨"/home", []⟩, ⟨[], 200⟩, Runner.scripted (.exited (.int 0))⟩
    (fresh ⟨[(["dev"], .directory), (["dev", "full"], .device .full)], [], []⟩)
    ["report", "--command", "up", "--file", "/dev/full", "--no-http"]).1.result
      matches .error (.failure .deviceFull)) = true := by decide +kernel

end Application

end Heartbeat
