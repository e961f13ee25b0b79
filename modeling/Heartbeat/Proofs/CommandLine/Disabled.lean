import Heartbeat.Proofs.CommandLine.Outcome

/-!
# Calls without telemetry

Where telemetry is off, a call that sends a heartbeat or runs a command does nothing on its
own account but log.  The reporter that is built for it has no members, whatever the other
settings and the command line ask for, so no metrics file is opened, nothing is written to
the standard output, no session is built and nothing is registered that would have to be
closed.  What is left is the child, which is run as ever, and the code
(`Application.call_disabled`).

Nothing is assumed of the files, the network and the troubles: nobody is there who could run
into them.
-/

namespace Heartbeat

set_option autoImplicit false

open Delivery

/-- The tracker that reports to nobody. -/
def Tracker.unheard (context source : Option Text) : Tracker :=
  ⟨.fanout [] LoggerName.fanout, Value.ofText? context, Value.ofText? source, LoggerName.tracker⟩

namespace Application

variable {circumstances : Circumstances} {application : Application} {line : List Text}
  {settings : Settings}

/-! ## Commands -/

section Performing

variable (disabled : settings.telemetryEnabled = false)

include disabled

/-- Without telemetry a tracker reports to nobody, and having it changes nothing. -/
theorem run_tracker_disabled (circumstances : Circumstances) (context source : Option Text)
    (start : World) :
    (tracker circumstances settings context source).run.run start
      = (.ok (.unheard context source), start) := by
  rw [tracker, run_bind_of_ok (Reporter.run_build_disabled disabled ..)]
  rfl

variable {start : World} (fresh : start.resources = [])

include fresh

/-- A heartbeat that nobody hears is logged, and that is all. -/
theorem run_perform_report_disabled (circumstances : Circumstances) (name : Text)
    (context source : Option Text) (status : Status) (overrides : Overrides) :
    (perform circumstances settings (.report name context source status overrides)).run.run start
      = (.ok Ending.success, start.logged ⟨LoggerName.tracker, .reported (.text name) status⟩) := by
  -- Nothing that a command line overrides is the switch for telemetry.
  have still : (settings.override overrides).telemetryEnabled = false := disabled
  have reported := (Tracker.unheard context source).report_of_returns (.text name) status
    (rfl : ((Tracker.unheard context source).sink.report _).run.run start = (.ok (), start))
  have delivered := run_report_of_tracker
    (run_tracker_disabled still circumstances context source start) reported
  refine run_closing_of_resources_nil delivered ?_
  rw [World.logged]
  split <;> exact fresh

/-- A command line is run as ever, and beside the run only the log may have grown. -/
theorem run_perform_track_disabled (circumstances : Circumstances) {words : List Text}
    (something : words ≠ []) (context source : Option Text) :
    let ran := circumstances.runner.once (words.map Value.text) start
    ∃ outcome left,
      (perform circumstances settings (.track words context source)).run.run start = (outcome, left)
        ∧ ran.2.LogsOnly left
        ∧ ∀ number, ran.1.Concludes number → ∃ code, code.Whole number ∧ outcome = .ok code := by
  obtain ⟨word, rest, rfl⟩ := List.exists_cons_of_ne_nil something
  intro ran
  cases tracked : ((Tracker.unheard context source).track circumstances.runner
    (.list ((word :: rest).map Value.text))).run.run start with
  | mk outcome left =>
    have logs : ran.2.LogsOnly left := by
      have logs := (Tracker.unheard context source).logs_track (fun _ => .pure ())
        circumstances.runner (.text word) (rest.map Value.text) start
      rwa [← List.map_cons, tracked] at logs
    have untouched : left.resources = [] := by
      obtain ⟨entries, rfl⟩ := logs
      exact (Runner.resources_once _ _ start).trans fresh
    have delivered : (tracker circumstances settings context source >>= fun tracker =>
        tracker.track circumstances.runner (.list ((word :: rest).map Value.text))
          : Delivery Value).run.run start = (outcome, left) :=
      (run_bind_of_ok (run_tracker_disabled disabled ..) _).trans tracked
    refine ⟨outcome.map codeOf, left, ?_, logs, fun number concludes => ?_⟩
    · rw [perform, run_bind, run_closing_of_resources_nil delivered untouched]
      cases outcome <;> rfl
    · obtain ⟨code, _, handed, whole, _, _, _, reports⟩ :=
        (Tracker.unheard context source).track_of_concludes concludes
      have ended := congrArg Prod.fst (tracked.symm.trans (reports handed rfl))
      refine ⟨code, whole, ?_⟩
      rw [show outcome = .ok code from ended, Except.map, codeOf_of_whole whole]

end Performing

/-! ## Calls -/

/-- A call that does nothing on its own account but log: it writes nothing to the standard
output, and beside entries in the log nothing happens but the given events, which leave the
given files. -/
structure Reticent (done : Ending × Application) (events : List Event) (files : FileTree) :
    Prop where
  output : done.1.output = []
  trace : done.1.trace.filter (fun event => !event.isLog) = events
  files : done.2.files = files

section Calling

variable {invocation : Invocation} {log : LogSetup}
  (understands : application.Understands circumstances line settings invocation log)
  {outcome : Except Failure Value} {left : World}
  (performed : (perform circumstances settings invocation).run.run { application with log }.start
    = (outcome, left))

include understands performed

/-- A call is as reticent as what it asks for. -/
theorem reticent_of_performed {reached : World} (logs : reached.LogsOnly left)
    (silent : reached.output = []) :
    Reticent (call circumstances application line) reached.unlogged.trace reached.files where
  output := by
    rw [call_of_understands understands, performed]
    exact (congrArg World.output logs.unlogged).trans silent
  trace := by
    rw [call_of_understands understands, performed]
    exact congrArg World.trace logs.unlogged
  files := by
    rw [left_of_understands understands, performed]
    exact (congrArg World.files logs.unlogged :)

theorem result_of_performed :
    (call circumstances application line).1.result = (Ending.ofDelivery outcome left).result := by
  rw [call_of_understands understands, performed]

end Calling

/-- A call that is not understood is silent. -/
theorem reticent_of_not_understands {command : CommandName} {rest : List Text}
    (resolved : Settings.resolve (sources circumstances application) = .ok settings)
    (selected : CommandName.select line = .ok (some (command, rest)))
    (refused : ∀ invocation log,
      ¬ application.Understands circumstances line settings invocation log) :
    Reticent (call circumstances application line) [] application.files := by
  rw [call, resolved]
  dsimp only
  rw [selected]
  dsimp only
  split
  · exact ⟨rfl, rfl, rfl⟩
  · next log configured =>
      rw [callCommand]
      split
      · exact ⟨rfl, rfl, rfl⟩
      · exact ⟨rfl, rfl, rfl⟩
      · next invocation read =>
          exact absurd ⟨resolved, ⟨command, rest, selected, read⟩, configured⟩
            (refused invocation log)

/-- **A call without telemetry leaves nothing of its own behind.**  Let the settings be known
and telemetry be off, whatever else they say, and let a command line be given with whatever
options, among whatever files, network and troubles.

A heartbeat for a command ends with zero.  A command line is run once on the files as they
are, and if the run says a number the call ends with it.  Beside this only the log grows: no
file or directory is created or changed, the standard output stays empty, no session is built
and no request is made.  So it is too where the arguments are not understood or the log cannot
be set up. -/
theorem call_disabled {command : CommandName} {rest : List Text}
    (resolved : Settings.resolve (sources circumstances application) = .ok settings)
    (disabled : settings.telemetryEnabled = false)
    (selected : CommandName.select line = .ok (some (command, rest))) :
    let done := call circumstances application line
    let understands := application.Understands circumstances line settings
    (∀ name context source status overrides log,
        understands (.report name context source status overrides) log →
        Reticent done [] application.files ∧ done.1.result = .ok (.int 0))
      ∧ (∀ words context source log, understands (.track words context source) log →
        let ran := circumstances.runner.start application.files (words.map Value.text)
        let runs := if circumstances.runner.traced then [.run (words.map Value.text)] else []
        Reticent done runs ran.2
          ∧ ∀ number, ran.1.Concludes number →
            ∃ code, code.Whole number ∧ done.1.result = .ok code)
      ∧ ((∀ invocation log, ¬ understands invocation log) →
        Reticent done [] application.files) := by
  intro done understands
  refine ⟨?_, ?_, fun refused => reticent_of_not_understands resolved selected refused⟩
  · intro name context source status overrides log understood
    have performed := run_perform_report_disabled disabled
      (rfl : { application with log }.start.resources = []) circumstances name context source
      status overrides
    exact ⟨reticent_of_performed understood performed (.logged _ _) rfl,
      result_of_performed understood performed⟩
  · intro words context source log understood ran runs
    obtain ⟨_, _, _, read⟩ := understood.read
    obtain ⟨outcome, left, performed, logs, concluded⟩ := run_perform_track_disabled disabled
      (rfl : { application with log }.start.resources = []) circumstances
      (Invocation.sound_of_read read : words ≠ []) context source
    refine ⟨?_, fun number concludes => ?_⟩
    · have reticent := reticent_of_performed understood performed logs
      rw [Runner.once] at reticent
      dsimp only at reticent
      dsimp only [runs]
      split at reticent
      · next traced =>
          rw [if_pos traced]
          exact reticent rfl
      · next untraced =>
          rw [if_neg untraced]
          exact reticent rfl
    · obtain ⟨code, whole, ended⟩ := concluded number concludes
      refine ⟨code, whole, ?_⟩
      rw [show done.1.result = _ from result_of_performed understood performed, ended]
      rfl

/-- A metrics file, the standard output and the network are asked for twice over, and nothing
comes of it. -/
theorem call_disabled_overridden :
    let circumstances : Circumstances :=
      ⟨[("CLI_METRICS_TELEMETRY_ENABLED", "off"), ("CLI_METRICS_STDOUT", "true"),
        ("CLI_METRICS_METRICS_FILE", "beats.jsonl")], ⟨"/home", []⟩, ⟨[], 200⟩,
        Runner.scripted (.exited (.int (-9)))⟩
    let application := fresh ⟨[], [], []⟩
    let settings : Settings := { Settings.standard with
      telemetryEnabled := false, stdout := .bool true, metricsFile := .text "beats.jsonl" }
    let report : List Text :=
      ["report", "--command", "up", "--file", "new/beats.jsonl", "--stdout", "--http"]
    let track : List Text := ["track", "sleep", "10"]
    Settings.resolve (sources circumstances application) = .ok settings
      ∧ settings.telemetryEnabled = false
      ∧ CommandName.select report = .ok (some (.report, report.tail))
      ∧ CommandName.select track = .ok (some (.track, track.tail))
      ∧ Reticent (call circumstances application report) [] application.files
      ∧ (call circumstances application report).1.result = .ok (.int 0)
      ∧ Reticent (call circumstances application track) [.run [.text "sleep", .text "10"]]
        application.files
      ∧ (call circumstances application track).1.result = .ok (.int 137) := by
  intro circumstances application settings report track
  have resolved : Settings.resolve (sources circumstances application) = .ok settings := rfl
  have reports : CommandName.select report = .ok (some (.report, report.tail)) := rfl
  have tracks : CommandName.select track = .ok (some (.track, track.tail)) := rfl
  obtain ⟨reported, ended⟩ := (call_disabled resolved rfl reports).1 "up" none none .success
    ⟨some "new/beats.jsonl", some (.bool true), some (.bool true)⟩ _
    ⟨resolved, ⟨_, _, reports, rfl⟩, rfl⟩
  obtain ⟨tracked, concluded⟩ := (call_disabled resolved rfl tracks).2.1 ["sleep", "10"] none none _
    ⟨resolved, ⟨_, _, tracks, rfl⟩, rfl⟩
  obtain ⟨code, whole, killed⟩ :=
    concluded 137 (RunOutcome.Concludes.killed (show 0 < 9 by decide))
  have told : code = .int 137 := whole.eq_int (by decide)
  exact ⟨resolved, rfl, reports, tracks, reported, ended, tracked, told ▸ killed⟩

end Application

end Heartbeat
