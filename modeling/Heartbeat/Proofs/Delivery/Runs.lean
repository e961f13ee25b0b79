import Heartbeat.Proofs.Delivery.Actions
import Heartbeat.Proofs.Delivery.Closing
import Heartbeat.Proofs.Delivery.Tracker

/-!
# Runs of children

Nothing runs a child but a tracker, which does so once for each command line.  Reports run
none (`Sink.sameRuns_report`), and neither does closing what was opened
(`Delivery.sameRuns_closeAll`), so what a tracker has run is one command line, however the
run and the heartbeat for it end (`Tracker.runs_track`).

The heartbeat comes after the run.  It is handed to the sink once at most, and tells the
first argument of the command line and what the tracker was given (`Tracker.told_track`).
-/

namespace Heartbeat

set_option autoImplicit false

open Delivery

/-- Entries in the log are no runs. -/
theorem Event.filterMap_run?_log (entries : List LogEntry) :
    (entries.map Event.log).filterMap Event.run? = [] := by
  simp [List.filterMap_map, Function.comp_def, Event.run?]

namespace World

/-- The command lines that were run, as far as runs are noted. -/
def runs (world : World) : List (List Value) := world.trace.filterMap Event.run?

/-- No child was run from one world to the other. -/
def SameRuns (world later : World) : Prop := later.runs = world.runs

instance : IsPreorder World SameRuns where
  refl _ := rfl
  trans _ _ _ before after := Eq.trans after before

variable {world later : World}

theorem SameRuns.of_trace (same : later.trace = world.trace) : world.SameRuns later :=
  congrArg (List.filterMap Event.run?) same

theorem sameRuns_note (world : World) {event : Event} (own : event.run? = none) :
    world.SameRuns (world.note event) := by
  rw [SameRuns, runs, note, List.filterMap_append, List.filterMap_cons_none own,
    List.filterMap_nil, List.append_nil, runs]

theorem LogsOnly.sameRuns (logs : world.LogsOnly later) : world.SameRuns later := by
  obtain ⟨entries, rfl⟩ := logs
  rw [SameRuns, runs, List.filterMap_append, Event.filterMap_run?_log, List.append_nil, runs]

end World

/-! ## Who runs no children -/

theorem Sink.Acts.sameRuns {leaf : Sink} {world later : World} (acts : leaf.Acts world later) :
    world.SameRuns later := by
  cases acts with
  | note leaf world passing own => exact world.sameRuns_note own
  | _ => exact .of_trace rfl

/-- **No report runs a child.** -/
theorem Sink.sameRuns_report (sink : Sink) (record : Record) :
    Moves World.SameRuns (sink.report record) :=
  moves_report (fun _ _ => World.LogsOnly.sameRuns) (fun _ _ _ => Acts.sameRuns) sink record

namespace Delivery

theorem sameRuns_shut (resource : Resource) (world : World) :
    world.SameRuns (world.shut resource) := by
  cases resource with
  | file label =>
      cases found : world.destination label with
      | file handle =>
          rw [shut_file found]
          exact .of_trace rfl
      | _ =>
          rw [World.shut, close, run_get_bind, found]
          exact .of_trace rfl
  | session label =>
      rw [shut_session]
      apply World.sameRuns_note
      cases world.client label <;> rfl

/-- Closing what was opened runs no child. -/
theorem sameRuns_closeAll (world : World) : world.SameRuns (closeAll.run.run world).2 := by
  have each : ∀ (resources : List Resource) (first : World),
      first.SameRuns (resources.foldl World.shut first) := by
    intro resources
    induction resources with
    | nil => exact refl_of World.SameRuns
    | cons resource resources hypothesis =>
        intro first
        exact trans_of World.SameRuns (sameRuns_shut resource first) (hypothesis _)
  rw [world_closeAll]
  exact each world.resources { world with resources := [] }

end Delivery

/-! ## What trackers run and tell -/

theorem Runner.runs_once (runner : Runner) (line : List Value) (world : World) :
    (runner.once line world).2.runs = world.runs ++ if runner.traced then [line] else [] := by
  rw [once]
  dsimp only
  split
  · show (world.trace ++ [Event.run line]).filterMap Event.run? = _
    rw [List.filterMap_append]
    rfl
  · exact (List.append_nil _).symm

namespace Tracker

variable (tracker : Tracker) (runner : Runner) (name : Value) (arguments : List Value)
  (world : World)

/-- Beside handing the record over, reporting adds to the log at most. -/
theorem logs_report (status : Status) :
    World.LogsOnly ((tracker.sink.report (.command
        ⟨name, tracker.context, tracker.source, .status status⟩)).run.run world).2
      ((tracker.report name (.status status)).run.run world).2 := by
  rw [report, run_bind]
  generalize (tracker.sink.report _).run.run world = done
  obtain ⟨_ | _, later⟩ := done
  · exact refl_of World.LogsOnly later
  · exact .logged later _

/-- What is left when a run is over and the heartbeat for it, if there is one, was handed to
the sink. -/
inductive Told (tracker : Tracker) (name : Value) (ran : RunOutcome × World) : World → Prop where
  /-- The heartbeat was handed over. -/
  | heartbeat {handed later : World} {status : Status} (logs : ran.2.LogsOnly handed)
      (reported : World.LogsOnly ((tracker.sink.report (.command
        ⟨name, tracker.context, tracker.source, .status status⟩)).run.run handed).2 later) :
      Told tracker name ran later
  /-- The run says no number, and there is no heartbeat. -/
  | nothing {later : World} (mute : ∀ number, ¬ ran.1.Concludes number)
      (logs : ran.2.LogsOnly later) : Told tracker name ran later

/-- **A tracker runs its command line once, and tells no more than one heartbeat about
it.** -/
theorem told_track :
    tracker.Told name (runner.once (name :: arguments) world)
      ((tracker.track runner (.list (name :: arguments))).run.run world).2 := by
  have logs := tracker.logs_code runner (name :: arguments) world
  have concluded : ∀ number, (runner.once (name :: arguments) world).1.Concludes number → _ :=
    fun number concludes => tracker.code_of_concludes concludes
  rw [run_track]
  generalize (tracker.code runner (.list (name :: arguments))).run.run world = done
    at logs concluded ⊢
  obtain ⟨failure | code, handed⟩ := done
  · refine .nothing (fun number concludes => ?_) logs
    obtain ⟨_, _, coded, _⟩ := concluded number concludes
    cases coded
  · dsimp only
    cases told : ExitCode.outcome code with
    | error fault =>
        refine .nothing (fun number concludes => ?_) logs
        obtain ⟨_, _, coded, whole, _⟩ := concluded number concludes
        obtain rfl := Except.ok.inj (congrArg Prod.fst coded)
        obtain ⟨status, is_status, _⟩ := ExitCode.outcome_of_whole whole
        rw [told] at is_status
        cases is_status
    | ok status =>
        have reported := tracker.logs_report name handed status
        dsimp only
        generalize (tracker.report name (.status status)).run.run handed = ended at reported ⊢
        obtain ⟨_ | _, later⟩ := ended <;> exact .heartbeat logs reported

/-- The command lines that a tracker has run are the one that it is given. -/
theorem runs_track :
    ((tracker.track runner (.list (name :: arguments))).run.run world).2.runs
      = world.runs ++ if runner.traced then [name :: arguments] else [] := by
  have told := tracker.told_track runner name arguments world
  rw [← runner.runs_once (name :: arguments) world]
  generalize ((tracker.track runner (.list (name :: arguments))).run.run world).2 = later at told ⊢
  cases told with
  | nothing _ logs => exact logs.sameRuns
  | @heartbeat handed later status logs reported =>
      have report := tracker.sink.sameRuns_report
        (.command ⟨name, tracker.context, tracker.source, .status status⟩) handed
      exact reported.sameRuns.trans (report.trans logs.sameRuns)

end Tracker

end Heartbeat
