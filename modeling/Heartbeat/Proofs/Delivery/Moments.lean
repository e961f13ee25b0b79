import Heartbeat.Proofs.Delivery.Tracker

/-!
# Moments of a run

A step of a run hands at most one record to a sink (`Step.handover`): a report its
own, and a tracker the heartbeat for its command, in the world that the run of the
command leaves.  The visits of the step are those of this report.  In all other
respects a step that closes no buffer keeps beside the destinations and collectors
(`Step.linked_visits`).

The moments of a run are the worlds between its steps, and within a step the worlds
before and after every visit, and the world after a stream sink has written and
before it flushes.
-/

namespace Heartbeat

set_option autoImplicit false

/-! ## What happens beside destinations and collectors -/

namespace Event

/-- Whether an event is an entry in the log or the run of a command, and so
concerns no destination, collector or recorder. -/
def isBeside : Event → Bool
  | .log _ => true
  | .run _ => true
  | _ => false

end Event

namespace World

/-- A later world with the same destinations and collectors, and nothing in its
trace that concerns one. -/
def Beside (world later : World) : Prop :=
  later.destination = world.destination ∧ later.client = world.client
    ∧ later.output = world.output
    ∧ ∃ events, later.trace = world.trace ++ events ∧ ∀ event ∈ events, event.isBeside = true

theorem Beside.of_unnoted {world later : World} (destination : later.destination = world.destination)
    (client : later.client = world.client) (output : later.output = world.output)
    (trace : later.trace = world.trace) : Beside world later :=
  ⟨destination, client, output, [], trace.trans (List.append_nil _).symm,
    fun _ member => absurd member List.not_mem_nil⟩

instance : IsPreorder World Beside where
  refl _ := .of_unnoted rfl rfl rfl rfl
  trans first second third := by
    rintro ⟨destination, client, output, events, trace, beside⟩
      ⟨destination', client', output', others, trace', beside'⟩
    refine ⟨destination'.trans destination, client'.trans client, output'.trans output,
      events ++ others, ?_, ?_⟩
    · rw [trace', trace, List.append_assoc]
    · intro event member
      exact (List.mem_append.mp member).elim (beside event) (beside' event)

theorem Beside.of_logsOnly {world later : World} (logs : World.LogsOnly world later) :
    Beside world later := by
  obtain ⟨entries, rfl⟩ := logs
  refine ⟨rfl, rfl, rfl, entries.map Event.log, rfl, ?_⟩
  intro event member
  obtain ⟨entry, _, rfl⟩ := List.mem_map.mp member
  rfl

theorem Beside.note (world : World) {event : Event} (beside : event.isBeside = true) :
    Beside world (world.note event) := by
  refine ⟨rfl, rfl, rfl, [event], rfl, fun other member => ?_⟩
  rw [List.mem_singleton.mp member]
  exact beside

end World

namespace Delivery

theorem moves_log (logger : LoggerName) (event : LogEvent) :
    Moves World.Beside (log logger event) :=
  .modify fun world => .of_logsOnly (.logged world _)

end Delivery

namespace Linked

variable {result other : Type}

/-- What a delivery does after a report adds no visits if it keeps beside. -/
theorem bind {first : Delivery result} {next : result → Delivery other} {visits : List Visit}
    {world : World} (linked : Linked World.Beside world visits (first.run.run world).2)
    (goes : ∀ value, Delivery.Moves World.Beside (next value)) :
    Linked World.Beside world visits ((first >>= next).run.run world).2 :=
  Delivery.Moves.reach_bind (Linked World.Beside world visits)
    (fun _ _ found moves => found.linked_moves moves) linked goes

end Linked

/-! ## Trackers -/

namespace Tracker

open Delivery

theorem moves_run (runner : Runner) (line : List Value) : Moves World.Beside (run runner line) := by
  rw [run]
  refine .ite_bind (.modify fun world => .note world rfl) (.get_bind fun found => ?_)
  generalize runner.start found.files line = started
  obtain ⟨outcome, files⟩ := started
  refine .bind (.modify fun world => .of_unnoted rfl rfl rfl rfl) fun _ => ?_
  cases outcome with
  | exited code => exact .pure code
  | failed failure => exact .throw failure

theorem moves_code (tracker : Tracker) (runner : Runner) (line : Value) :
    Moves World.Beside (tracker.code runner line) := by
  refine .tryCatch ?_ fun failure => ?_
  · refine .bind (.ofExcept _) fun arguments => ?_
    exact .bind (moves_run runner arguments) fun code => .ofExcept _
  · exact fun world => .of_logsOnly (tracker.logs_recovered line failure world)

/-- A heartbeat is sent by one report. -/
theorem linked_report (tracker : Tracker) (command status : Value) (world : World) :
    Linked World.Beside world
      (tracker.sink.visits (.command ⟨command, tracker.context, tracker.source, status⟩) world)
      ((tracker.report command status).run.run world).2 := by
  have linked := (tracker.sink.linked_visits
    (.command ⟨command, tracker.context, tracker.source, status⟩) world).mono
      fun _ _ => World.Beside.of_logsOnly
  refine Linked.bind linked fun _ => ?_
  cases status with
  | status outcome => exact .bind (moves_log _ _) fun _ => .pure _
  | _ => exact .bind (.throw _) fun _ => .pure _

end Tracker

/-! ## Steps -/

namespace Step

open Delivery

/-- The record that a step hands to a sink, if it does, and the world in which it
does so. -/
def handover : Step → World → Option (Sink × Record × World)
  | .report sink record, world => some (sink, record, world)
  | .track tracker runner line, world =>
    if line.isTruthy then
      match (tracker.code runner line).run.run world with
      | (.ok code, later) =>
        match Tracker.commandName line, ExitCode.outcome code with
        | .ok name, .ok outcome =>
          some (tracker.sink,
            .command ⟨name, tracker.context, tracker.source, .status outcome⟩, later)
        | _, _ => none
      | (.error _, _) => none
    else none
  | .announce tracker command status, world =>
    some (tracker.sink, .command ⟨command, tracker.context, tracker.source, status⟩, world)
  | .closeBuffer _, _ => none
  | .setLevel _, _ => none

/-- The visits of a step. -/
def visits (step : Step) (world : World) : List Visit :=
  match step.handover world with
  | some (sink, record, found) => sink.visits record found
  | none => []

/-- The visits of steps one after the other. -/
def visitsAll : List Step → World → List Visit
  | [], _ => []
  | step :: steps, world => step.visits world ++ visitsAll steps (step.perform.run.run world).2

/-- Whether a step closes a buffer. -/
def closes : Step → Bool
  | .closeBuffer _ => true
  | _ => false

theorem linked_track (tracker : Tracker) (runner : Runner) (line : Value) (world : World) :
    Linked World.Beside world (visits (.track tracker runner line) world)
      ((tracker.track runner line).run.run world).2 := by
  rw [visits, handover, Tracker.track]
  by_cases truthy : line.isTruthy = true
  · have coded := tracker.moves_code runner line world
    simp only [truthy, Bool.not_true, Bool.false_eq_true, if_false, if_true]
    rw [run_bind]
    generalize (tracker.code runner line).run.run world = done at coded ⊢
    rcases done with ⟨failure | code, later⟩
    · exact .nil coded
    · dsimp only
      rw [run_ofExcept_bind]
      cases Tracker.commandName line with
      | error failure => exact .nil coded
      | ok name =>
          dsimp only
          rw [run_ofExcept_bind]
          cases ExitCode.outcome code with
          | error failure => exact .nil coded
          | ok outcome =>
              exact .moves_linked coded
                ((tracker.linked_report name (.status outcome) later).bind fun _ => .pure _)
  · rw [Bool.not_eq_true] at truthy
    simp only [truthy, Bool.not_false, Bool.false_eq_true, if_false, if_true]
    exact .nil (refl_of World.Beside world)

/-- **A step that closes no buffer is its visits, and between them it keeps beside
destinations and collectors.** -/
theorem linked_visits {step : Step} (unclosing : step.closes = false) (world : World) :
    Linked World.Beside world (step.visits world) (step.perform.run.run world).2 := by
  cases step with
  | report sink record =>
      have linked := (sink.linked_visits record world).mono fun _ _ => World.Beside.of_logsOnly
      exact Linked.bind linked fun _ => .pure _
  | track tracker runner line =>
      exact (linked_track tracker runner line world).bind fun _ => .pure _
  | announce tracker command status =>
      exact (tracker.linked_report command status world).bind fun _ => .pure _
  | closeBuffer label => cases unclosing
  | setLevel level =>
      refine .nil (Moves.bind (.bind (.ofExcept _) fun level => ?_) (fun _ => .pure _) world)
      exact .modify fun world => .of_unnoted rfl rfl rfl rfl

/-- Closing a buffer changes that buffer and nothing else, and visits nothing. -/
theorem run_closeBuffer (label : Label) (world : World) :
    (perform (.closeBuffer label)).run.run world
      = (.ok .nothing, match world.destination label with
        | .buffer content _ => world.setDestination label (.buffer content true)
        | _ => world) := by
  rw [perform, run_bind, Delivery.closeBuffer, run_get_bind]
  cases world.destination label <;> rfl

end Step

/-! ## Moments -/

/-- A world that occurs in the run of steps, the steps done so far, and the visits
made so far. -/
inductive Moment (start : World) : List Step → List Visit → World → Prop where
  | between (done : List Step) :
      Moment start done (Step.visitsAll done start) (Step.performAll done start).2
  | before {done : List Step} {step : Step} {earlier later : List Visit} {visit : Visit}
      (split : step.visits (Step.performAll done start).2 = earlier ++ visit :: later) :
      Moment start done (Step.visitsAll done start ++ earlier) visit.before
  | written {done : List Step} {step : Step} {earlier later : List Visit} {visit : Visit}
      {label : Label} {logger : LoggerName} {entry : Bytes}
      (split : step.visits (Step.performAll done start).2 = earlier ++ visit :: later)
      (stream : visit.leaf = .stream label logger) (encoded : visit.record.encode = .ok entry) :
      Moment start done (Step.visitsAll done start ++ (earlier ++ [visit]))
        ((Delivery.write label (entry ++ [Delivery.lineFeed])).run.run visit.before).2
  | after {done : List Step} {step : Step} {earlier later : List Visit} {visit : Visit}
      (split : step.visits (Step.performAll done start).2 = earlier ++ visit :: later) :
      Moment start done (Step.visitsAll done start ++ (earlier ++ [visit])) visit.after

end Heartbeat
