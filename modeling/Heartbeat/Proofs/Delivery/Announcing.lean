import Heartbeat.Proofs.Delivery.Isolation
import Heartbeat.Proofs.Delivery.Tracker

/-!
# Announcing commands

A tracker can send the heartbeat for a command that was run elsewhere.  The heartbeat goes
to the sink first, and only then the tracker takes the word for the outcome, for the log.

A command is described for an outcome, and just as well for a text that is the word for one
(`Command.exists_entries_iff`).  The tracker is less generous than that: a text has no word
of its own.  So a heartbeat whose outcome is given as a text is delivered, and then the
tracker fails (`Tracker.report_after_delivery`).  Whoever takes the failure for one of the
delivery and tries again sends the heartbeat a second time.

In a series of commands this changes nothing about what is delivered.  Every command has its
heartbeat handed over once and in its turn, whether announcing it fails afterwards or not
(`Step.performAll_announcements`).
-/

namespace Heartbeat

set_option autoImplicit false

/-! ## Which outcomes are described -/

/-- A value names an outcome if it is the outcome or the word for it. -/
theorem Value.status?_eq_some_iff {value : Value} {status : Status} :
    value.status? = some status ↔ value = .status status ∨ value = .text status.text := by
  cases value with
  | status found => simp [status?]
  | text word =>
      have named : Status.ofText? word = some status ↔ word = status.text := by
        constructor
        · intro found
          exact (Status.text_of_ofText? found).symm
        · rintro rfl
          exact Status.ofText?_text status
      simp [status?, named]
  | _ => simp [status?]

/-- A command is described if and only if its outcome is one or the word for one. -/
theorem Command.exists_entries_iff (command : Command) :
    (∃ entries, command.entries = .ok entries)
      ↔ ∃ outcome : Status, command.status = .status outcome
        ∨ command.status = .text outcome.text := by
  simp only [← Value.status?_eq_some_iff]
  rw [entries, statusOf]
  cases command.status.status? with
  | some outcome => exact ⟨fun _ => ⟨outcome, rfl⟩, fun _ => ⟨_, rfl⟩⟩
  | none =>
      refine ⟨?_, nofun⟩
      cases command.status.shown with
      | ok shown => exact nofun
      | error failure => exact nofun

/-! ## One command -/

namespace Tracker

open Delivery

/-- The heartbeat for a command: what is handed to the sink, and returned. -/
def heartbeat (tracker : Tracker) (command status : Value) : Command :=
  ⟨command, tracker.context, tracker.source, status⟩

/-- An outcome that is given as another value has no word to be logged. -/
theorem report_of_wordless (tracker : Tracker) {command status : Value} {world later : World}
    (other : ∀ outcome, status ≠ .status outcome)
    (returned : (tracker.sink.report (.command
      ⟨command, tracker.context, tracker.source, status⟩)).run.run world = (.ok (), later)) :
    (tracker.report command status).run.run world
      = (.error (.missingAttribute status.className "value"), later) := by
  rw [report, run_bind_of_ok returned]
  cases status with
  | status outcome => exact absurd rfl (other outcome)
  | _ => rfl

/-- **Behind a delivery a tracker fails if the outcome is given as a text.**  A command is
described for an outcome and for the word for one.  Where the sink takes its heartbeat and
returns, the heartbeat was handed over once and nothing but the log can have grown since.
With an outcome the tracker logs the heartbeat and returns it.  With anything else, be it the
word for an outcome, it fails for want of a word, although the heartbeat has left. -/
theorem report_after_delivery (tracker : Tracker) (command status : Value) {world later : World}
    (returned : (tracker.sink.report (.command (tracker.heartbeat command status))).run.run world
      = (.ok (), later)) :
    let heartbeat := tracker.heartbeat command status
    let reported := (tracker.report command status).run.run world
    ((∃ entries, heartbeat.entries = .ok entries)
        ↔ ∃ outcome : Status, status = .status outcome ∨ status = .text outcome.text)
      ∧ later.LogsOnly reported.2
      ∧ (∀ outcome, status = .status outcome →
        reported = (.ok heartbeat, later.logged ⟨tracker.logger, .reported command outcome⟩))
      ∧ ((∀ outcome, status ≠ .status outcome) →
        reported = (.error (.missingAttribute status.className "value"), later)) := by
  intro heartbeat reported
  have logged : ∀ outcome, status = .status outcome →
      reported = (.ok heartbeat, later.logged ⟨tracker.logger, .reported command outcome⟩) := by
    rintro outcome rfl
    exact tracker.report_of_returns command outcome returned
  have failed : (∀ outcome, status ≠ .status outcome) →
      reported = (.error (.missingAttribute status.className "value"), later) :=
    fun other => tracker.report_of_wordless other returned
  refine ⟨heartbeat.exists_entries_iff, ?_, logged, failed⟩
  by_cases given : ∃ outcome, status = .status outcome
  · obtain ⟨outcome, is_outcome⟩ := given
    rw [logged outcome is_outcome]
    exact .logged later _
  · rw [failed fun outcome is_outcome => given ⟨outcome, is_outcome⟩]
    exact refl_of World.LogsOnly later

/-- A heartbeat with the word for a success is described and recorded, and then the tracker
fails; with a second attempt it is recorded twice. -/
theorem report_after_delivery_word :
    let world := World.initial ⟨[], [], []⟩ []
    let word : Value := .text Status.success.text
    let heartbeat : Command := ⟨.text "up", .null, .text "shell", word⟩
    let recorded := Event.record (.given "records") (.command heartbeat)
    let first := (recording.report (.text "up") word).run.run world
    let second := (recording.report (.text "up") word).run.run first.2
    (∃ entries, heartbeat.entries = .ok entries)
      ∧ first.1 = .error (.missingAttribute "str" "value") ∧ first.2.trace = [recorded]
      ∧ second.1 = .error (.missingAttribute "str" "value")
      ∧ second.2.trace = [recorded, recorded] := by
  intro world word heartbeat recorded first second
  have other : ∀ outcome, word ≠ .status outcome := nofun
  have returned : ∀ found : World, (recording.sink.report (.command heartbeat)).run.run found
      = (.ok (), found.note recorded) := fun _ => rfl
  obtain ⟨described, _, _, fails⟩ :=
    recording.report_after_delivery (.text "up") word (returned world)
  obtain ⟨_, _, _, fails_again⟩ :=
    recording.report_after_delivery (.text "up") word (returned first.2)
  have once : first = (.error (.missingAttribute "str" "value"), world.note recorded) := fails other
  have twice : second = (.error (.missingAttribute "str" "value"), first.2.note recorded) :=
    fails_again other
  refine ⟨described.mpr ⟨.success, .inr rfl⟩, ?_, ?_, ?_, ?_⟩
  · rw [once]
  · rw [once]
    rfl
  · rw [twice]
  · rw [twice, once]
    rfl

end Tracker

/-! ## A series of commands -/

namespace Step

open Delivery

/-- A step for each command, which is given with its outcome. -/
def announcements (tracker : Tracker) (commands : List (Value × Value)) : List Step :=
  commands.map fun (command, status) => .announce tracker command status

/-- What announcing a command returns or fails with where the sink returns. -/
def announced (tracker : Tracker) : Value × Value → Except Failure StepResult
  | (command, .status outcome) => .ok (.command (tracker.heartbeat command (.status outcome)))
  | (_, status) => .error (.missingAttribute status.className "value")

variable (tracker : Tracker)

/-- Beside the delivery only the log can have grown when a command was announced. -/
theorem perform_announce {command status : Value} {world later : World}
    (returned : (tracker.sink.report (.command (tracker.heartbeat command status))).run.run world
      = (.ok (), later)) :
    ∃ left, (Step.announce tracker command status).perform.run.run world
        = (announced tracker (command, status), left)
      ∧ later.LogsOnly left := by
  rw [perform, run_bind]
  by_cases given : ∃ outcome, status = .status outcome
  · obtain ⟨outcome, rfl⟩ := given
    rw [tracker.report_of_returns command outcome returned]
    exact ⟨_, rfl, .logged later _⟩
  · have other : ∀ outcome, status ≠ .status outcome := fun outcome same => given ⟨outcome, same⟩
    rw [tracker.report_of_wordless other returned]
    refine ⟨later, ?_, refl_of World.LogsOnly later⟩
    cases status with
    | status outcome => exact absurd rfl (other outcome)
    | _ => rfl

/-- **A series of announcements delivers every heartbeat once and in its turn.**  For a sink
that returns on all of them, announcing commands leaves, up to the log, the world that
reporting their heartbeats to the sink leaves.  Those with an outcome return, and the others
fail, which has no effect on those behind them. -/
theorem performAll_announcements {commands : List (Value × Value)}
    (returns : ∀ pair ∈ commands, ∀ world, ∃ later,
      (tracker.sink.report (.command (tracker.heartbeat pair.1 pair.2))).run.run world
        = (.ok (), later)) {first second : World} (same : first.SameButLog second) :
    let heartbeats := commands.map fun pair =>
      (tracker.sink, Record.command (tracker.heartbeat pair.1 pair.2))
    let done := performAll (announcements tracker commands) first
    done.1 = commands.map (announced tracker)
      ∧ done.2.SameButLog (performAll (reports heartbeats) second).2 := by
  induction commands generalizing first second with
  | nil => exact ⟨rfl, same⟩
  | cons pair commands hypothesis =>
      obtain ⟨command, status⟩ := pair
      obtain ⟨later, returned⟩ := returns (command, status) List.mem_cons_self first
      obtain ⟨left, performed, logs⟩ := perform_announce tracker returned
      have related := (Sink.coupled_report World.congruence_sameButLog tracker.sink
        (.command (tracker.heartbeat command status)) first second same).2
      rw [returned] at related
      -- What the tracker logs behind the delivery is all that sets the two worlds apart.
      obtain ⟨results, ends⟩ := hypothesis
        (fun pair member => returns pair (List.mem_cons_of_mem _ member))
        (logs.unlogged.trans related)
      have stepped : performAll (announcements tracker ((command, status) :: commands)) first
          = (announced tracker (command, status)
              :: (performAll (announcements tracker commands) left).1,
            (performAll (announcements tracker commands) left).2) := by
        show performAll (.announce tracker command status :: _) first = _
        rw [performAll, performed]
        rfl
      intro heartbeats done
      have is_done : done = _ := stepped
      rw [is_done, results]
      refine ⟨rfl, ?_⟩
      rw [show heartbeats = (tracker.sink, _) :: _ from rfl, performAll_reports_cons]
      exact ends

end Step

end Heartbeat
