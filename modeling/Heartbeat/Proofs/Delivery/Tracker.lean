import Heartbeat.Proofs.Delivery.Flat

/-!
# What trackers do

A tracker runs its command line once and sends one heartbeat that says how the run
ended.  What the run says is a number that is never negative
(`RunOutcome.Concludes`): the code of the child, 128 and the number of the signal that
killed it, 130 for an interrupt, and 127 for a child that the system did not start.
The heartbeat calls it a success if and only if the number is zero, and a
cancellation if and only if it is the number of an interrupt.

There is no heartbeat for a run that fails in another way, nor where the failure to
start a child cannot be put into words: the words are wanted for the log, and
what keeps them from being had goes out in place of the code (`Tracker.track_outcome`).
-/

namespace Heartbeat

set_option autoImplicit false

/-! ## Whole numbers -/

/-- A value is a whole number; the truth values are zero and one. -/
def Value.Whole (value : Value) (number : Int) : Prop :=
  value = .int number ∨ ∃ flag : Bool, value = .bool flag ∧ number = flag.toNat

/-- Beyond the truth values a whole number is what it says. -/
theorem Value.Whole.eq_int {value : Value} {number : Int} (whole : value.Whole number)
    (large : 1 < number) : value = .int number := by
  rcases whole with same | ⟨flag, _, rfl⟩
  · exact same
  · cases flag <;> cases large

namespace ExitCode

/-- A code that is not negative is told as it is. -/
theorem normalize_of_whole {code : Value} {number : Nat} (whole : code.Whole number) :
    normalize code = .ok code := by
  rcases whole with rfl | ⟨flag, rfl, _⟩
  · rw [normalize, if_neg (by omega)]
  · rfl

/-- A signal is told by its number and 128. -/
theorem normalize_signal {signal : Nat} (positive : 0 < signal) :
    normalize (.int (-(signal : Int))) = .ok (.int ((signalBase + signal : Nat) : Int)) := by
  have told : (signalBase : Int) - -(signal : Int) = ((signalBase + signal : Nat) : Int) := by omega
  rw [normalize, if_pos (by omega), told]

theorem equals_iff {code : Value} {number : Nat} (whole : code.Whole number) (other : Nat) :
    equals code other = true ↔ number = other := by
  rcases whole with rfl | ⟨flag, rfl, is_flag⟩
  · rw [equals, decide_eq_true_iff, Int.natCast_inj]
  · rw [equals, decide_eq_true_iff, Int.natCast_inj.mp is_flag]

/-- The outcome of a code that is not negative. -/
theorem outcome_of_whole {code : Value} {number : Nat} (whole : code.Whole number) :
    ∃ status, outcome code = .ok status ∧ (status = .success ↔ number = 0)
      ∧ (status = .canceled ↔ number = interrupted) := by
  have told : outcome code = if equals code 0 then .ok .success
      else if equals code interrupted then .ok .canceled else .ok .failure := by
    rw [outcome, normalize_of_whole whole]
    rfl
  have is_zero := equals_iff whole 0
  have is_interrupt := equals_iff whole interrupted
  rw [told]
  split
  · next zero =>
      have none := is_zero.mp zero
      refine ⟨.success, rfl, ⟨fun _ => none, fun _ => rfl⟩, nofun, fun canceled => ?_⟩
      exact absurd (none.symm.trans canceled) (by decide)
  · next positive =>
      have some : number ≠ 0 := fun none => positive (is_zero.mpr none)
      split
      · next canceled =>
          exact ⟨.canceled, rfl, ⟨nofun, fun none => absurd none some⟩,
            fun _ => is_interrupt.mp canceled, fun _ => rfl⟩
      · next other =>
          exact ⟨.failure, rfl, ⟨nofun, fun none => absurd none some⟩, nofun,
            fun canceled => absurd (is_interrupt.mpr canceled) other⟩

end ExitCode

/-- An interrupt is a request to stop. -/
theorem Failure.kind_ne_interrupt {failure : Failure} (ordinary : failure.isOrdinary = true) :
    failure.kind ≠ .keyboardInterrupt := by
  intro interrupt
  rw [isOrdinary, interrupt] at ordinary
  cases ordinary

/-! ## What runs say -/

namespace RunOutcome

/-- The number that a run says. -/
inductive Concludes : RunOutcome → Nat → Prop where
  /-- The child ended by itself. -/
  | exited {code : Value} {number : Nat} (whole : code.Whole number) : Concludes (.exited code) number
  /-- The child was killed by a signal. -/
  | killed {signal : Nat} (positive : 0 < signal) :
      Concludes (.exited (.int (-(signal : Int)))) (128 + signal)
  /-- The run was interrupted. -/
  | interrupted {failure : Failure} (interrupt : failure.kind = .keyboardInterrupt) :
      Concludes (.failed failure) 130
  /-- The system did not start the child, and says so in words that can be had. -/
  | notStarted {failure : Failure} {words : Text} (system : failure.isSystem = true)
      (shown : failure.words = .ok words) : Concludes (.failed failure) 127

end RunOutcome

/-- What becomes of a command line that is run once in a world, and the world that the
run leaves. -/
def Runner.once (runner : Runner) (line : List Value) (world : World) : RunOutcome × World :=
  let done := runner.start world.files line
  let noted := if runner.traced then world.note (.run line) else world
  (done.1, { noted with files := done.2 })

namespace Tracker

open Delivery

/-- A run is made once. -/
theorem run_eq_once (runner : Runner) (line : List Value) (world : World) :
    (run runner line).run.run world = (match (runner.once line world).1 with
      | .exited code => .ok code
      | .failed failure => .error failure, (runner.once line world).2) := by
  obtain ⟨traced, start⟩ := runner
  rw [run, Runner.once]
  cases traced with
  | false =>
      simp only [Bool.false_eq_true, if_false]
      rw [run_get_bind]
      rcases start world.files line with ⟨_ | _, left⟩ <;> rfl
  | true =>
      have noted : (note (.run line)).run.run world = (.ok (), world.note (.run line)) := rfl
      have files : (world.note (.run line)).files = world.files := rfl
      simp only [if_true]
      rw [run_bind_of_ok noted, run_get_bind, files]
      rcases start world.files line with ⟨_ | _, left⟩ <;> rfl

/-- What is caught is what the run of the child and the reading of its code raise. -/
theorem run_code (tracker : Tracker) (runner : Runner) (line : List Value) (world : World) :
    (tracker.code runner (.list line)).run.run world
      = match (runner.once line world).1 with
        | .exited code =>
          match ExitCode.normalize code with
          | .ok told => (.ok told, (runner.once line world).2)
          | .error fault => (tracker.recovered (.list line) fault).run.run (runner.once line world).2
        | .failed failure =>
          (tracker.recovered (.list line) failure).run.run (runner.once line world).2 := by
  have attempted : (do
      let code ← run runner (← ofExcept (arguments (.list line)))
      ofExcept (ExitCode.normalize code) : Delivery Value)
        = run runner line >>= fun code => ofExcept (ExitCode.normalize code) := rfl
  rw [code, run_tryCatch, attempted, run_bind, run_eq_once]
  cases (runner.once line world).1 with
  | failed failure => rfl
  | exited code =>
      dsimp only
      rw [run_ofExcept]
      cases ExitCode.normalize code <;> rfl

/-- Finding the code for a failed run adds to the log at most. -/
theorem logs_recovered (tracker : Tracker) (line : Value) (failure : Failure) :
    Moves World.LogsOnly (tracker.recovered line failure) := by
  rw [recovered]
  split
  · exact .pure _
  · split
    · refine .bind (.ofExcept _) fun name => .bind (.ofExcept _) fun words => ?_
      exact .bind (.modify fun world => .logged world _) fun _ => .pure _
    · exact .throw failure

/-- However the run ends, beside it only the log may have grown. -/
theorem logs_code (tracker : Tracker) (runner : Runner) (line : List Value) (world : World) :
    (runner.once line world).2.LogsOnly
      ((tracker.code runner (.list line)).run.run world).2 := by
  rw [run_code]
  split
  · split
    · exact refl_of World.LogsOnly _
    · exact tracker.logs_recovered _ _ _
  · exact tracker.logs_recovered _ _ _

/-- A run that says a number has it as its code, and beside the run only the log may
have grown. -/
theorem code_of_concludes (tracker : Tracker) {runner : Runner} {name : Value}
    {arguments : List Value} {world : World} {number : Nat}
    (concludes : (runner.once (name :: arguments) world).1.Concludes number) :
    ∃ code handed, (tracker.code runner (.list (name :: arguments))).run.run world
        = (.ok code, handed)
      ∧ code.Whole number ∧ (runner.once (name :: arguments) world).2.LogsOnly handed := by
  rw [run_code]
  generalize runner.once (name :: arguments) world = ran at concludes ⊢
  obtain ⟨outcome, left⟩ := ran
  cases concludes with
  | exited whole =>
      dsimp only
      rw [ExitCode.normalize_of_whole whole]
      exact ⟨_, left, rfl, whole, refl_of World.LogsOnly left⟩
  | killed positive =>
      dsimp only
      rw [ExitCode.normalize_signal positive]
      exact ⟨_, left, rfl, .inl rfl, refl_of World.LogsOnly left⟩
  | interrupted interrupt =>
      dsimp only
      rw [recovered, if_pos interrupt]
      exact ⟨_, left, rfl, .inl rfl, refl_of World.LogsOnly left⟩
  | @notStarted failure words system shown =>
      have apart := Failure.kind_ne_interrupt (FailureKind.isOrdinary_of_isSystem system)
      dsimp only
      rw [recovered, if_neg apart, if_pos system, shown]
      exact ⟨_, _, rfl, .inl rfl, .logged left ⟨tracker.logger, .launchFailed name words⟩⟩

/-- A heartbeat whose report returns is logged. -/
theorem report_of_returns (tracker : Tracker) (name : Value) (status : Status)
    {world later : World}
    (reported : (tracker.sink.report (.command
      ⟨name, tracker.context, tracker.source, .status status⟩)).run.run world = (.ok (), later)) :
    (tracker.report name (.status status)).run.run world
      = (.ok ⟨name, tracker.context, tracker.source, .status status⟩,
        later.logged ⟨tracker.logger, .reported name status⟩) := by
  rw [report, run_bind_of_ok reported]
  rfl

/-- A tracker that has something to run sends the heartbeat for the code. -/
theorem run_track (tracker : Tracker) (runner : Runner) (name : Value) (arguments : List Value)
    (world : World) :
    (tracker.track runner (.list (name :: arguments))).run.run world
      = match (tracker.code runner (.list (name :: arguments))).run.run world with
        | (.error failure, handed) => (.error failure, handed)
        | (.ok code, handed) =>
          match ExitCode.outcome code with
          | .error fault => (.error fault, handed)
          | .ok status =>
            match (tracker.report name (.status status)).run.run handed with
            | (.error failure, later) => (.error failure, later)
            | (.ok _, later) => (.ok code, later) := by
  have truthy : (!(Value.list (name :: arguments)).isTruthy) = false := rfl
  have named : commandName (.list (name :: arguments)) = .ok name := rfl
  rw [track, truthy, if_neg Bool.false_ne_true, run_bind]
  rcases (tracker.code runner (.list (name :: arguments))).run.run world with ⟨failure | code, handed⟩
  · rfl
  · dsimp only
    rw [named, run_ofExcept_bind]
    dsimp only
    rw [run_ofExcept_bind]
    cases ExitCode.outcome code with
    | error fault => rfl
    | ok status =>
        dsimp only
        rw [run_bind]
        rcases (tracker.report name (.status status)).run.run handed with ⟨_ | _, later⟩ <;> rfl

/-- A tracker whose run says a number hands one heartbeat over and returns the number as
its code, provided that the report returns. -/
theorem track_of_concludes (tracker : Tracker) {runner : Runner} {name : Value}
    {arguments : List Value} {world : World} {number : Nat}
    (concludes : (runner.once (name :: arguments) world).1.Concludes number) :
    ∃ code status handed, code.Whole number ∧ (status = .success ↔ number = 0)
      ∧ (status = .canceled ↔ number = 130)
      ∧ (runner.once (name :: arguments) world).2.LogsOnly handed
      ∧ ∀ later, (tracker.sink.report
          (.command ⟨name, tracker.context, tracker.source, .status status⟩)).run.run handed
            = (.ok (), later) →
        (tracker.track runner (.list (name :: arguments))).run.run world
          = (.ok code, later.logged ⟨tracker.logger, .reported name status⟩) := by
  obtain ⟨code, handed, coded, whole, logs⟩ := tracker.code_of_concludes concludes
  obtain ⟨status, is_status, success, canceled⟩ := ExitCode.outcome_of_whole whole
  refine ⟨code, status, handed, whole, success, canceled, logs, fun later reported => ?_⟩
  have announced := tracker.report_of_returns name status reported
  rw [run_track, coded]
  dsimp only
  rw [is_status]
  dsimp only
  rw [announced]

/-- A run fails with what keeps the tracker from saying why the child was not started. -/
theorem track_of_unshown (tracker : Tracker) {runner : Runner} {name : Value}
    {arguments : List Value} {world : World} {failure obstacle : Failure}
    (failed : (runner.once (name :: arguments) world).1 = .failed failure)
    (system : failure.isSystem = true) (hindered : failure.words = .error obstacle) :
    (tracker.track runner (.list (name :: arguments))).run.run world
      = (.error obstacle, (runner.once (name :: arguments) world).2) := by
  have apart := Failure.kind_ne_interrupt (FailureKind.isOrdinary_of_isSystem system)
  have coded : (tracker.code runner (.list (name :: arguments))).run.run world
      = (.error obstacle, (runner.once (name :: arguments) world).2) := by
    rw [run_code, failed]
    dsimp only
    rw [recovered, if_neg apart, if_pos system, hindered]
    rfl
  rw [run_track, coded]

/-- If reporting adds to the log at most, so does tracking beside the run. -/
theorem logs_track (tracker : Tracker)
    (silent : ∀ record, Moves World.LogsOnly (tracker.sink.report record)) (runner : Runner)
    (name : Value) (arguments : List Value) (world : World) :
    (runner.once (name :: arguments) world).2.LogsOnly
      ((tracker.track runner (.list (name :: arguments))).run.run world).2 := by
  have coded := tracker.logs_code runner (name :: arguments) world
  rw [run_track]
  generalize (tracker.code runner (.list (name :: arguments))).run.run world = done at coded ⊢
  obtain ⟨failure | code, handed⟩ := done
  · exact coded
  · dsimp only
    cases ExitCode.outcome code with
    | error fault => exact coded
    | ok status =>
        have reported : Moves World.LogsOnly (tracker.report name (.status status)) :=
          .bind (silent _) fun _ => .bind (.modify fun world => .logged world _) fun _ => .pure _
        have later := trans_of World.LogsOnly coded (reported handed)
        dsimp only
        generalize (tracker.report name (.status status)).run.run handed = ended at later ⊢
        obtain ⟨_ | _, last⟩ := ended <;> exact later

/-- **A tracker reports every run once and truthfully.**  Where there is nothing to run,
that is refused and nothing happens.  Otherwise the command line is run once.  A run
that says a number has that number as its code, and one heartbeat with the outcome
that the number means is handed to the sink after the run; beside the run and the
report only the log may have grown.  A run that fails otherwise fails with what it
raised, and one that cannot say why the child did not start with what keeps it from
saying so; nothing is handed to the sink then. -/
theorem track_outcome (tracker : Tracker) (runner : Runner) (world : World) :
    (tracker.track runner (.list [])).run.run world = (.error .noCommand, world)
      ∧ ∀ name arguments,
        let ran := runner.once (name :: arguments) world
        (∀ number, ran.1.Concludes number →
          ∃ code status handed, code.Whole number ∧ (status = .success ↔ number = 0)
            ∧ (status = .canceled ↔ number = 130) ∧ ran.2.LogsOnly handed
            ∧ ∀ later, (tracker.sink.report
                (.command ⟨name, tracker.context, tracker.source, .status status⟩)).run.run handed
                  = (.ok (), later) →
              (tracker.track runner (.list (name :: arguments))).run.run world
                = (.ok code, later.logged ⟨tracker.logger, .reported name status⟩))
          ∧ (∀ failure, ran.1 = .failed failure → failure.kind ≠ .keyboardInterrupt →
            failure.isSystem = false →
            (tracker.track runner (.list (name :: arguments))).run.run world
              = (.error failure, ran.2))
          ∧ ∀ failure obstacle, ran.1 = .failed failure → failure.isSystem = true →
            failure.words = .error obstacle →
            (tracker.track runner (.list (name :: arguments))).run.run world
              = (.error obstacle, ran.2) := by
  refine ⟨rfl, fun name arguments => ?_⟩
  refine ⟨fun number concludes => tracker.track_of_concludes concludes,
    fun failure failed apart other => ?_,
    fun failure obstacle failed system hindered => tracker.track_of_unshown failed system hindered⟩
  have coded : (tracker.code runner (.list (name :: arguments))).run.run world
      = (.error failure, (runner.once (name :: arguments) world).2) := by
    rw [run_code, failed]
    dsimp only
    rw [recovered, if_neg apart, other, if_neg Bool.false_ne_true]
    rfl
  rw [run_track, coded]

/-- A tracker whose heartbeats are recorded. -/
def recording : Tracker := ⟨.recorder (.given "records"), .null, .text "shell", LoggerName.tracker⟩

/-- A child that was killed is reported as a failure. -/
theorem track_outcome_killed :
    let line := [Value.text "sleep", .text "10"]
    let runner := Runner.scripted (.exited (.int (-9)))
    let world := World.initial ⟨[], [], []⟩ []
    let tracked := (recording.track runner (.list line)).run.run world
    (runner.once line world).1.Concludes 137 ∧ tracked.1 = .ok (.int 137)
      ∧ tracked.2.unlogged.trace = [.run line, .record (.given "records")
        (.command ⟨.text "sleep", .null, .text "shell", .status .failure⟩)] := by
  intro line runner world tracked
  have killed : (runner.once line world).1.Concludes 137 :=
    RunOutcome.Concludes.killed (show 0 < 9 by decide)
  obtain ⟨code, status, handed, whole, success, canceled, logs, reports⟩ :=
    ((recording.track_outcome runner world).2 (.text "sleep") [.text "10"]).1 137 killed
  have told : code = .int 137 := whole.eq_int (by decide)
  have failure : status = .failure := by
    cases status with
    | failure => rfl
    | success => exact absurd (success.mp rfl) (by decide)
    | canceled => exact absurd (canceled.mp rfl) (by decide)
  have done := reports _ rfl
  refine ⟨killed, ?_, ?_⟩
  · rw [show tracked = _ from done, told]
  · rw [show tracked = _ from done, failure]
    dsimp only
    rw [World.unlogged_logged, World.unlogged_note, logs.unlogged]
    rfl

end Tracker

end Heartbeat
