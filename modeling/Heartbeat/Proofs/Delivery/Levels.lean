import Heartbeat.Proofs.Delivery.Tracker

/-!
# Levels

The level of the library's logger decides which entries the log takes, and nothing else.
Take a run and the same run at the loudest level, which is the one of debugging.  All their
steps end in the same way and do the same, and of the entries that the loud run logs in a
step the other one logs those that its own levels let through at that time
(`Step.answers_louder`).

So two runs that differ in nothing but levels can be told apart by nothing but their logs
(`Step.answers_levels`).
-/

namespace Heartbeat

set_option autoImplicit false

open Delivery

/-! ## Levels of loggers -/

/-- The loudest level that is in use: everything that is logged is let through. -/
def LogLevel.debug : LogLevel := .number Severity.debug.rank

theorem Severity.rank_debug_le (severity : Severity) : Severity.debug.rank ≤ severity.rank := by
  cases severity <;> decide

namespace LoggerLevels

/-- A logger that gets a level twice has the later one. -/
theorem set_set (levels : LoggerLevels) (name : LoggerName) (level other : LogLevel) :
    set (set levels name level) name other = set levels name other := by
  simp [set, List.filter_filter]

/-- A logger does not get the level that another one gets. -/
theorem ownRank_set_of_ne (levels : LoggerLevels) {name other : LoggerName} (apart : other ≠ name)
    (level : LogLevel) : ownRank (set levels name level) other = ownRank levels other := by
  have elsewhere : (set levels name level).find? (fun entry => decide (entry.1 = other))
      = levels.find? fun entry => decide (entry.1 = other) := by
    rw [set, List.find?_cons_of_neg (by simpa using apart.symm), List.find?_filter]
    congr 1
    funext entry
    by_cases found : entry.1 = other
    · simp [found, apart]
    · simp [found]
  rw [ownRank, ownRank, elsewhere]

/-- The first logger with a level of its own is the same whatever level one logger gets, or
it is that logger. -/
theorem find?_set (levels : LoggerLevels) (name : LoggerName) (level other : LogLevel)
    (loud : other.rank ≠ 0) (line : List LoggerName) :
    (line.find? fun above => decide (ownRank (set levels name other) above ≠ 0)) = some name
      ∨ ∃ above, above ≠ some name
        ∧ (line.find? fun above => decide (ownRank (set levels name other) above ≠ 0)) = above
        ∧ (line.find? fun above => decide (ownRank (set levels name level) above ≠ 0)) = above := by
  induction line with
  | nil => exact .inr ⟨none, nofun, rfl, rfl⟩
  | cons above line hypothesis =>
      by_cases here : above = name
      · subst here
        exact .inl (by simp [ownRank_set, loud])
      · by_cases silent : ownRank levels above = 0
        · simpa [ownRank_set_of_ne levels here, silent] using hypothesis
        · refine .inr ⟨some above, fun same => here (Option.some.inj same), ?_⟩
          simp [ownRank_set_of_ne levels here, silent]

/-- What is let through at any level of one logger is let through where that logger is at
the level of debugging. -/
theorem lets_debug {levels : LoggerLevels} {name logger : LoggerName} {level : LogLevel}
    {severity : Severity} (passes : lets (set levels name level) logger severity = true) :
    lets (set levels name .debug) logger severity = true := by
  rw [lets, decide_eq_true_iff, threshold] at passes ⊢
  rcases find?_set levels name level .debug (by decide) logger.lineage with own | ⟨above, apart, also, same⟩
  · rw [own]
    dsimp only
    rw [ownRank_set]
    exact severity.rank_debug_le
  · rw [same] at passes
    rw [also]
    cases above with
    | none => exact passes
    | some above =>
        have here : above ≠ name := fun same => apart (congrArg some same)
        dsimp only at passes ⊢
        rwa [ownRank_set_of_ne levels here] at passes ⊢

end LoggerLevels

/-! ## Events and worlds at levels -/

/-- Whether an event shows at given levels.  Only entries of the log may not. -/
def Event.shows (levels : LoggerLevels) : Event → Bool
  | .log entry => levels.lets entry.logger entry.event.severity
  | _ => true

theorem Event.shows_of_not_isLog (levels : LoggerLevels) {event : Event}
    (unlogged : event.isLog = false) : event.shows levels = true := by
  cases event with
  | log entry => cases unlogged
  | _ => rfl

namespace World

/-- A world with a level for the library's logger. -/
def atLevel (world : World) (level : LogLevel) : World :=
  { world with levels := LoggerLevels.set world.levels LoggerName.library level }

/-- What a world is apart from its levels and its trace: destinations and their contents,
clients, files, the standard output, and what is registered. -/
def bare (world : World) : World := { world with levels := [], trace := [] }

/-- Two worlds, from two others on, are the same apart from their levels, and everything
that happened in the second one happened in the first one, as far as it shows there. -/
structure Hears (levels full : LoggerLevels) (start origin first second : World) : Prop where
  quiet : first.levels = levels
  loud : second.levels = full
  bare : first.bare = second.bare
  trace : ∃ events, first.trace = start.trace ++ events.filter (Event.shows levels)
    ∧ second.trace = origin.trace ++ events

namespace Hears

variable {levels full : LoggerLevels} {start origin first second later latter : World}

theorem refl (same : start.bare = origin.bare) :
    Hears start.levels origin.levels start origin start origin :=
  ⟨rfl, rfl, same, [], (List.append_nil _).symm, (List.append_nil _).symm⟩

/-- What changes neither levels nor the trace. -/
theorem of_same (hears : Hears levels full start origin first second)
    (bare : later.bare = latter.bare) (left : later.levels = first.levels)
    (right : latter.levels = second.levels) (trace : later.trace = first.trace)
    (also : latter.trace = second.trace) : Hears levels full start origin later latter := by
  refine ⟨left.trans hears.quiet, right.trans hears.loud, bare, ?_⟩
  rw [trace, also]
  exact hears.trace

/-- More happens, and shows as far as it does. -/
theorem note (hears : Hears levels full start origin first second) (events : List Event) :
    Hears levels full start origin
      { first with trace := first.trace ++ events.filter (Event.shows levels) }
      { second with trace := second.trace ++ events } := by
  obtain ⟨earlier, trace, also⟩ := hears.trace
  refine ⟨hears.quiet, hears.loud, hears.bare, earlier ++ events, ?_, ?_⟩
  · rw [trace, List.filter_append, List.append_assoc]
  · rw [also, List.append_assoc]

end Hears

/-- If one world lets everything through that the other one does, deliveries do not tell
them apart. -/
theorem congruence_hears {levels full : LoggerLevels}
    (louder : ∀ logger severity, levels.lets logger severity = true →
      full.lets logger severity = true) (start origin : World) :
    Congruence (fun _ => True) (Hears levels full start origin) where
  destination hears := (congrArg destination hears.bare :)
  client _ hears := (congrArg (client · _) hears.bare :)
  files hears := (congrArg files hears.bare :)
  troubles hears := (congrArg troubles hears.bare :)
  note {left right event} unlogged hears := by
    have noted := hears.note [event]
    rwa [List.filter_cons_of_pos (Event.shows_of_not_isLog levels unlogged)] at noted
  logged {left right} entry hears := by
    have noted := hears.note [.log entry]
    rw [logged, logged, hears.quiet, hears.loud]
    by_cases passes : levels.lets entry.logger entry.event.severity = true
    · have shows : Event.shows levels (.log entry) = true := passes
      rw [if_pos passes, if_pos (louder _ _ passes)]
      rwa [List.filter_cons_of_pos shows] at noted
    · have hides : ¬ Event.shows levels (.log entry) = true := passes
      rw [if_neg passes]
      rw [List.filter_cons_of_neg hides, List.filter_nil, List.append_nil] at noted
      split
      · exact noted
      · exact hears
  setDestination label state hears :=
    hears.of_same (congrArg (setDestination · label state) hears.bare :) rfl rfl rfl rfl
  setClient state _ hears :=
    hears.of_same (congrArg (setClient · _ state) hears.bare :) rfl rfl rfl rfl
  setFiles files hears := hears.of_same
    (congrArg (fun world : World => { world with files }) hears.bare :) rfl rfl rfl rfl
  print data hears := hears.of_same
    (congrArg (fun world : World => { world with output := world.output ++ data }) hears.bare :)
    rfl rfl rfl rfl

end World

/-! ## Answers -/

namespace Step

/-- What is seen of a step: how it ends, and what happens in it. -/
structure Answer where
  outcome : Except Failure StepResult
  events : List Event

namespace Answer

/-- What is seen without the log. -/
def unlogged (answer : Answer) : Answer :=
  { answer with events := answer.events.filter fun event => !event.isLog }

/-- What is seen at given levels. -/
def heardAt (levels : LoggerLevels) (answer : Answer) : Answer :=
  { answer with events := answer.events.filter (Event.shows levels) }

/-- Levels make no difference to what is not logged. -/
theorem unlogged_heardAt (levels : LoggerLevels) (answer : Answer) :
    (answer.heardAt levels).unlogged = answer.unlogged := by
  rw [unlogged, unlogged, heardAt, mk.injEq]
  refine ⟨rfl, ?_⟩
  rw [List.filter_filter]
  apply List.filter_congr
  intro event _
  cases unlogged : event.isLog with
  | true => rfl
  | false => rw [Event.shows_of_not_isLog levels unlogged]; rfl

end Answer

/-- What is seen of steps one after the other, whether they fail or not. -/
def answers : List Step → World → List Answer
  | [], _ => []
  | step :: steps, world =>
    let done := step.perform.run.run world
    ⟨done.1, done.2.trace.drop world.trace.length⟩ :: answers steps done.2

/-- A step that is there to change the level changes it to a level. -/
def HasLevel : Step → Prop
  | .setLevel value => ∃ level, LogLevel.ofValue value = .ok level
  | _ => True

/-- A step with the level of debugging in place of any other. -/
def debugging : Step → Step
  | .setLevel _ => .setLevel (.text Severity.debug.name)
  | step => step

/-- The levels behind a step. -/
def levelsAfter (levels : LoggerLevels) : Step → LoggerLevels
  | .setLevel value =>
    match LogLevel.ofValue value with
    | .ok level => LoggerLevels.set levels LoggerName.library level
    | .error _ => levels
  | _ => levels

/-- The levels in force during each of the steps. -/
def inForce : List Step → LoggerLevels → List LoggerLevels
  | [], _ => []
  | step :: steps, levels => levels :: inForce steps (step.levelsAfter levels)

theorem length_inForce (steps : List Step) (levels : LoggerLevels) :
    (inForce steps levels).length = steps.length := by
  induction steps generalizing levels with
  | nil => rfl
  | cons step steps hypothesis => simp [inForce, hypothesis]

theorem length_answers (steps : List Step) (world : World) :
    (answers steps world).length = steps.length := by
  induction steps generalizing world with
  | nil => rfl
  | cons step steps hypothesis => simp [answers, hypothesis]

/-- Changing the level changes nothing else. -/
theorem run_setLevel {value : Value} {level : LogLevel} (valid : LogLevel.ofValue value = .ok level)
    (world : World) :
    (perform (.setLevel value)).run.run world = (.ok .nothing, world.atLevel level) := by
  rw [perform, run_bind, Delivery.setLevel, valid]
  rfl

/-! ## Runs -/

/-- One step of a run and of the loud run. -/
theorem perform_louder {step : Step} (valid : step.HasLevel) {first second base : World}
    {level : LogLevel} (quiet : first.levels = (base.atLevel level).levels)
    (loud : second.levels = (base.atLevel .debug).levels) (same : first.bare = second.bare) :
    let done := step.perform.run.run first
    let ended := step.debugging.perform.run.run second
    done.1 = ended.1 ∧ done.2.bare = ended.2.bare
      ∧ done.2.levels = step.levelsAfter first.levels
      ∧ (∃ after, done.2.levels = (base.atLevel after).levels)
      ∧ ended.2.levels = (base.atLevel .debug).levels
      ∧ ∃ events, done.2.trace = first.trace ++ events.filter (Event.shows first.levels)
        ∧ ended.2.trace = second.trace ++ events := by
  by_cases changes : ∃ value, step = .setLevel value
  · obtain ⟨value, rfl⟩ := changes
    obtain ⟨after, valid⟩ := valid
    have debug : LogLevel.ofValue (.text Severity.debug.name) = .ok .debug := rfl
    have reset : ∀ level other, ((base.atLevel level).atLevel other).levels
        = (base.atLevel other).levels := fun level other => LoggerLevels.set_set ..
    rw [debugging, run_setLevel valid, run_setLevel debug]
    refine ⟨rfl, same, ?_, ⟨after, ?_⟩, ?_, [], ?_⟩
    · rw [levelsAfter, valid]
      rfl
    · rw [← reset level after, World.atLevel, quiet]
      rfl
    · rw [← reset .debug .debug, World.atLevel, loud]
      rfl
    · simp [World.atLevel]
  · have apart : ∀ value, step ≠ .setLevel value := fun value is => changes ⟨value, is⟩
    have louder : ∀ logger severity, first.levels.lets logger severity = true →
        second.levels.lets logger severity = true := by
      intro logger severity passes
      rw [quiet] at passes
      rw [loud]
      exact LoggerLevels.lets_debug passes
    have unchanged : step.debugging = step ∧ step.levelsAfter first.levels = first.levels := by
      cases step with
      | setLevel value => exact absurd rfl (apart value)
      | _ => exact ⟨rfl, rfl⟩
    obtain ⟨outcome, ended⟩ := coupled_perform (World.congruence_hears louder first second) apart
      first second (.refl same)
    rw [unchanged.1, unchanged.2]
    exact ⟨outcome, ended.bare, ended.quiet, ⟨level, ended.quiet.trans quiet⟩,
      ended.loud.trans loud, ended.trace⟩

/-- **A run shows what the loud run shows, as far as its levels let it through.** -/
theorem answers_louder {steps : List Step} (valid : ∀ step ∈ steps, step.HasLevel)
    {first second base : World} {level : LogLevel}
    (quiet : first.levels = (base.atLevel level).levels)
    (loud : second.levels = (base.atLevel .debug).levels) (same : first.bare = second.bare) :
    answers steps first = List.zipWith Answer.heardAt (inForce steps first.levels)
        (answers (steps.map debugging) second)
      ∧ (performAll steps first).2.bare = (performAll (steps.map debugging) second).2.bare := by
  induction steps generalizing first second level with
  | nil => exact ⟨rfl, same⟩
  | cons step steps hypothesis =>
      obtain ⟨outcome, bare, levels, ⟨after, quieter⟩, louder, events, trace, also⟩ :=
        perform_louder (valid step (List.mem_cons_self ..)) quiet loud same
      obtain ⟨others, ends⟩ := hypothesis
        (fun other inside => valid other (List.mem_cons_of_mem _ inside)) quieter louder bare
      rw [levels] at others
      refine ⟨?_, ends⟩
      simp only [answers, List.map_cons, inForce, List.zipWith_cons_cons, others, outcome, trace,
        also, List.drop_left, Answer.heardAt]

/-- Without the log a run shows what the loud run shows. -/
theorem unlogged_louder {steps : List Step} {levels : LoggerLevels} {loud : List Answer}
    (length : loud.length = steps.length) :
    (List.zipWith Answer.heardAt (inForce steps levels) loud).map Answer.unlogged
      = loud.map Answer.unlogged := by
  rw [List.map_zipWith]
  simp only [Answer.unlogged_heardAt]
  rw [← length_inForce steps levels] at length
  generalize inForce steps levels = each at length
  induction loud generalizing each with
  | nil => simp
  | cons answer loud hypothesis =>
      cases each with
      | nil => cases length
      | cons levels each =>
          rw [List.zipWith_cons_cons, List.map_cons, hypothesis each (Nat.succ.inj length)]

/-- **Levels make no difference to anything but the log.**  Take two runs from the same
world whose steps are the same, except that the library's logger is at different levels at
the beginning and is given different levels on the way.  Step by step they return the same
or fail with the same, and the same happens in the same order apart from the log; and they
end with the same destinations, clients, files and output.  The log of each of them is, step
by step, that of the run at the level of debugging, as far as the levels in force during the
step let it through. -/
theorem answers_levels (world : World) (level other : LogLevel) {first second : List Step}
    (same : first.map debugging = second.map debugging) (valid : ∀ step ∈ first, step.HasLevel)
    (also : ∀ step ∈ second, step.HasLevel) :
    let run := world.atLevel level
    let another := world.atLevel other
    let loud := answers (first.map debugging) (world.atLevel .debug)
    (answers first run).map Answer.unlogged = (answers second another).map Answer.unlogged
      ∧ (performAll first run).2.bare = (performAll second another).2.bare
      ∧ answers first run = List.zipWith Answer.heardAt (inForce first run.levels) loud
      ∧ answers second another
        = List.zipWith Answer.heardAt (inForce second another.levels) loud := by
  intro run another loud
  obtain ⟨heard, ends⟩ := answers_louder valid (rfl : run.levels = (world.atLevel level).levels)
    (rfl : (world.atLevel .debug).levels = _) rfl
  obtain ⟨also_heard, also_ends⟩ := answers_louder also
    (rfl : another.levels = (world.atLevel other).levels)
    (rfl : (world.atLevel .debug).levels = _) rfl
  rw [← same] at also_heard also_ends
  have length : loud.length = first.length := by
    rw [length_answers, List.length_map]
  have also_length : loud.length = second.length := by
    rw [length_answers, same, List.length_map]
  refine ⟨?_, ends.trans also_ends.symm, heard, also_heard⟩
  rw [heard, also_heard, unlogged_louder length, unlogged_louder also_length]

/-- Two runs of a command that cannot be started, with another level in between. -/
def launches (level : Value) : List Step :=
  let launch := Step.track Tracker.recording
    (Runner.scripted (.failed (.external .fileNotFound "no such program"))) (.list [.text "up"])
  [launch, .setLevel level, launch]

/-- What is logged of them depends on the levels, and nothing else does. -/
theorem answers_levels_launches :
    let world := World.initial ⟨[], [], []⟩ []
    let first := launches (.text "DEBUG")
    let second := launches (.int 50)
    first.map debugging = second.map debugging
      ∧ (∀ step ∈ first, step.HasLevel) ∧ (∀ step ∈ second, step.HasLevel)
      ∧ (answers first (world.atLevel (.number 20))).map (·.events.length) = [3, 0, 4]
      ∧ (answers second (world.atLevel (.number 30))).map (·.events.length) = [2, 0, 2]
      ∧ (answers first (world.atLevel (.number 20))).map Answer.unlogged
        = (answers second (world.atLevel (.number 30))).map Answer.unlogged := by
  intro world first second
  have valid : ∀ step ∈ first, step.HasLevel := by
    intro step member
    simp only [first, launches, List.mem_cons, List.not_mem_nil, or_false] at member
    rcases member with rfl | rfl | rfl
    · trivial
    · exact ⟨.number 10, rfl⟩
    · trivial
  have also : ∀ step ∈ second, step.HasLevel := by
    intro step member
    simp only [second, launches, List.mem_cons, List.not_mem_nil, or_false] at member
    rcases member with rfl | rfl | rfl
    · trivial
    · exact ⟨.number 50, rfl⟩
    · trivial
  have alike : first.map debugging = second.map debugging := rfl
  obtain ⟨same, _, heard, also_heard⟩ :=
    answers_levels world (.number 20) (.number 30) alike valid also
  refine ⟨alike, valid, also, ?_, ?_, same⟩
  · rw [heard]
    decide +kernel
  · rw [also_heard]
    decide +kernel

end Step

end Heartbeat
