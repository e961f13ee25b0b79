import Heartbeat.Proofs.CommandLine.Arguments
import Heartbeat.Proofs.CommandLine.Misuse
import Heartbeat.Proofs.CommandLine.Outcome
import Heartbeat.Proofs.Delivery.Runs

/-!
# What a tracked child is given

Behind the two dashes that end the options a command line is the child's own.  Whatever
stands there is handed to the child as it is, also what looks like an option of the tracker
or like the end of the options; and none of it is taken for the context or the source that
the heartbeat tells (`Application.call_verbatim`).
-/

namespace Heartbeat

set_option autoImplicit false

open Delivery

/-! ## What is said of a run -/

/-- Of a run that is tracked only the context and the source can be said. -/
def Said.IsRemark : Said → Prop
  | .given field _ _ => field = .context ∨ field = .source
  | .turned .. => False

namespace Invocation

variable {said : List Said} (remarks : ∀ one ∈ said, one.IsRemark)

include remarks

/-- What is said in front of the two dashes is read as options, and what is behind them are
words. -/
theorem admits_remarks (words : List Text) :
    trackGrammar.Admits (said.flatMap Said.words ++ Grammar.optionsEnd :: words)
      (said.map Said.option) words := by
  have listed : ∀ one ∈ said, one.ListedIn trackGrammar := by
    intro one member
    have remark := remarks one member
    cases one with
    | turned => cases remark
    | given field value attached =>
        show (field.option, OptionKind.value) ∈ trackGrammar.options
        rcases remark with rfl | rfl <;> decide
  have admits := (Grammar.Admits.finish words).prepend listed
  rwa [List.append_nil] at admits

/-- Nobody asks for help, whatever the child is given. -/
theorem ofArguments_remarks {words : List Text} (something : words ≠ []) :
    ofArguments .track (said.flatMap Said.words ++ Grammar.optionsEnd :: words)
      = .ok (some (.track words (Said.last? .context said) (Said.last? .source said))) := by
  have unasked : ¬ Arguments.Gives (said.map Said.option) "--help" := by
    intro asked
    have helped : (⟨said.map Said.option, []⟩ : Arguments).has "--help" = true :=
      Arguments.has_iff.mpr asked
    rw [Arguments.has_help_said] at helped
    cases helped
  have context := Arguments.value?_said said .context
  have source := Arguments.value?_said said .source
  rw [CommandName.ofArguments_of_admits .track (admits_remarks remarks words) unasked rfl]
  obtain ⟨word, rest, rfl⟩ := List.exists_cons_of_ne_nil something
  rw [← context, ← source]
  rfl

end Invocation

/-! ## Calls -/

/-- Building a reporter runs no child. -/
theorem Reporter.sameRuns_build {settings : Settings} (valid : settings.Valid) (homes : Homes)
    (network : Network) {start built : World} {sink : Sink}
    (builds : (build homes network settings Lending.onlyResources).run.run start
      = (.ok sink, built)) : start.SameRuns built := by
  have trace := (build_ok valid homes network Lending.onlyResources start
    (congrArg Prod.fst builds)).2
  rw [builds] at trace
  rw [World.SameRuns, World.runs, World.runs, trace, List.filterMap_append]
  split
  · rw [List.filterMap_append, Event.filterMap_run?_log]
    split <;> exact List.append_nil _
  · exact List.append_nil _

namespace Application

variable {circumstances : Circumstances} {application : Application} {settings : Settings}
  {log : LogSetup} {said : List Said} {sink : Sink} {built : World}

/-- What a tracked command line leaves is what closing leaves of what tracking leaves. -/
theorem world_perform_track {words : List Text} {context source : Option Text} {start : World}
    (builds : (Reporter.build circumstances.homes circumstances.network settings
      Lending.onlyResources).run.run start = (.ok sink, built)) :
    let tracker : Tracker :=
      ⟨sink, Value.ofText? context, Value.ofText? source, LoggerName.tracker⟩
    let left :=
      ((tracker.track circumstances.runner (.list (words.map Value.text))).run.run built).2
    ((perform circumstances settings (.track words context source)).run.run start).2
      = (closeAll.run.run left).2 := by
  intro tracker left
  have is_found : (Application.tracker circumstances settings context source).run.run start
      = (.ok tracker, built) := by
    rw [Application.tracker, run_bind_of_ok builds]
    rfl
  rw [perform, world_bind (fun _ _ => rfl), world_closing, run_bind_of_ok is_found]

/-- **A tracked child is given its arguments as they are.**  Let the settings be accepted, the
log be set up and the reporter be built.  Whatever is said of context and source in front of
the two dashes, and whatever stands behind them, the child is run once, with just what stands
behind them.  A heartbeat, of which there is one if the run says a number, tells the first
of these arguments and the context and the source that were said last, or that there were
none; and beside the run and the heartbeat there is only what the log and closing add. -/
theorem call_verbatim (word : Text) (rest : List Text) (remarks : ∀ one ∈ said, one.IsRemark)
    (resolved : Settings.resolve (sources circumstances application) = .ok settings)
    (configured : application.log.configure (.text settings.logLevel) = (.ok (), log))
    (builds : (Reporter.build circumstances.homes circumstances.network settings
      Lending.onlyResources).run.run { application with log }.start = (.ok sink, built)) :
    let line := Text.ofString "track" ::
      (said.flatMap Said.words ++ Grammar.optionsEnd :: word :: rest)
    let arguments := (word :: rest).map Value.text
    let tracker : Tracker := ⟨sink, Value.ofText? (Said.last? .context said),
      Value.ofText? (Said.last? .source said), LoggerName.tracker⟩
    let done := call circumstances application line
    ∃ left, tracker.Told (.text word) (circumstances.runner.once arguments built) left
      ∧ done.1.trace = (closeAll.run.run left).2.trace
      ∧ done.1.output = (closeAll.run.run left).2.output
      ∧ done.2 = { application with log, files := (closeAll.run.run left).2.files }
      ∧ done.1.trace.filterMap Event.run?
        = if circumstances.runner.traced then [arguments] else [] := by
  intro line arguments tracker done
  have understands : application.Understands circumstances line settings
      (.track (word :: rest) (Said.last? .context said) (Said.last? .source said)) log :=
    ⟨resolved, ⟨.track, _, rfl, Invocation.ofArguments_remarks remarks nofun⟩, configured⟩
  have left : ((perform circumstances settings (.track (word :: rest) (Said.last? .context said)
      (Said.last? .source said))).run.run { application with log }.start).2 = _ :=
    world_perform_track builds
  have ending : done.1 = _ := call_of_understands understands
  have trace : done.1.trace = _ := congrArg Ending.trace ending
  have output : done.1.output = _ := congrArg Ending.output ending
  have kept : done.2 = _ := left_of_understands understands
  dsimp only [Ending.ofDelivery] at trace output
  rw [left] at trace output kept
  have runs : built.runs = [] :=
    Reporter.sameRuns_build (Settings.valid_of_resolve resolved) _ _ builds
  refine ⟨_, tracker.told_track circumstances.runner (.text word) (rest.map Value.text) built,
    trace, output, kept, ?_⟩
  rw [trace]
  exact (sameRuns_closeAll _).trans
    ((tracker.runs_track circumstances.runner (.text word) (rest.map Value.text) built).trans
      (by rw [runs, List.nil_append]; rfl))

/-- The child gets what looks like an option of the tracker, and another two dashes, and the
heartbeat tells the source that was said in front of them and no context. -/
theorem call_verbatim_options :
    let circumstances : Circumstances :=
      ⟨[], ⟨"/home", []⟩, ⟨[], 200⟩, Runner.scripted (.exited (.int 0))⟩
    let application := fresh ⟨[], [], []⟩
    let line : List Text := ["track", "--source=shell", "--", "run", "--context=c", "--", "-x"]
    let arguments : List Value := [.text "run", .text "--context=c", .text "--", .text "-x"]
    let start := { application with
      log := (application.log.configure (.text "WARNING")).2 }.start
    let built := start.prepared Settings.standard Lending.onlyResources circumstances.network
    let tracker : Tracker := ⟨.fanout [.http .session LoggerName.http] LoggerName.fanout, .null,
      .text "shell", LoggerName.tracker⟩
    (∃ left, tracker.Told (.text "run") (circumstances.runner.once arguments built) left)
      ∧ (call circumstances application line).1.trace.filterMap Event.run? = [arguments] := by
  intro circumstances application line arguments start built tracker
  have resolved : Settings.resolve (sources circumstances application) = .ok Settings.standard :=
    rfl
  have builds : (Reporter.build circumstances.homes circumstances.network Settings.standard
      Lending.onlyResources).run.run start = (.ok tracker.sink, built) := by
    rw [Reporter.run_build _ _ _ (Settings.valid_of_resolve resolved)]
    rfl
  have remarks : ∀ one ∈ [Said.given .source "shell" true], one.IsRemark := by
    simp [Said.IsRemark]
  have same : line = Text.ofString "track" :: ([Said.given .source "shell" true].flatMap Said.words
      ++ Grammar.optionsEnd :: "run" :: ["--context=c", "--", "-x"]) := rfl
  obtain ⟨left, told, _, _, _, runs⟩ :=
    call_verbatim "run" ["--context=c", "--", "-x"] remarks resolved rfl builds
  refine ⟨⟨left, told⟩, ?_⟩
  rw [same]
  exact runs

end Application

end Heartbeat
