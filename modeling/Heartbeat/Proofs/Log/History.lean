import Heartbeat.Log.Process
import Heartbeat.Proofs.CommandLine.Heartbeats
import Heartbeat.Proofs.Log.Levels

/-!
# Setting up the log again and again

A set-up fails if and only if its value gives no level, and then it changes nothing, neither
the level nor the handlers nor the note that the log was set up.  One with a level gives the
log that level and makes it ready, and what the handlers are when it is ready was settled in
the beginning (`ProcessLog.readyHandlers_configure`).

So after any history of set-ups the log is what the last one with a level has made of it: the
level is that one, and there is one handler for the standard error, however many set-ups
there were.  As long as none had a level the log is still what it was, and the first one that
has attaches the handler (`ProcessLog.configureAll_history`).

The note tells nothing that the handlers do not tell.  In every log that a history leads to,
setting up does to what shows of the log what `LogSetup.configure` does.  Hence the log that
the application carries from one call to the next is one that shows after a history of
set-ups (`Application.log_callEach`).
-/

namespace Heartbeat

set_option autoImplicit false

/-! ## The level given last -/

namespace LogLevel

/-- A level is the one that was given last in a history. -/
def LastIn (level : LogLevel) (history : List Value) : Prop :=
  ∃ before value after, history = before ++ value :: after ∧ value.GivesLevel level
    ∧ ∀ later ∈ after, ∀ other, ¬ later.GivesLevel other

/-- If a level was given in a history, one was given last. -/
theorem exists_lastIn_iff {history : List Value} :
    (∃ level : LogLevel, level.LastIn history)
      ↔ ∃ value ∈ history, ∃ level, value.GivesLevel level := by
  constructor
  · rintro ⟨level, before, value, after, rfl, gives, _⟩
    exact ⟨value, List.mem_append_right before List.mem_cons_self, level, gives⟩
  · intro given
    induction history with
    | nil =>
        obtain ⟨value, member, _⟩ := given
        cases member
    | cons value values hypothesis =>
        by_cases again : ∃ value ∈ values, ∃ level, value.GivesLevel level
        · obtain ⟨level, before, giver, after, rfl, gives, none⟩ := hypothesis again
          exact ⟨level, value :: before, giver, after, rfl, gives, none⟩
        · obtain ⟨found, member, level, gives⟩ := given
          rcases List.mem_cons.mp member with rfl | behind
          · exact ⟨level, [], found, values, rfl, gives,
              fun later inside other also => again ⟨later, inside, other, also⟩⟩
          · exact absurd ⟨found, behind, level, gives⟩ again

end LogLevel

/-! ## One set-up -/

namespace ProcessLog

/-- The handlers of the log once it is set up. -/
def readyHandlers (log : ProcessLog) : List LogHandler :=
  if log.isConfigured then log.handlers else log.handlers ++ [.standardError]

/-- What a set-up does: with a level it gives the log that level and makes it ready, and
otherwise it fails before it changes anything. -/
theorem run_configure (value : Value) (log : ProcessLog) :
    (configure value).run.run log = match LogSetup.levelOf value with
      | .ok level => (.ok (), ⟨level, log.readyHandlers, true⟩)
      | .error failure => (.error failure, log) := by
  obtain ⟨before, handlers, isConfigured⟩ := log
  rw [configure]
  cases LogSetup.levelOf value with
  | error failure => rfl
  | ok level => cases isConfigured <;> rfl

theorem run_configure_of_gives {value : Value} {level : LogLevel}
    (gives : value.GivesLevel level) (log : ProcessLog) :
    (configure value).run.run log = (.ok (), ⟨level, log.readyHandlers, true⟩) := by
  rw [run_configure, LogSetup.levelOf_eq_ok_iff.mpr gives]

theorem run_configure_of_not_gives {value : Value}
    (other : ∀ level, ¬ value.GivesLevel level) (log : ProcessLog) :
    ∃ failure, (configure value).run.run log = (.error failure, log) := by
  rw [run_configure]
  cases found : LogSetup.levelOf value with
  | ok level => exact absurd (LogSetup.levelOf_eq_ok_iff.mp found) (other level)
  | error failure => exact ⟨failure, rfl⟩

/-- What the handlers are once the log is set up was settled before any set-up. -/
theorem readyHandlers_configure (value : Value) (log : ProcessLog) :
    ((configure value).run.run log).2.readyHandlers = log.readyHandlers := by
  rw [run_configure]
  cases LogSetup.levelOf value with
  | error failure => rfl
  | ok level => rfl

/-- The note says what the handlers say. -/
def Coherent (log : ProcessLog) : Prop :=
  log.isConfigured = true ↔ LogHandler.standardError ∈ log.handlers

theorem coherent_unconfigured (level : LogLevel) : (unconfigured level).Coherent :=
  iff_of_false Bool.false_ne_true (by simp [unconfigured])

theorem coherent_configure {log : ProcessLog} (coherent : log.Coherent) (value : Value) :
    ((configure value).run.run log).2.Coherent := by
  rw [run_configure]
  cases LogSetup.levelOf value with
  | error failure => exact coherent
  | ok level =>
      refine iff_of_true rfl ?_
      show _ ∈ log.readyHandlers
      rw [readyHandlers]
      split
      · next configured => exact coherent.mp configured
      · exact List.mem_append_right _ (List.mem_singleton_self _)

/-- A coherent log is made ready by one handler if it has none for the standard error, and
is ready if it has. -/
theorem Coherent.count_readyHandlers {log : ProcessLog} (coherent : log.Coherent) :
    log.readyHandlers.count .standardError
      = if log.setup.handlers = 0 then 1 else log.setup.handlers := by
  have noted : log.isConfigured = true ↔ .standardError ∈ log.handlers := coherent
  rw [readyHandlers, setup]
  cases configured : log.isConfigured with
  | true =>
      have some : log.handlers.count .standardError ≠ 0 :=
        Nat.ne_of_gt (List.count_pos_iff.mpr (noted.mp configured))
      rw [if_pos rfl, if_neg some]
  | false =>
      have none : log.handlers.count .standardError = 0 := by
        rw [List.count_eq_zero, ← noted, configured]
        exact Bool.false_ne_true
      rw [if_neg Bool.false_ne_true, if_pos none, List.count_append, none]
      rfl

/-- Setting up a coherent log does to what shows of it what setting up does there. -/
theorem Coherent.setup_configure {log : ProcessLog} (coherent : log.Coherent) (value : Value) :
    log.setup.configure value
      = (((configure value).run.run log).1, ((configure value).run.run log).2.setup) := by
  rw [run_configure, LogSetup.configure]
  cases LogSetup.levelOf value with
  | error failure => rfl
  | ok level =>
      dsimp only
      rw [← coherent.count_readyHandlers]
      rfl

/-! ## Histories -/

/-- Whether a set-up fails does not depend on what was before it. -/
theorem forall₂_configureAll (history : List Value) (log : ProcessLog) :
    List.Forall₂ (fun value result => result = .ok () ↔ ∃ level, value.GivesLevel level)
      history (configureAll history log).1 := by
  induction history generalizing log with
  | nil => exact .nil
  | cons value values hypothesis =>
      refine .cons ?_ (hypothesis _)
      rw [run_configure]
      cases found : LogSetup.levelOf value with
      | ok level => exact iff_of_true rfl ⟨level, LogSetup.levelOf_eq_ok_iff.mp found⟩
      | error failure =>
          refine iff_of_false nofun ?_
          rintro ⟨level, gives⟩
          rw [LogSetup.levelOf_eq_ok_iff.mpr gives] at found
          cases found

/-- What the handlers are once the log is set up does not depend on the history. -/
theorem readyHandlers_configureAll (history : List Value) (log : ProcessLog) :
    (configureAll history log).2.readyHandlers = log.readyHandlers := by
  induction history generalizing log with
  | nil => rfl
  | cons value values hypothesis =>
      show (configureAll values _).2.readyHandlers = _
      rw [hypothesis, readyHandlers_configure]

theorem coherent_configureAll {log : ProcessLog} (coherent : log.Coherent)
    (history : List Value) : (configureAll history log).2.Coherent := by
  induction history generalizing log with
  | nil => exact coherent
  | cons value values hypothesis => exact hypothesis (coherent_configure coherent value)

/-- A history without a level changes nothing. -/
theorem configureAll_of_not_gives {history : List Value}
    (other : ∀ value ∈ history, ∀ level, ¬ value.GivesLevel level) (log : ProcessLog) :
    (configureAll history log).2 = log := by
  induction history generalizing log with
  | nil => rfl
  | cons value values hypothesis =>
      obtain ⟨failure, refused⟩ := run_configure_of_not_gives (other value List.mem_cons_self) log
      show (configureAll values _).2 = _
      rw [refused]
      exact hypothesis (fun later member => other later (List.mem_cons_of_mem value member)) log

/-- A history in which a level was given makes the log ready, at the level given last. -/
theorem configureAll_of_lastIn {level : LogLevel} {history : List Value}
    (last : level.LastIn history) (log : ProcessLog) :
    (configureAll history log).2 = ⟨level, log.readyHandlers, true⟩ := by
  obtain ⟨before, value, after, rfl, gives, none⟩ := last
  rw [configureAll_append, ← readyHandlers_configureAll before log]
  show (configureAll after _).2 = _
  rw [run_configure_of_gives gives]
  exact configureAll_of_not_gives none _

/-- **Setting up is idempotent and atomic over any history.**  Start with a process that has
not set up its log.  The set-ups of a history that return are those whose value gives a level.
If there are such, the log has the level given last, one handler for the standard error
behind the silent one, and the note; if there are none, the log is what it was.  At every such
moment a further set-up with a level returns and leaves that level, the one handler and the
note, and a further set-up with anything else fails and leaves the log as it is.  All of this
shows from outside as `LogSetup.configure` has it. -/
theorem configureAll_history (initial : LogLevel) (history : List Value) :
    let done := configureAll history (unconfigured initial)
    let log := done.2
    List.Forall₂ (fun value result => result = .ok () ↔ ∃ level, value.GivesLevel level)
        history done.1
      ∧ ((∃ level : LogLevel, level.LastIn history)
        ↔ ∃ value ∈ history, ∃ level, value.GivesLevel level)
      ∧ (∀ level : LogLevel, level.LastIn history →
        log = ⟨level, [.silent, .standardError], true⟩)
      ∧ ((∀ value ∈ history, ∀ level, ¬ value.GivesLevel level) →
        log = ⟨initial, [.silent], false⟩)
      ∧ ∀ value,
        (∀ level, value.GivesLevel level →
          (configure value).run.run log = (.ok (), ⟨level, [.silent, .standardError], true⟩))
        ∧ ((∀ level, ¬ value.GivesLevel level) →
          ∃ failure, (configure value).run.run log = (.error failure, log))
        ∧ log.setup.configure value
          = (((configure value).run.run log).1, ((configure value).run.run log).2.setup) := by
  intro done log
  have coherent : log.Coherent := coherent_configureAll (coherent_unconfigured initial) history
  have ready : log.readyHandlers = [.silent, .standardError] :=
    readyHandlers_configureAll history (unconfigured initial)
  refine ⟨forall₂_configureAll history _, LogLevel.exists_lastIn_iff,
    fun level last => configureAll_of_lastIn last _, fun none => configureAll_of_not_gives none _,
    fun value => ⟨fun level gives => ?_, fun other => run_configure_of_not_gives other log,
      coherent.setup_configure value⟩⟩
  rw [run_configure_of_gives gives, ready]

/-- A history that begins and ends with something that is no level, and in which a name in
letters of both cases gives the last one. -/
theorem configureAll_history_mixed :
    let history : List Value := [.text "loud", .int 10, .text "wArNiNg", .list []]
    let log := (configureAll history (unconfigured (.number 0))).2
    (LogLevel.number 30).LastIn history
      ∧ log = ⟨.number 30, [.silent, .standardError], true⟩
      ∧ (∀ level, ¬ (Value.text "loud").GivesLevel level)
      ∧ (configureAll [.text "loud"] (unconfigured (.number 0))).2
        = ⟨.number 0, [.silent], false⟩
      ∧ (∃ failure, (configure (.text "loud")).run.run log = (.error failure, log))
      ∧ (configure (.bool true)).run.run log
        = (.ok (), ⟨.flag true, [.silent, .standardError], true⟩) := by
  intro history log
  have loud : ∀ level, ¬ (Value.text "loud").GivesLevel level :=
    LogSetup.not_givesLevel_of_refused (by decide +kernel)
  have empty : ∀ level, ¬ (Value.list []).GivesLevel level :=
    LogSetup.not_givesLevel_of_refused (by decide +kernel)
  have spells : LogLevel.Spells "wArNiNg" 30 :=
    LogLevel.spells_of_recases (show ("WARNING", 30) ∈ LogLevel.named by decide) (by decide)
  have last : (LogLevel.number 30).LastIn history :=
    ⟨[.text "loud", .int 10], .text "wArNiNg", [.list []], rfl, .spelled spells,
      fun later member => List.mem_singleton.mp member ▸ empty⟩
  obtain ⟨_, _, reached, _, next⟩ := configureAll_history (.number 0) history
  obtain ⟨_, _, _, unreached, _⟩ := configureAll_history (.number 0) [.text "loud"]
  refine ⟨last, reached _ last, loud, unreached fun value member => ?_, (next _).2.1 loud,
    (next _).1 _ (.flag true)⟩
  exact List.mem_singleton.mp member ▸ loud

end ProcessLog

/-! ## Calls of the application -/

/-- A setup is what shows of the log of a process after some history. -/
def LogSetup.Reached (setup : LogSetup) : Prop :=
  ∃ history, setup = (ProcessLog.configureAll history (.unconfigured (.number 0))).2.setup

namespace LogSetup

theorem Reached.configure {setup : LogSetup} (reached : setup.Reached) (value : Value) :
    (setup.configure value).2.Reached := by
  obtain ⟨history, rfl⟩ := reached
  have coherent := ProcessLog.coherent_configureAll
    (ProcessLog.coherent_unconfigured (.number 0)) history
  refine ⟨history ++ [value], ?_⟩
  rw [coherent.setup_configure, ProcessLog.configureAll_append]
  rfl

/-- A setup that is reached has one handler if a level was given, and otherwise none. -/
theorem Reached.handlers_le_one {setup : LogSetup} (reached : setup.Reached) :
    setup.handlers ≤ 1 := by
  obtain ⟨history, rfl⟩ := reached
  by_cases given : ∃ value ∈ history, ∃ level, value.GivesLevel level
  · obtain ⟨level, last⟩ := LogLevel.exists_lastIn_iff.mpr given
    rw [ProcessLog.configureAll_of_lastIn last]
    exact Nat.le_refl 1
  · rw [ProcessLog.configureAll_of_not_gives fun value member level gives =>
      given ⟨value, member, level, gives⟩]
    exact Nat.zero_le 1

end LogSetup

namespace Application

/-- A call sets up the log with the level of its settings, or it does not come to that. -/
theorem log_call (circumstances : Circumstances) (application : Application) (line : List Text) :
    (call circumstances application line).2.log = application.log
      ∨ ∃ settings, Settings.resolve (sources circumstances application) = .ok settings
        ∧ (call circumstances application line).2.log
          = (application.log.configure (.text settings.logLevel)).2 := by
  rw [call]
  cases resolved : Settings.resolve (sources circumstances application) with
  | error complaints => exact .inl rfl
  | ok settings =>
      dsimp only
      cases CommandName.select line with
      | error fault => exact .inl rfl
      | ok selected =>
          cases selected with
          | none => exact .inl rfl
          | some pair =>
              obtain ⟨command, rest⟩ := pair
              refine .inr ⟨settings, rfl, ?_⟩
              dsimp only
              rcases application.log.configure (.text settings.logLevel) with ⟨_ | _, log⟩
              · rfl
              · dsimp only
                rw [callCommand]
                split <;> rfl

/-- **The log that outlives calls is one that a history of set-ups leads to**, however often
the application is called, in whatever circumstances and with whatever command lines.  So it
never has more than one handler. -/
theorem log_callEach (calls : List (Circumstances × List Text)) {application : Application}
    (reached : application.log.Reached) :
    (callEach calls application).2.log.Reached
      ∧ (callEach calls application).2.log.handlers ≤ 1 := by
  suffices still : (callEach calls application).2.log.Reached from ⟨still, still.handlers_le_one⟩
  induction calls generalizing application with
  | nil => exact reached
  | cons each calls hypothesis =>
      obtain ⟨circumstances, line⟩ := each
      have next : (call circumstances application line).2.log.Reached := by
        rcases log_call circumstances application line with
          same | ⟨settings, _, configured⟩
        · rw [same]
          exact reached
        · rw [configured]
          exact reached.configure (.text settings.logLevel)
      exact hypothesis next

/-- The log of an application that was not called yet is reached. -/
theorem reached_fresh (files : FileTree) : (fresh files).log.Reached := ⟨[], rfl⟩

end Application

end Heartbeat
