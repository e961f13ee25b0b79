import Heartbeat.Proofs.CommandLine.Misuse
import Heartbeat.Proofs.Settings.Usable

/-!
# Calls that are rejected

A misused command line is refused before anything is opened, built or run.  So nothing of
what it says has an effect, not even what is said correctly in front of the mistake
(`Application.call_misused`).
-/

namespace Heartbeat

set_option autoImplicit false

/-- A delivery does not end as misused. -/
theorem Ending.result_ofDelivery_ne (outcome : Except Failure Value) (world : World)
    (fault : UsageFault) : (Ending.ofDelivery outcome world).result ≠ .error (.usage fault) := by
  cases outcome with
  | ok code => nofun
  | error failure =>
      rw [ofDelivery]
      dsimp only
      split <;> nofun

namespace Application

variable {circumstances : Circumstances} {application : Application} {line : List Text}
  {settings : Settings} {log : LogSetup}

/-- With settings and a log, a call ends as misused if its command line is refused,
whatever it could have used. -/
theorem call_of_refused
    (resolved : Settings.resolve (sources circumstances application) = .ok settings)
    (configured : application.log.configure (.text settings.logLevel) = (.ok (), log))
    (refused : CommandName.Refused line) :
    ∃ fault left, (left = application.log ∨ left = log) ∧ ∀ homes network runner,
      call { circumstances with homes, network, runner } application line
        = (.silent (.error (.usage fault)), { application with log := left }) := by
  have same : ∀ homes network runner,
      sources { circumstances with homes, network, runner } application
        = sources circumstances application := fun _ _ _ => rfl
  rcases refused with ⟨fault, unselected⟩ | ⟨command, rest, selected, fault, misuses⟩
  · refine ⟨fault, application.log, .inl rfl, fun homes network runner => ?_⟩
    rw [call, same, resolved]
    dsimp only
    rw [unselected]
  · refine ⟨fault, log, .inr rfl, fun homes network runner => ?_⟩
    rw [call, same, resolved]
    dsimp only
    rw [selected]
    dsimp only
    rw [configured]
    dsimp only
    rw [callCommand, misuses]

/-- A call that ends as misused was refused for its command line. -/
theorem refused_of_call {fault : UsageFault}
    (ended : (call circumstances application line).1.result = .error (.usage fault)) :
    CommandName.Refused line := by
  rw [call] at ended
  split at ended
  · cases ended
  · split at ended
    · next fault unselected => exact .inl ⟨fault, unselected⟩
    · cases ended
    · next command rest selected =>
        split at ended
        · cases ended
        · rw [callCommand] at ended
          split at ended
          · next fault misuses => exact .inr ⟨command, rest, selected, fault, misuses⟩
          · cases ended
          · exact absurd ended (Ending.result_ofDelivery_ne _ _ fault)

/-- **A rejected call leaves no trace.**  Where the settings are accepted and spell a level,
a call ends as misused exactly if its command line is misused, whatever stands in front of
the mistake.  Then it ends with the code two, and neither the files nor the output have
changed; nothing was written, posted or built, and no child was run, since all this is the
same whatever the network is and whatever runs children.  At most the log was set up. -/
theorem call_misused {rank : Int}
    (resolved : Settings.resolve (sources circumstances application) = .ok settings)
    (level : LogLevel.Spells settings.logLevel rank) :
    ((∃ fault, (call circumstances application line).1.result = .error (.usage fault))
        ↔ CommandName.Misused line)
      ∧ (CommandName.Misused line → ∃ refusal log, refusal.code = 2
        ∧ (log = application.log
          ∨ log = (application.log.configure (.text settings.logLevel)).2)
        ∧ ∀ homes network runner,
          call { circumstances with homes, network, runner } application line
            = (⟨.error refusal, [], []⟩, { application with log })) := by
  have configured := LogSetup.configure_of_spells level application.log
  constructor
  · rw [← CommandName.refused_iff]
    constructor
    · rintro ⟨fault, ended⟩
      exact refused_of_call ended
    · intro refused
      obtain ⟨fault, left, _, ends⟩ := call_of_refused resolved configured refused
      have ended := ends circumstances.homes circumstances.network circumstances.runner
      exact ⟨fault, by rw [ended]; rfl⟩
  · intro misused
    obtain ⟨fault, left, set, ends⟩ :=
      call_of_refused resolved configured (CommandName.refused_iff.mpr misused)
    refine ⟨.usage fault, left, rfl, ?_, ends⟩
    rw [configured]
    exact set

/-- The outcome is unknown, behind options that would have had effects. -/
theorem call_misused_status :
    let circumstances : Circumstances :=
      ⟨[], ⟨"/home", []⟩, ⟨[], 200⟩, Runner.scripted (.exited (.int 0))⟩
    let line : List Text := ["report", "--command", "up", "--file", "/log/metrics", "--stdout",
      "--http", "--status", "done"]
    CommandName.Misused line
      ∧ ∃ refusal log, refusal.code = 2
        ∧ call circumstances (fresh ⟨[], [], []⟩) line
          = (⟨.error refusal, [], []⟩, { fresh ⟨[], [], []⟩ with log }) := by
  intro circumstances line
  have resolved : Settings.resolve (sources circumstances (fresh ⟨[], [], []⟩))
      = .ok Settings.standard := rfl
  have level : LogLevel.Spells Settings.standard.logLevel 30 := ⟨"WARNING", by decide, by decide⟩
  obtain ⟨ends, silent⟩ :
      (_ ↔ CommandName.Misused line) ∧ (CommandName.Misused line → _) := call_misused resolved level
  have misused : CommandName.Misused line := ends.mp ⟨.unknownStatus "done", rfl⟩
  obtain ⟨refusal, log, code, _, ended⟩ := silent misused
  exact ⟨misused, refusal, log, code, ended _ _ _⟩

end Application

end Heartbeat
