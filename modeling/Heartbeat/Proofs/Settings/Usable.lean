import Heartbeat.CommandLine.Application
import Heartbeat.Proofs.Delivery.Timeouts
import Heartbeat.Proofs.Settings.Valid

/-!
# Settings and what uses them

Two settings are used by something that makes demands of its own.  The timeout is handed to
a session, which wants a number that is not at most zero, and resolving has made sure of
that.  The level is handed to the log, which wants the name of a level, and resolving takes
any text.

So a session is always built, and the log is set up if and only if the level is spelled in
one of eight ways, letters of either case being the same.  With any other text no command
is ever come to (`Settings.usable_of_resolve`).
-/

namespace Heartbeat

set_option autoImplicit false

/-! ## Names of levels -/

namespace LogLevel

/-- A text spells the level with a number, in letters of either case. -/
def Spells (text : Text) (rank : Int) : Prop :=
  ∃ name, (name, rank) ∈ named ∧ text.toUpper = (name : Text)

/-- A name stands for one level only. -/
theorem ofName?_of_mem {name : String} {rank : Int} (member : (name, rank) ∈ named) :
    ofName? (name : Text) = some (.number rank) := by
  have each : ∀ entry ∈ named, ofName? (entry.1 : Text) = some (.number entry.2) := by
    decide +kernel
  exact each (name, rank) member

/-- What is no name stands for none. -/
theorem ofName?_eq_none {text : Text} (other : ∀ rank, ¬ Spells text rank) :
    ofName? text.toUpper = none := by
  rw [ofName?, Option.map_eq_none_iff, List.find?_eq_none]
  rintro ⟨name, rank⟩ member same
  exact other rank ⟨name, member, of_decide_eq_true same⟩

end LogLevel

namespace LogSetup

/-- The level of a text is the one that it spells. -/
theorem levelOf_of_spells {text : Text} {rank : Int} (spells : LogLevel.Spells text rank) :
    levelOf (.text text) = .ok (.number rank) := by
  obtain ⟨name, member, same⟩ := spells
  show LogLevel.ofValue (.text text.toUpper) = _
  rw [same, LogLevel.ofValue, LogLevel.ofName?_of_mem member]

theorem levelOf_of_not_spells {text : Text} (other : ∀ rank, ¬ LogLevel.Spells text rank) :
    levelOf (.text text) = .error (.unknownLevel text.toUpper) := by
  show LogLevel.ofValue (.text text.toUpper) = _
  rw [LogLevel.ofValue, LogLevel.ofName?_eq_none other]

/-- The log is set up with the level that is spelled. -/
theorem configure_of_spells {text : Text} {rank : Int} (spells : LogLevel.Spells text rank)
    (setup : LogSetup) :
    setup.configure (.text text)
      = (.ok (), ⟨.number rank, if setup.handlers = 0 then 1 else setup.handlers⟩) := by
  rw [configure, levelOf_of_spells spells]

/-- Where no level is spelled, that is refused, and nothing has changed. -/
theorem configure_of_not_spells {text : Text} (other : ∀ rank, ¬ LogLevel.Spells text rank)
    (setup : LogSetup) :
    setup.configure (.text text) = (.error (.unknownLevel text.toUpper), setup) := by
  rw [configure, levelOf_of_not_spells other]

end LogSetup

/-! ## Settings in use -/

namespace Settings

variable {sources : Sources} {settings : Settings}

/-- A session is built with the timeout of settings that were resolved, whatever else a
command line overrides. -/
theorem exists_session_of_resolve (resolved : resolve sources = .ok settings)
    (overrides : Overrides) (network : Network) :
    ∃ session, Client.build (settings.override overrides).httpTimeout network = .ok session := by
  obtain ⟨number, is_number, positive⟩ := (valid_of_resolve resolved).httpTimeout
  have same : (settings.override overrides).httpTimeout = .double number := is_number
  rw [Client.build_isOk_iff, same]
  exact .inl positive

/-- **Settings that were resolved can be used, but for the level of the log.**  Wherever
they come from, a session is built with their timeout.  The log is set up with their level
if that spells one, and refuses it otherwise.  In the first case a call that selects a
command goes on to it; in the second case it ends there, whatever the command, and nothing
has changed. -/
theorem usable_of_resolve (resolved : resolve sources = .ok settings) :
    (∀ overrides network, ∃ session,
        Client.build (settings.override overrides).httpTimeout network = .ok session)
      ∧ (∀ rank, LogLevel.Spells settings.logLevel rank → ∀ setup : LogSetup,
        setup.configure (.text settings.logLevel)
          = (.ok (), ⟨.number rank, if setup.handlers = 0 then 1 else setup.handlers⟩))
      ∧ ((∀ rank, ¬ LogLevel.Spells settings.logLevel rank) → ∀ setup : LogSetup,
        setup.configure (.text settings.logLevel)
          = (.error (.unknownLevel settings.logLevel.toUpper), setup))
      ∧ ∀ circumstances application line command rest,
        Application.sources circumstances application = sources →
        CommandName.select line = .ok (some (command, rest)) →
        (∀ rank, LogLevel.Spells settings.logLevel rank →
          Application.call circumstances application line
            = Application.callCommand circumstances
              { application with
                log := (application.log.configure (.text settings.logLevel)).2 }
              settings command rest)
        ∧ ((∀ rank, ¬ LogLevel.Spells settings.logLevel rank) →
          Application.call circumstances application line
            = (.silent (.error (.failure (.unknownLevel settings.logLevel.toUpper))),
              application)) := by
  refine ⟨exists_session_of_resolve resolved, fun _ => LogSetup.configure_of_spells,
    LogSetup.configure_of_not_spells, ?_⟩
  rintro circumstances application line command rest rfl selected
  refine ⟨fun rank spells => ?_, fun other => ?_⟩
  · rw [Application.call, resolved]
    dsimp only
    rw [selected]
    dsimp only
    rw [LogSetup.configure_of_spells spells]
  · rw [Application.call, resolved]
    dsimp only
    rw [selected]
    dsimp only
    rw [LogSetup.configure_of_not_spells other]

/-- With a level that is none the settings are resolved and a session is built, and the
heartbeat is not sent. -/
theorem usable_of_resolve_verbose :
    let circumstances : Circumstances :=
      ⟨[("CLI_METRICS_LOG_LEVEL", "verbose")], ⟨"/home", []⟩, ⟨[], 200⟩,
        Runner.scripted (.exited (.int 0))⟩
    let application := Application.fresh ⟨[], [], []⟩
    let settings : Settings := { standard with logLevel := "verbose" }
    let line : List Text := ["report", "--command", "up", "--no-http"]
    resolve (Application.sources circumstances application) = .ok settings
      ∧ (∃ session, Client.build settings.httpTimeout circumstances.network = .ok session)
      ∧ (∀ rank, ¬ LogLevel.Spells settings.logLevel rank)
      ∧ CommandName.select line = .ok (some (.report, line.tail))
      ∧ Application.call circumstances application line
        = (.silent (.error (.failure (.unknownLevel "VERBOSE"))), application) := by
  intro circumstances application settings line
  have resolved : resolve (Application.sources circumstances application) = .ok settings := rfl
  have selected : CommandName.select line = .ok (some (.report, line.tail)) := rfl
  have other : ∀ rank, ¬ LogLevel.Spells settings.logLevel rank := by
    rintro rank ⟨name, member, same⟩
    have none : ∀ entry ∈ LogLevel.named,
        Text.toUpper (Text.ofString "verbose") ≠ (entry.1 : Text) := by decide +kernel
    exact none _ member same
  obtain ⟨built, _, _, called⟩ := usable_of_resolve resolved
  obtain ⟨_, refused⟩ := called circumstances application line .report line.tail rfl selected
  have capitals : settings.logLevel.toUpper = ("VERBOSE" : Text) := by decide +kernel
  refine ⟨resolved, built .unchanged circumstances.network, other, selected, ?_⟩
  rw [refused other, capitals]

end Settings

end Heartbeat
