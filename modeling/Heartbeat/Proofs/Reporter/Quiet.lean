import Heartbeat.Proofs.Delivery.Calm
import Heartbeat.Proofs.Reporter

/-!
# Reporters in quiet worlds

Building a reporter asks nothing of its sinks, so it leaves a quiet world quiet: the file
that it opens and the session that it builds fail ordinarily if they fail.  Beside that
it registers what it opened, each resource once (`Reporter.build_quiet`).
-/

namespace Heartbeat

set_option autoImplicit false

open Delivery

namespace Reporter

/-- The resources that a caller has who lends nothing, given what was opened. -/
def opens (filed posted : Bool) : List Resource :=
  (if posted then [.session .session] else []) ++ if filed then [.file .metricsFile] else []

theorem nodup_opens (filed posted : Bool) : (opens filed posted).Nodup := by
  cases filed <;> cases posted <;> simp [opens]

/-- The sinks that are asked for do not fail by themselves. -/
theorem quiet_asked (settings : Settings) (lending : Lending) (opened : Bool)
    (logger : LoggerName) : (Sink.fanout (asked settings lending opened) logger).Quiet := by
  intro label failure inside
  obtain ⟨member, among, leaf⟩ := (Sink.mem_leavesOf_iff _ _).mp inside
  obtain ⟨row, listed, rfl⟩ := List.mem_map.mp among
  have rows := (List.mem_filter.mp listed).1
  simp only [List.mem_cons, List.not_mem_nil, or_false] at rows
  rcases rows with rfl | rfl | rfl <;> cases List.mem_singleton.mp leaf

/-- Trying the metrics file keeps a world quiet and registers the file if it is opened. -/
theorem tried_quiet {homes : Homes} {settings : Settings} {world later : World} {opened : Bool}
    (quiet : world.Quiet)
    (is_tried : tried homes settings Lending.onlyResources world = (.ok opened, later)) :
    later.Quiet
      ∧ later.resources = (if opened then [.file .metricsFile] else []) ++ world.resources := by
  rw [tried] at is_tried
  split at is_tried
  · split at is_tried
    · next handle files _ =>
        obtain ⟨same, rfl⟩ := Prod.mk.inj is_tried
        obtain rfl := Except.ok.inj same
        have moved : (world.setDestination .metricsFile (.file handle)).Quiet :=
          quiet.setDestination .metricsFile trivial
        exact ⟨moved.of_same rfl rfl rfl, rfl⟩
    · next failure files _ =>
        split at is_tried
        · obtain ⟨same, rfl⟩ := Prod.mk.inj is_tried
          obtain rfl := Except.ok.inj same
          have left : ({ world with files } : World).Quiet := quiet.of_same rfl rfl rfl
          have warned := (World.Calm.refl left).logged
            ⟨LoggerName.reporter, .fileUnavailable settings.metricsFile failure⟩
          exact ⟨warned.quiet, warned.resources⟩
        · cases is_tried
  · obtain ⟨same, rfl⟩ := Prod.mk.inj is_tried
    obtain rfl := Except.ok.inj same
    exact ⟨quiet, rfl⟩

/-- Making the other sinks does so too, and registers the session if there is one. -/
theorem prepared_quiet {world later : World} (quiet : world.Quiet) {settings : Settings}
    {network : Network} (ordinary : Ordinary network.failures)
    (is_later : later = world.prepared settings Lending.onlyResources network) :
    later.Quiet ∧ later.resources
        = (if settings.httpEnabled.isTruthy then [.session .session] else []) ++ world.resources := by
  have streamed : (if settings.stdout.isTruthy then world.withStream Lending.onlyResources
      else world).Quiet ∧ (if settings.stdout.isTruthy then world.withStream Lending.onlyResources
      else world).resources = world.resources := by
    split
    · exact ⟨quiet.setDestination .console trivial, rfl⟩
    · exact ⟨quiet, rfl⟩
  rw [World.prepared] at is_later
  generalize (if settings.stdout.isTruthy then world.withStream Lending.onlyResources else world)
    = found at streamed is_later
  obtain ⟨fine, same⟩ := streamed
  subst is_later
  split
  · have session : (Client.session settings.httpTimeout network 0).Quiet := ordinary
    have connected := fine.setClient .session session
    exact ⟨connected.of_same rfl rfl rfl, congrArg (Resource.session .session :: ·) same⟩
  · exact ⟨fine, same⟩

/-- **A reporter that was built with nothing registered before leaves a quiet world, in
which the file and the session are registered that it opened.** -/
theorem build_quiet {settings : Settings} (valid : settings.Valid) {homes : Homes}
    {network : Network} (ordinary : Ordinary network.failures) {world built : World} {sink : Sink}
    (quiet : world.Quiet) (fresh : world.resources = [])
    (builds : (build homes network settings Lending.onlyResources).run.run world
      = (.ok sink, built)) :
    built.Quiet ∧ (∃ filed posted, built.resources = opens filed posted)
      ∧ ∃ members logger, sink = .fanout members logger ∧ sink.Quiet := by
  rw [run_build homes network Lending.onlyResources valid] at builds
  split at builds
  · cases outcome : tried homes settings Lending.onlyResources world with
    | mk result later =>
      rw [outcome] at builds
      cases result with
      | error failure => cases builds
      | ok opened =>
          obtain ⟨same, rfl⟩ := Prod.mk.inj builds
          obtain rfl := Except.ok.inj same
          obtain ⟨kept, filed⟩ := tried_quiet quiet outcome
          obtain ⟨still, posted⟩ := prepared_quiet kept ordinary rfl
          refine ⟨still, ⟨opened, settings.httpEnabled.isTruthy, ?_⟩,
            _, _, rfl, quiet_asked settings _ opened _⟩
          rw [posted, filed, fresh, List.append_nil, opens]
  · obtain ⟨same, rfl⟩ := Prod.mk.inj builds
    obtain rfl := Except.ok.inj same
    refine ⟨quiet, ⟨false, false, fresh⟩, _, _, rfl, ?_⟩
    intro label failure inside
    cases inside

end Reporter

end Heartbeat
