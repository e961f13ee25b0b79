import Heartbeat.Delivery.Client
import Heartbeat.Proofs.Delivery.Calm
import Heartbeat.Proofs.Delivery.Isolation

/-!
# Requests

A session makes one request for each report that reaches a collector sink over it with a
record that can be encoded, and none for any other.  Nothing is sent twice and nothing is
left out after a failure: the requests of a run are those of its visits, in their order
(`World.request?`), and each has the timeout of its session.

How the network treats a request makes no difference to the rest of the run.  Two worlds
that differ only in that are alike, and they stay alike (`Sink.alike_report`), so they see
the same requests.
-/

namespace Heartbeat

set_option autoImplicit false

open Delivery

/-! ## Requests in the trace -/

namespace Event

/-- The request that an event is. -/
def request? : Event → Option Request
  | .request made => some made
  | _ => none

theorem request?_of_not_isAttempt {event : Event} (other : event.isAttempt = false) :
    event.request? = none := by
  cases event with
  | request => cases other
  | _ => rfl

theorem filterMap_request?_filter (events : List Event) :
    (events.filter isAttempt).filterMap request? = events.filterMap request? := by
  rw [List.filterMap_filter]
  apply List.filterMap_congr
  intro event _
  split
  · rfl
  · next other => exact (request?_of_not_isAttempt (by simpa using other)).symm

end Event

namespace World

/-- The requests in the trace since an earlier world. -/
def Requested (requests : List Request) (world later : World) : Prop :=
  ∃ events, later.trace = world.trace ++ events ∧ events.filterMap Event.request? = requests

/-- The request that a visit makes: none unless the leaf is a collector sink over a session
and the record can be encoded. -/
def request? (world : World) (visit : Visit) : Option Request :=
  match visit.leaf, visit.record.encode with
  | .http client _, .ok entry => (world.client client).timeout?.map fun timeout =>
    ⟨"POST", usageEndpoint, some entry, some jsonContent, timeout⟩
  | _, _ => none

namespace Requested

variable {world later final : World} {requests others : List Request}

theorem of_attempted {attempts : List Event} (attempted : Attempted attempts world later) :
    Requested (attempts.filterMap Event.request?) world later := by
  obtain ⟨events, trace, rfl⟩ := attempted
  exact ⟨events, trace, (Event.filterMap_request?_filter events).symm⟩

theorem of_logsOnly (logs : world.LogsOnly later) : Requested [] world later :=
  .of_attempted (.of_idle (.of_logsOnly logs))

theorem trans (first : Requested requests world later) (second : Requested others later final) :
    Requested (requests ++ others) world final := by
  obtain ⟨events, trace, rfl⟩ := first
  obtain ⟨events', trace', rfl⟩ := second
  exact ⟨events ++ events', by rw [trace', trace, List.append_assoc], List.filterMap_append⟩

end Requested

theorem SameKinds.request?_eq {start world : World} (same : start.SameKinds world) :
    world.request? = start.request? := by
  funext visit
  rw [request?, request?]
  split
  · rw [same.client]
  · rfl

/-- The request of a visit with something to deliver is its attempt. -/
theorem request?_of_ok {record : Record} {entry : Bytes} (encoded : record.encode = .ok entry)
    (world before : World) (leaf : Sink) :
    (world.attempt? entry leaf).toList.filterMap Event.request?
      = (world.request? ⟨leaf, record, before⟩).toList := by
  cases leaf with
  | http client logger =>
      rw [attempt?, request?, encoded]
      dsimp only
      cases (world.client client).timeout? <;> rfl
  | stream destination logger =>
      rw [attempt?, request?]
      cases (world.destination destination).kind <;> rfl
  | _ => rfl

theorem request?_of_error {record : Record} {failure : Failure}
    (failed : record.encode = .error failure) (world before : World) (leaf : Sink) :
    world.request? ⟨leaf, record, before⟩ = none := by
  rw [request?, failed]
  cases leaf <;> rfl

end World

namespace Sink

/-- A visit makes its request and no other. -/
theorem requested_report {leaf : Sink} (isLeaf : leaf.isLeaf = true) (record : Record)
    (world : World) :
    World.Requested (world.request? ⟨leaf, record, world⟩).toList world
      ((leaf.report record).run.run world).2 := by
  cases encoded : record.encode with
  | ok entry =>
      rw [← World.request?_of_ok encoded world world leaf]
      exact .of_attempted (attempts_report encoded isLeaf world).attempted
  | error failure =>
      rw [World.request?_of_error encoded]
      exact .of_attempted (.of_idle (idle_report encoded isLeaf world))

/-- The requests of visits follow each other in the trace. -/
theorem requested_linked {start world later : World} {visits : List Visit}
    (linked : Linked World.LogsOnly world visits later) (same : start.SameKinds world)
    (leaves : ∀ visit ∈ visits, visit.leaf.isLeaf = true) :
    World.Requested (visits.filterMap start.request?) world later := by
  induction linked with
  | nil logs => exact .of_logsOnly logs
  | @cons world later visit visits logs _ hypothesis =>
      have isLeaf := leaves visit (List.mem_cons_self ..)
      have before : start.SameKinds visit.before := trans_of World.SameKinds same logs.sameKinds
      have after : start.SameKinds visit.after :=
        trans_of World.SameKinds before visit.sameKinds
      have own := requested_report isLeaf visit.record visit.before
      rw [before.request?_eq] at own
      have others := hypothesis after
        fun other inside => leaves other (List.mem_cons_of_mem _ inside)
      rw [List.filterMap_eq_flatMap_toList, List.flatMap_cons,
        ← List.filterMap_eq_flatMap_toList]
      exact ((World.Requested.of_logsOnly logs).trans own).trans others

end Sink

/-! ## Another network -/

namespace World

theorem setClient_comm (world : World) {label other : Label} (apart : label ≠ other)
    (state held : Client) :
    (world.setClient label state).setClient other held
      = (world.setClient other held).setClient label state := by
  rw [setClient, setClient, setClient, setClient, mk.injEq]
  refine ⟨rfl, ?_, rfl, rfl, rfl, rfl, rfl, rfl⟩
  funext found
  dsimp only
  by_cases here : found = label
  · rw [if_neg (here ▸ apart), if_pos here, if_pos here]
  · rw [if_neg here, if_neg here]

theorem setClient_setClient (world : World) (label : Label) (state held : Client) :
    (world.setClient label state).setClient label held = world.setClient label held := by
  rw [setClient, setClient, setClient, mk.injEq]
  refine ⟨rfl, ?_, rfl, rfl, rfl, rfl, rfl, rfl⟩
  funext found
  dsimp only
  split <;> rfl

/-- Worlds that differ at most in how the network treats a session, and in their logs.  What
the network does to the session is ordinary in both. -/
structure Alike (client : Label) (first second : World) : Prop where
  rest : ∀ state, SameButLog (first.setClient client state) (second.setClient client state)
  session : ∃ timeout sends network other, first.client client = .session timeout network sends
    ∧ second.client client = .session timeout other sends
    ∧ Ordinary network.failures ∧ Ordinary other.failures
  answers : ∀ failure, first.troubles.answerClose = some failure → failure.isOrdinary = true

namespace Alike

variable {client : Label} {first second later latter : World}

theorem troubles_eq (alike : Alike client first second) : first.troubles = second.troubles :=
  (congruence_sameButLog.troubles (alike.rest (.stub [] none 0)) :)

theorem trace_eq (alike : Alike client first second) :
    first.unlogged.trace = second.unlogged.trace :=
  (congrArg trace (alike.rest (.stub [] none 0)) :)

/-- What concerns neither clients nor the troubles. -/
theorem of_same (alike : Alike client first second)
    (rest : ∀ state, SameButLog (later.setClient client state) (latter.setClient client state))
    (left : later.client = first.client) (right : latter.client = second.client)
    (troubles : later.troubles = first.troubles) : Alike client later latter := by
  refine ⟨rest, ?_, ?_⟩
  · rw [left, right]
    exact alike.session
  · rw [troubles]
    exact alike.answers

theorem logsOnly (alike : Alike client first second) (logs : first.LogsOnly later)
    (also : second.LogsOnly latter) : Alike client later latter := by
  refine alike.of_same ?_ (Idle.of_logsOnly logs).client (Idle.of_logsOnly also).client
    logs.sameKinds.troubles
  intro state
  obtain ⟨entries, rfl⟩ := logs
  obtain ⟨others, rfl⟩ := also
  have left : LogsOnly (first.setClient client state)
    { first.setClient client state with trace := first.trace ++ entries.map Event.log } :=
    ⟨entries, rfl⟩
  have right : LogsOnly (second.setClient client state)
    { second.setClient client state with trace := second.trace ++ others.map Event.log } :=
    ⟨others, rfl⟩
  exact left.unlogged.trans ((alike.rest state).trans right.unlogged.symm)

end Alike

theorem congruence_alike (client : Label) : Congruence (· ≠ client) (Alike client) where
  destination alike := (congruence_sameButLog.destination (alike.rest (.stub [] none 0)) :)
  client {left right label} apart alike := by
    have same : (left.setClient client (.stub [] none 0)).client label
        = (right.setClient client (.stub [] none 0)).client label :=
      congruence_sameButLog.client trivial (alike.rest (.stub [] none 0))
    rwa [setClient_of_ne _ apart, setClient_of_ne _ apart] at same
  files alike := (congruence_sameButLog.files (alike.rest (.stub [] none 0)) :)
  troubles alike := alike.troubles_eq
  note unlogged alike :=
    alike.of_same (fun state => congruence_sameButLog.note unlogged (alike.rest state)) rfl rfl rfl
  logged entry alike := alike.logsOnly (.logged _ entry) (.logged _ entry)
  setDestination label state alike := alike.of_same
    (fun held => congruence_sameButLog.setDestination label state (alike.rest held)) rfl rfl rfl
  setClient {left right label} state apart alike := by
    refine ⟨fun held => ?_, ?_, alike.answers⟩
    · rw [setClient_comm _ apart, setClient_comm _ apart]
      exact congruence_sameButLog.setClient state trivial (alike.rest held)
    · rw [setClient_of_ne _ apart.symm, setClient_of_ne _ apart.symm]
      exact alike.session
  setFiles files alike := alike.of_same
    (fun state => congruence_sameButLog.setFiles files (alike.rest state)) rfl rfl rfl
  print data alike := alike.of_same
    (fun state => congruence_sameButLog.print data (alike.rest state)) rfl rfl rfl

end World

namespace Delivery

/-- Closing an answer from the network returns, if it fails ordinarily at most. -/
theorem run_release_network (logger : LoggerName) (status : Int) {world : World}
    (ordinary : ∀ failure, world.troubles.answerClose = some failure → failure.isOrdinary = true) :
    ∃ later, (release logger (.network status)).run.run world = (.ok (), later)
      ∧ world.LogsOnly later := by
  have released : (release logger (.network status)).run.run world
      = (absorbing (failIf world.troubles.answerClose) fun failure =>
        log logger (.responseCloseFailed failure)).run.run world := rfl
  rw [released, run_absorbing, run_failIf]
  cases fails : world.troubles.answerClose with
  | none => exact ⟨world, rfl, refl_of World.LogsOnly world⟩
  | some failure =>
      dsimp only
      rw [if_pos (ordinary failure fails)]
      exact ⟨_, rfl, .logged world _⟩

end Delivery

namespace Sink

/-- A collector sink over a session makes its request and returns, and then only entries are
logged, whatever the network does ordinarily. -/
theorem run_reportToSession {record : Record} {entry : Bytes}
    (encoded : record.encode = .ok entry) {client : Label} (logger : LoggerName) {world : World}
    {timeout : Value} {network : Network} {sends : Nat}
    (held : world.client client = .session timeout network sends)
    (reachable : Ordinary network.failures)
    (answers : ∀ failure, world.troubles.answerClose = some failure → failure.isOrdinary = true) :
    ∃ later, (reportToCollector client logger record).run.run world = (.ok (), later)
      ∧ World.LogsOnly ((world.note (.request
          ⟨"POST", usageEndpoint, some entry, some jsonContent, timeout⟩)).setClient client
            (.session timeout network (sends + 1))) later := by
  rw [run_reportToCollector encoded, run_post, held]
  dsimp only
  cases fails : scripted network.failures sends with
  | none => exact run_release_network logger _ answers
  | some failure =>
      dsimp only
      rw [if_pos (reachable.of_scripted fails)]
      exact ⟨_, rfl, .logged _ _⟩

theorem alike_reportToCollector (client : Label) (logger : LoggerName) (record : Record) :
    Coupled (World.Alike client) (reportToCollector client logger record)
      (reportToCollector client logger record) := by
  have congruence := World.congruence_alike client
  cases encoded : record.encode with
  | error failure =>
      rw [reportToCollector, withEntry, encoded]
      dsimp only
      split
      · exact coupled_log congruence logger _
      · exact .throw failure
  | ok entry =>
      intro first second alike
      obtain ⟨timeout, sends, network, other, held, also, reachable, ordinary⟩ := alike.session
      have answers := alike.answers
      obtain ⟨later, ran, logs⟩ := run_reportToSession encoded logger held reachable answers
      rw [alike.troubles_eq] at answers
      obtain ⟨latter, ended, others⟩ := run_reportToSession encoded logger also ordinary answers
      rw [ran, ended]
      refine ⟨rfl, World.Alike.logsOnly ?_ logs others⟩
      refine ⟨fun state => ?_, ?_, alike.answers⟩
      · rw [World.setClient_setClient, World.setClient_setClient]
        exact World.congruence_sameButLog.note rfl (alike.rest state)
      · rw [World.setClient_self, World.setClient_self]
        exact ⟨timeout, sends + 1, network, other, rfl, rfl, reachable, ordinary⟩

/-- **How the network treats a session makes no difference to a report.** -/
theorem alike_report (client : Label) (sink : Sink) (record : Record) :
    Coupled (World.Alike client) (sink.report record) (sink.report record) := by
  have congruence := World.congruence_alike client
  refine coupled_tree (coupled_log congruence) (fun leaf isLeaf => ?_) sink
  by_cases here : ∃ logger, leaf = .http client logger
  · obtain ⟨logger, rfl⟩ := here
    exact alike_reportToCollector client logger record
  · apply coupled_leaf congruence isLeaf
    rintro other logger rfl rfl
    exact here ⟨logger, rfl⟩

/-- It makes none to a run of reports. -/
theorem alike_reports (client : Label) (reports : List (Sink × Record)) {first second : World}
    (alike : World.Alike client first second) :
    World.Alike client (Step.performAll (Step.reports reports) first).2
      (Step.performAll (Step.reports reports) second).2 := by
  induction reports generalizing first second with
  | nil => exact alike
  | cons report reports hypothesis =>
      obtain ⟨tree, record⟩ := report
      rw [Step.performAll_reports_cons, Step.performAll_reports_cons]
      exact hypothesis (alike_report client tree record first second alike).2

end Sink

/-! ## Runs -/

namespace Step

/-- A run of reports is its visits, and between them only entries are logged. -/
theorem linked_reports (reports : List (Sink × Record)) (world : World) :
    Linked World.LogsOnly world (visitsAll (Step.reports reports) world)
      (performAll (Step.reports reports) world).2 := by
  induction reports generalizing world with
  | nil => exact .nil (refl_of World.LogsOnly world)
  | cons report reports hypothesis =>
      obtain ⟨tree, record⟩ := report
      rw [visitsAll_reports_cons, performAll_reports_cons]
      exact (tree.linked_visits record world).append (hypothesis _)

/-- What holds of a visit to a leaf in whatever world holds of all visits of a run of
reports. -/
theorem forall_visits_reports (holds : Visit → Prop)
    (each : ∀ leaf : Sink, leaf.isLeaf = true → ∀ record world, holds ⟨leaf, record, world⟩)
    (reports : List (Sink × Record)) (world : World) :
    ∀ visit ∈ visitsAll (Step.reports reports) world, holds visit := by
  induction reports generalizing world with
  | nil => exact fun visit member => absurd member List.not_mem_nil
  | cons report reports hypothesis =>
      obtain ⟨tree, record⟩ := report
      intro visit member
      rw [visitsAll_reports_cons, List.mem_append] at member
      rcases member with inside | later
      · exact Sink.forall_visits holds (fun leaf isLeaf found => each leaf isLeaf record found) tree
          world visit inside
      · exact hypothesis _ visit later

/-- Where no visit ends with a request to stop, each leaf of each tree gets each record. -/
theorem visits_reports_of_calm {reports : List (Sink × Record)} {world : World}
    (calm : ∀ visit ∈ visitsAll (Step.reports reports) world, Sink.stops visit.outcome = false) :
    (visitsAll (Step.reports reports) world).map (fun visit => (visit.leaf, visit.record))
      = reports.flatMap fun report => report.1.leaves.map fun leaf => (leaf, report.2) := by
  induction reports generalizing world with
  | nil => rfl
  | cons report reports hypothesis =>
      obtain ⟨tree, record⟩ := report
      rw [visitsAll_reports_cons] at calm ⊢
      have all := Sink.visits_leaf_of_calm fun visit inside =>
        calm visit (List.mem_append_left _ inside)
      have records : (tree.visits record world).map (fun visit => (visit.leaf, visit.record))
          = (tree.visits record world).map fun visit => (visit.leaf, record) :=
        List.map_congr_left fun visit inside => congrArg _
          (Sink.forall_visits (fun visit => visit.record = record) (fun _ _ _ => rfl) tree world
            visit inside)
      rw [List.map_append, List.flatMap_cons, records,
        hypothesis fun visit inside => calm visit (List.mem_append_right _ inside), ← all,
        List.map_map]
      rfl

end Step

namespace World

/-- In traces that differ at most in their logs there are the same requests. -/
theorem Requested.of_sameTrace {world later origin final : World} {requests others : List Request}
    (requested : Requested requests world later) (also : Requested others origin final)
    (start : world.unlogged.trace = origin.unlogged.trace)
    (ended : later.unlogged.trace = final.unlogged.trace) :
    Requested requests origin final := by
  obtain ⟨events, trace, rfl⟩ := requested
  obtain ⟨events', trace', _⟩ := also
  have unlogged : ∀ events : List Event, (events.filter fun event => !event.isLog).filterMap
      Event.request? = events.filterMap Event.request? := by
    intro events
    rw [List.filterMap_filter]
    apply List.filterMap_congr
    intro event _
    cases event <;> rfl
  refine ⟨events', trace', ?_⟩
  rw [World.unlogged, World.unlogged] at start ended
  dsimp only at start ended
  rw [trace, trace', List.filter_append, List.filter_append, start] at ended
  rw [← unlogged events', ← List.append_cancel_left ended, unlogged events]

end World

namespace Sink

/-- **A session makes one request for each report that reaches a collector sink over it, and
repeats and skips none.**  Let a session be built with whatever timeout is accepted, and
let records be reported to whatever trees of sinks.

The requests of the whole run are those of its visits, in their order, and each visit makes
its own request and no other.  A visit of a collector sink over the session makes one if
the record can be encoded: a post of the canonical form to the usage endpoint as JSON, with
the timeout of the session.  It makes none if the record cannot be encoded.  Unless
something ends with a request to stop, the visits are those of all leaves of the trees.

None of this depends on the network: with any other answers and ordinary failures the
requests of the run are the same. -/
theorem report_requests {timeout : Value} {network : Network} {session : Client}
    (built : Client.build timeout network = .ok session) {client : Label} {start : World}
    (lent : start.client client = session) (reports : List (Sink × Record)) :
    let visits := Step.visitsAll (Step.reports reports) start
    let done := (Step.performAll (Step.reports reports) start).2
    World.Requested (visits.filterMap start.request?) start done
      ∧ (∀ visit ∈ visits,
        World.Requested (start.request? visit).toList visit.before visit.after)
      ∧ (∀ visit ∈ visits, ∀ logger, visit.leaf = .http client logger →
        start.request? visit = visit.record.encode.toOption.map fun entry =>
          ⟨"POST", usageEndpoint, some entry, some jsonContent, timeout⟩)
      ∧ ((∀ visit ∈ visits, stops visit.outcome = false) →
        visits.map (fun visit => (visit.leaf, visit.record))
          = reports.flatMap fun report => report.1.leaves.map fun leaf => (leaf, report.2))
      ∧ ∀ other : Network, Ordinary network.failures → Ordinary other.failures →
        (∀ failure, start.troubles.answerClose = some failure → failure.isOrdinary = true) →
        let elsewhere := start.setClient client (.session timeout other 0)
        World.Requested (visits.filterMap start.request?) elsewhere
          (Step.performAll (Step.reports reports) elsewhere).2 := by
  intro visits done
  have held : start.client client = .session timeout network 0 := lent.trans (Client.eq_of_build built)
  have requested : ∀ world, World.Requested
      ((Step.visitsAll (Step.reports reports) world).filterMap world.request?) world
      (Step.performAll (Step.reports reports) world).2 := fun world =>
    requested_linked (Step.linked_reports reports world) (refl_of World.SameKinds world)
      (Step.forall_visits_reports _ (fun _ isLeaf _ _ => isLeaf) reports world)
  refine ⟨requested start, ?_, ?_, Step.visits_reports_of_calm, ?_⟩
  · intro visit member
    have before : start.SameKinds visit.before :=
      (Step.linked_reports reports start).related_before (fun _ _ => World.LogsOnly.sameKinds)
        (fun visit _ => visit.sameKinds) member
    have isLeaf : visit.leaf.isLeaf = true :=
      Step.forall_visits_reports (fun visit => visit.leaf.isLeaf = true)
        (fun _ isLeaf _ _ => isLeaf) reports start visit member
    have own := requested_report isLeaf visit.record visit.before
    rwa [before.request?_eq] at own
  · intro visit member logger is_leaf
    rw [World.request?, is_leaf]
    cases visit.record.encode with
    | error failure => rfl
    | ok entry =>
        dsimp only
        rw [held]
        rfl
  · intro other reachable ordinary answers elsewhere
    have alike : World.Alike client start elsewhere := by
      refine ⟨fun state => ?_, ?_, answers⟩
      · rw [World.SameButLog, World.setClient_setClient]
      · refine ⟨timeout, 0, network, other, held, World.setClient_self _ _ _, reachable, ordinary⟩
    have ended := alike_reports client reports alike
    exact (requested start).of_sameTrace (requested elsewhere) alike.trace_eq ended.trace_eq

/-- A report of null to two collector sinks over the client, one behind a member that fails,
one of a text that cannot be encoded, and one of a truth value. -/
def toCollector : List (Sink × Record) :=
  let sink : Sink := .http (.given "client") LoggerName.http
  [(.fanout [sink, .fanout [.broken (.given "broken") .noCommand, sink] LoggerName.fanout]
      LoggerName.fanout, .plain .null),
    (sink, .plain (.text [0xD800])),
    (sink, .plain (.bool true))]

/-- Three requests are made, whether the first one is refused or all are answered. -/
theorem report_requests_refused :
    let network : Network := ⟨[some (.external .transportConnection "refused")], 200⟩
    let other : Network := ⟨[], 500⟩
    let session : Client := .session (.int 3) network 0
    let start := (World.initial ⟨[], [], []⟩ []).setClient (.given "client") session
    let request := fun body : Text =>
      (⟨"POST", usageEndpoint, some body.bytes, some jsonContent, .int 3⟩ : Request)
    let requests := [request "null", request "null", request "true"]
    let elsewhere := start.setClient (.given "client") (.session (.int 3) other 0)
    Client.build (.int 3) network = .ok session
      ∧ start.client (.given "client") = session
      ∧ Ordinary network.failures ∧ Ordinary other.failures
      ∧ World.Requested requests start (Step.performAll (Step.reports toCollector) start).2
      ∧ World.Requested requests elsewhere
        (Step.performAll (Step.reports toCollector) elsewhere).2 := by
  intro network other session start request requests elsewhere
  have reachable : Ordinary network.failures := by
    intro failure listed
    obtain rfl := Option.some.inj (List.mem_singleton.mp listed)
    rfl
  have answered : Ordinary other.failures := fun _ listed => absurd listed List.not_mem_nil
  have lent : start.client (.given "client") = session := World.setClient_self _ _ _
  obtain ⟨requested, _, _, _, unchanged⟩ :=
    report_requests (rfl : Client.build (.int 3) network = .ok session) lent toCollector
  exact ⟨rfl, rfl, reachable, answered, requested, unchanged other reachable answered nofun⟩

end Sink

end Heartbeat
