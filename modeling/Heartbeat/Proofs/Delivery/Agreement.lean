import Heartbeat.Proofs.Delivery.Attempts
import Heartbeat.Proofs.Delivery.Turns

/-!
# Leaves agree

Every leaf of a tree asks a record for its description and decides for itself whether it can
be encoded.  As long as the record is intact all of them are told the same, and so they come
to the same decision and deliver the same bytes, whatever strangers there are among the
members (`Recipient.report_attempts`).

If the record changes on the way, they do not agree, and it makes no difference who changes
it.  Nor do they all attempt to deliver it if one of them is stopped, and closing an answer
can stop a leaf, too (`Recipient.report_disagreement`).
-/

namespace Heartbeat

set_option autoImplicit false

open Delivery
open Sink (stops)

variable {State : Type}

namespace Turn

/-- The visits among turns. -/
def visits (turns : List (Turn State)) : List Visit := turns.filterMap visit?

/-- The world that a turn comes to without a leaf having done anything: a leaf has the
description of the record then, and the turn of a stranger is over. -/
def aside (turn : Turn State) : World :=
  match turn.visit? with
  | some visit => visit.before
  | none => turn.after.world

theorem map_leaf_visits (turns : List (Turn State)) :
    (visits turns).map Visit.leaf = (turns.map Turn.party).filterMap Party.leaf? := by
  rw [visits, List.map_filterMap, List.filterMap_map]
  congr 1
  funext turn
  rw [visit?, Option.map_map, Function.comp_apply]
  cases turn.party.leaf? <;> rfl

end Turn

/-- A turn opens and closes nothing that was not opened or closed aside. -/
theorem Turn.sameKinds_after {turn : Turn State} (aside : turn.before.world.SameKinds turn.aside) :
    turn.before.world.SameKinds turn.after.world := by
  rw [Turn.aside] at aside
  cases visits : turn.visit? with
  | none =>
      rw [visits] at aside
      exact aside
  | some visit =>
      rw [visits] at aside
      rw [(Turn.report_of_visit visits).2.1]
      exact trans_of World.SameKinds aside visit.sameKinds

/-- Every visit is one of a leaf with the description of a record that stays what it is. -/
theorem Subject.Stays.visits_record {tree : Recipient State} {subject : Subject State}
    {record : Record} {intact : State → Prop} (stays : subject.Stays intact record)
    (strangers : ∀ stranger, .stranger stranger ∈ tree.parties → stranger.Keeps intact subject)
    {start : Situation State} (whole : intact start.state) :
    ∀ visit ∈ Turn.visits (tree.turns subject start),
      visit.leaf.isLeaf = true ∧ visit.record = record := by
  have intacts := stays.intact_turns strangers whole
  have ofTree := tree.forall_turns subject start
  intro visit member
  obtain ⟨turn, inside, found⟩ := List.mem_filterMap.mp member
  exact ⟨Turn.isLeaf_of_visit found,
    stays.record_eq (ofTree turn inside).2 (intacts turn inside) found⟩

namespace Recipient

/-- Nothing is opened or closed at any time if nothing is opened or closed aside. -/
theorem sameKinds_turns {tree : Recipient State} {subject : Subject State}
    {start : Situation State}
    (aside : ∀ turn ∈ tree.turns subject start, turn.before.world.SameKinds turn.aside) :
    (∀ turn ∈ tree.turns subject start, start.world.SameKinds turn.before.world)
      ∧ start.world.SameKinds (tree.report subject start).2.world := by
  refine (tree.chained_turns subject start).stays
    (fun situation => start.world.SameKinds situation.world) (refl_of World.SameKinds _)
    (fun found next logs so => ?_) fun turn inside so => ?_
  · exact trans_of World.SameKinds so logs.1.sameKinds
  · exact trans_of World.SameKinds so (Turn.sameKinds_after (aside turn inside))

/-- **All leaves attempt to deliver the same, or none attempts anything.**  A record that
stays what it is is handed to a tree whose strangers leave it intact, and no request to stop
comes from anywhere.  Then each party has its turn, and it depends on the record alone what
the leaves do.  If the record can be encoded, every stream sink attempts one write of the
canonical form and a line feed, and flushes if that returns; every collector sink attempts
one post of the canonical form to the usage endpoint as JSON; and there is nothing else that
any of them attempts.  If the record cannot be encoded, no leaf attempts anything.  In both
cases no leaf opens or closes a destination, and if nobody else does so, none is opened or
closed at any time. -/
theorem report_attempts {tree : Recipient State} {subject : Subject State} {record : Record}
    {intact : State → Prop} {start : Situation State}
    (stays : subject.Stays intact record) (whole : intact start.state)
    (strangers : ∀ stranger, .stranger stranger ∈ tree.parties → stranger.Keeps intact subject)
    (calm : ∀ turn ∈ tree.turns subject start, stops turn.outcome = false) :
    let turns := tree.turns subject start
    let visits := Turn.visits turns
    let done := (tree.report subject start).2
    Chained start turns done ∧ turns.map Turn.party = tree.parties
      ∧ visits.map Visit.leaf = tree.leaves
      ∧ (∀ entry, record.encode = .ok entry → ∀ visit ∈ visits,
        visit.leaf.Attempts entry visit.before visit.after
          ∧ World.Attempted (visit.before.attempt? entry visit.leaf).toList visit.before
            visit.after)
      ∧ (∀ failure, record.encode = .error failure →
        ∀ visit ∈ visits, visit.before.Idle visit.after)
      ∧ (∀ visit ∈ visits, visit.before.SameKinds visit.after)
      ∧ ((∀ turn ∈ turns, turn.before.world.SameKinds turn.aside) →
        (∀ turn ∈ turns, start.world.SameKinds turn.before.world)
          ∧ start.world.SameKinds done.world) := by
  intro turns visits done
  obtain ⟨all, -⟩ := turns_party subject calm
  have visited := stays.visits_record strangers whole
  refine ⟨tree.chained_turns subject start, all, ?_, ?_, ?_, fun visit _ => visit.sameKinds,
    sameKinds_turns⟩
  · rw [Turn.map_leaf_visits, all, leaves]
  · intro entry encoded visit member
    obtain ⟨isLeaf, same⟩ := visited visit member
    have attempts : visit.leaf.Attempts entry visit.before visit.after :=
      Sink.attempts_report (same ▸ encoded) isLeaf visit.before
    exact ⟨attempts, attempts.attempted⟩
  · intro failure failed visit member
    obtain ⟨isLeaf, same⟩ := visited visit member
    exact Sink.idle_report (same ▸ failed) isLeaf visit.before

end Recipient

/-! ## Agreement in an outage -/

/-- A world with a writer that cannot be written to, an empty buffer, and a client that
cannot post. -/
def World.outage : World :=
  (((World.initial ⟨[], [], []⟩ []).setDestination (.given "writer")
      (.writer [some .deviceFull] .working 0)).setDestination (.given "buffer")
        (.buffer [] false)).setClient (.given "client")
          (.stub [some (.external .connection "refused")] none 0)

/-- A fan-out with a stream sink, and behind it another one with a collector sink and a
second stream sink. -/
def Sink.nested : Sink :=
  .fanout
    [.stream (.given "writer") LoggerName.stream,
      .fanout [.http (.given "client") LoggerName.http, .stream (.given "buffer") LoggerName.stream]
        LoggerName.fanout] LoggerName.fanout

/-- A record that says nothing as long as it is intact, and that cannot be encoded when it
was marred. -/
def Subject.fragile : Subject Bool where
  describe situation := (.plain (if situation.state then .double .nan else .null), situation)
  noted _ := .className "Fragile"

theorem Subject.stays_fragile : Subject.fragile.Stays (· = false) (.plain .null) := by
  constructor
  · intro situation intact
    show Record.plain (if situation.state then .double .nan else .null) = _
    rw [intact]
    rfl
  · intro situation intact
    exact intact

namespace Recipient

/-- The nested fan-out, and a stranger that fails between its leaves. -/
def besieged : Recipient Bool :=
  .fanout
    [.single (.stream (.given "writer") LoggerName.stream),
      .fanout
        [.single (.http (.given "client") LoggerName.http),
          .single (.stranger (.broken (.given "broken") .noCommand)),
          .single (.stream (.given "buffer") LoggerName.stream)]
        LoggerName.fanout]
    LoggerName.fanout

theorem harmless_besieged {stranger : Stranger Bool}
    (member : .stranger stranger ∈ besieged.parties) : stranger.Harmless := by
  simp only [besieged, parties, partiesOf, List.mem_append, List.mem_singleton, List.not_mem_nil,
    or_false, reduceCtorEq, false_or, Party.stranger.injEq] at member
  rw [member]
  exact fun _ _ => .inr ⟨_, rfl⟩

/-- The failures of a writer, of a client and of a stranger keep no other leaf from its
attempt. -/
theorem report_attempts_outage :
    Subject.fragile.Stays (· = false) (.plain .null)
      ∧ (∀ stranger, .stranger stranger ∈ besieged.parties →
        stranger.Keeps (· = false) Subject.fragile)
      ∧ (∀ turn ∈ besieged.turns .fragile ⟨World.outage, false⟩, stops turn.outcome = false)
      ∧ ((besieged.report .fragile ⟨World.outage, false⟩).2.world.trace.filter Event.isAttempt
        = [.write (.given "writer") (Text.bytes "null\n"),
          @Event.post jsonContent (.given "client") usageEndpoint (Text.bytes "null"),
          .write (.given "buffer") (Text.bytes "null\n")])
      ∧ ∀ visit ∈ Turn.visits (besieged.turns .fragile ⟨World.outage, false⟩),
        visit.leaf.Attempts (Text.bytes "null") visit.before visit.after := by
  have strangers : ∀ stranger, .stranger stranger ∈ besieged.parties →
      stranger.Keeps (· = false) Subject.fragile :=
    fun _ member => (harmless_besieged member).keeps _ _
  have calm : ∀ turn ∈ besieged.turns .fragile ⟨World.outage, false⟩,
      stops turn.outcome = false := by decide +kernel
  obtain ⟨_, _, _, attempts, _⟩ := report_attempts Subject.stays_fragile rfl strangers calm
  exact ⟨Subject.stays_fragile, strangers, calm, rfl,
    fun visit member => (attempts _ rfl visit member).1⟩

end Recipient

/-! ## Disagreement -/

/-- A world with two empty buffers, and with a client that posts, but whose answer stops
whoever closes it. -/
def World.ready : World :=
  (((World.initial ⟨[], [], []⟩ []).setDestination (.given "first")
      (.buffer [] false)).setDestination (.given "second") (.buffer [] false)).setClient
        (.given "client") (.stub [] (some (.failing (.external .keyboardInterrupt "stop"))) 0)

/-- A record that gives one answer and then the other. -/
def Subject.fickle : Subject Bool where
  describe situation :=
    (.plain (.bool situation.state), { situation with state := !situation.state })
  noted _ := .className "Fickle"

/-- A stranger that mars the record and returns. -/
def Stranger.meddler : Stranger Bool where
  className := "Meddler"
  report _ situation := (.ok (), { situation with state := true })

namespace Recipient

/-- A stream sink on each buffer, and something between them. -/
def around (between : List (Recipient State)) : Recipient State :=
  .fanout (.single (.stream (.given "first") LoggerName.stream) :: between
    ++ [.single (.stream (.given "second") ["custom"])]) LoggerName.fanout

/-- A record that answers in another way when it is asked again is written in two ways.  A
member that mars it when the first leaf has written it keeps the second one from writing
anything.  A leaf that is stopped when it closes an answer keeps the next one from its
attempt, although neither a destination nor a client fails. -/
theorem report_disagreement :
    ((∀ turn ∈ (around []).turns .fickle ⟨World.ready, false⟩, stops turn.outcome = false)
      ∧ ((around []).report .fickle ⟨World.ready, false⟩).2.world.trace.filter Event.isAttempt
        = [.write (.given "first") (Text.bytes "false\n"),
          .write (.given "second") (Text.bytes "true\n")])
    ∧ ((∀ turn ∈ (around [.single (.stranger .meddler)]).turns .fragile ⟨World.ready, false⟩,
          stops turn.outcome = false)
      ∧ ((around [.single (.stranger .meddler)]).report .fragile
          ⟨World.ready, false⟩).2.world.trace.filter Event.isAttempt
        = [.write (.given "first") (Text.bytes "null\n")])
    ∧ (∃ response, ((post (.given "client") usageEndpoint (Text.bytes "null")).run.run
          World.ready).1 = .ok response)
      ∧ ((around [.single (.http (.given "client") LoggerName.http)]).report .fragile
          ⟨World.ready, false⟩).2.world.trace.filter Event.isAttempt
        = [.write (.given "first") (Text.bytes "null\n"),
          @Event.post jsonContent (.given "client") usageEndpoint (Text.bytes "null")] := by
  refine ⟨⟨?_, rfl⟩, ⟨?_, rfl⟩, ⟨_, rfl⟩, rfl⟩
  · decide +kernel
  · decide +kernel

end Recipient

end Heartbeat
