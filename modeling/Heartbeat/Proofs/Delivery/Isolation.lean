import Mathlib.Data.List.Basic
import Heartbeat.Proofs.Delivery.Agreement
import Heartbeat.Proofs.Delivery.Holdings
import Heartbeat.Proofs.Delivery.Moments

/-!
# Leaves do not disturb each other

A leaf that occurs once in a tree, with a medium that nobody else in the tree works on, is
not concerned by the rest of the tree: not by how many members there are, how they are
nested, or which of them fail.  One report to the tree is to the leaf what a report to the
leaf alone is (`Recipient.account_report`), and so is a run of reports, in which the trees
may be different ones each time (`Recipient.report_isolated`).

Members share more with a leaf than its medium, though: they are handed the same records.
A member that changes a record, or a record that changes by itself when it is asked once
more, is felt by every leaf behind (`Recipient.report_disturbed`).

What a visit is to the medium of its leaf is written down in its account: the state in
which the medium is found and left, how handing over the entry ends, the calls, and the
outcome.
-/

namespace Heartbeat

set_option autoImplicit false

open Delivery
open Sink (stops)

/-! ## Accounts -/

namespace Visit

/-- How handing over the entry ends, if there is an entry. -/
def handed (visit : Visit) : Option (Except Failure Unit) :=
  match visit.leaf, visit.record.encode with
  | .stream destination _, .ok entry =>
    some ((write destination (entry ++ [lineFeed])).run.run visit.before).1
  | .http client _, .ok entry =>
    some (((post client usageEndpoint entry).run.run visit.before).1.map fun _ => ())
  | _, _ => none

/-- What a visit is to the medium of its leaf. -/
structure Account where
  record : Record
  found : Holding
  handed : Option (Except Failure Unit)
  /-- The calls with their arguments, in their order. -/
  calls : List Event
  outcome : Except Failure Unit
  left : Holding

/-- The account of a visit. -/
def account (visit : Visit) : Account where
  record := visit.record
  found := visit.before.holding visit.leaf
  handed := visit.handed
  calls := visit.before.callsSince visit.after
  outcome := visit.outcome
  left := visit.after.holding visit.leaf

end Visit

namespace World

/-- The accounts of those visits whose leaves work on the medium of the given leaf. -/
def accounts (world : World) (leaf : Sink) (visits : List Visit) : List Visit.Account :=
  (visits.filter fun visit => decide (world.medium? visit.leaf = world.medium? leaf)).map
    Visit.account

theorem accounts_append (world : World) (leaf : Sink) (first second : List Visit) :
    world.accounts leaf (first ++ second)
      = world.accounts leaf first ++ world.accounts leaf second := by
  rw [accounts, List.filter_append, List.map_append]
  rfl

theorem accounts_of_apart {world : World} {leaf : Sink} {visits : List Visit}
    (apart : ∀ visit ∈ visits, world.medium? visit.leaf ≠ world.medium? leaf) :
    world.accounts leaf visits = [] := by
  rw [accounts, List.map_eq_nil_iff, List.filter_eq_nil_iff]
  intro visit member
  simp [apart visit member]

theorem accounts_singleton (world : World) {leaf : Sink} (visit : Visit)
    (own : visit.leaf = leaf) : world.accounts leaf [visit] = [visit.account] := by
  simp [accounts, own]

theorem accounts_eq {world later : World} (same : later.medium? = world.medium?) (leaf : Sink)
    (visits : List Visit) : later.accounts leaf visits = world.accounts leaf visits := by
  rw [accounts, accounts, same]

end World

namespace Sink

/-- A leaf occurs once among leaves, and no other one of them works on its medium. -/
def Alone (leaf : Sink) (leaves : List Sink) (world : World) : Prop :=
  ∃ earlier later, leaves = earlier ++ leaf :: later
    ∧ ∀ other ∈ earlier ++ later, world.medium? other ≠ world.medium? leaf

theorem Alone.mem {leaf : Sink} {leaves : List Sink} {world : World}
    (alone : leaf.Alone leaves world) : leaf ∈ leaves := by
  obtain ⟨earlier, later, rfl, _⟩ := alone
  exact List.mem_append_right _ (List.mem_cons_self ..)

variable {leaf : Sink} {record : Record} {world origin : World}

/-- The same leaf with the same holding gives the same account. -/
theorem account_eq (isLeaf : leaf.isLeaf = true) (held : world.holding leaf = origin.holding leaf)
    (troubles : world.troubles = origin.troubles) :
    Visit.account ⟨leaf, record, world⟩ = Visit.account ⟨leaf, record, origin⟩ := by
  have start : World.Matches leaf world origin world origin := .refl held troubles
  obtain ⟨outcome, ended⟩ := matched_report isLeaf record _ _ start
  have handed : Visit.handed ⟨leaf, record, world⟩ = Visit.handed ⟨leaf, record, origin⟩ := by
    rw [Visit.handed, Visit.handed]
    cases leaf with
    | stream destination logger =>
        cases record.encode with
        | error failure => rfl
        | ok entry => exact congrArg some (matched_write _ _ _ start).1
    | http client logger =>
        cases record.encode with
        | error failure => rfl
        | ok entry =>
            dsimp only
            rw [(matched_post usageEndpoint entry _ _ start).1]
    | _ => rfl
  rw [Visit.account, Visit.account, Visit.Account.mk.injEq]
  exact ⟨rfl, held, handed, ended.calls_eq, outcome, ended.holding⟩

end Sink

/-! ## What others leave as it is -/

/-- Everybody works on the medium that he worked on, and what a leaf holds is what it held. -/
structure World.Untouched (leaf : Sink) (world later : World) : Prop where
  medium : later.medium? = world.medium?
  troubles : later.troubles = world.troubles
  holding : later.holding leaf = world.holding leaf

namespace World

variable {leaf other : Sink} {world later : World}

instance (leaf : Sink) : IsPreorder World (Untouched leaf) where
  refl _ := ⟨rfl, rfl, rfl⟩
  trans _ _ _ before after := ⟨after.medium.trans before.medium,
    after.troubles.trans before.troubles, after.holding.trans before.holding⟩

theorem Untouched.of_harmless {State : Type} {stranger : Stranger State}
    (harmless : stranger.Harmless) (subject : Subject State) (situation : Situation State) :
    situation.world.Untouched leaf (stranger.report subject situation).2.world := by
  rcases harmless subject situation with same | ⟨event, noted⟩
  · rw [same]
    exact refl_of (Untouched leaf) situation.world
  · rw [noted]
    exact ⟨rfl, rfl, situation.world.holding_note event leaf⟩

theorem Untouched.of_logsOnly (logs : world.LogsOnly later) : world.Untouched leaf later :=
  ⟨logs.sameKinds.medium?_eq, logs.sameKinds.troubles, logs.holding_eq leaf⟩

/-- A visit of a leaf that works on another medium. -/
theorem Untouched.of_visit {visit : Visit} (isLeaf : visit.leaf.isLeaf = true)
    (apart : visit.before.medium? visit.leaf ≠ visit.before.medium? leaf) :
    visit.before.Untouched leaf visit.after := by
  obtain ⟨kinds, held⟩ := Sink.holding_of_does
    (Sink.does_report isLeaf visit.record visit.before) apart
  exact ⟨kinds.medium?_eq, kinds.troubles, held⟩

end World

namespace Recipient

variable {State : Type}

/-- A tree that is handed a record leaves it to a leaf to work on what it works on.  The
leaf is a leaf of its own, the record stays what it is, and neither being asked nor a
stranger touches what the leaf holds. -/
structure Spares (tree : Recipient State) (subject : Subject State) (intact : State → Prop)
    (record : Record) (leaf : Sink) (world : World) : Prop where
  alone : leaf.Alone tree.leaves world
  stays : subject.Stays intact record
  asked : ∀ situation : Situation State, intact situation.state →
    situation.world.medium? = world.medium? →
    situation.world.Untouched leaf (subject.describe situation).2.world
  kept : ∀ stranger, .stranger stranger ∈ tree.parties → stranger.Keeps intact subject
  strangers : ∀ stranger, .stranger stranger ∈ tree.parties → ∀ situation : Situation State,
    intact situation.state → situation.world.medium? = world.medium? →
    situation.world.Untouched leaf (stranger.report subject situation).2.world

variable {tree : Recipient State} {subject : Subject State} {intact : State → Prop}
  {record : Record} {leaf : Sink} {world origin : World} {start : Situation State}

/-- Harmless strangers spare every leaf of its own, if the record does. -/
theorem Spares.of_harmless (alone : leaf.Alone tree.leaves world)
    (stays : subject.Stays intact record)
    (silent : ∀ situation, (subject.describe situation).2 = situation)
    (harmless : ∀ stranger, .stranger stranger ∈ tree.parties → stranger.Harmless) :
    tree.Spares subject intact record leaf world where
  alone := alone
  stays := stays
  asked situation _ _ := by
    rw [silent situation]
    exact refl_of (World.Untouched leaf) situation.world
  kept stranger member := (harmless stranger member).keeps intact subject
  strangers stranger member situation _ _ :=
    .of_harmless (harmless stranger member) subject situation

/-- Sinks of this library spare every leaf of its own. -/
theorem Spares.of_sink {sink : Sink}
    (alone : leaf.Alone (ofSink sink : Recipient State).leaves world) :
    (ofSink sink).Spares (.ofRecord record) intact record leaf world :=
  .of_harmless alone (Subject.stays_ofRecord record intact) (fun _ => rfl)
    fun _ member => harmless_ofSink sink member

/-- A turn is apart from a leaf unless it is the turn of a leaf with the same medium. -/
def ApartFrom (leaf : Sink) (world : World) (turn : Turn State) : Prop :=
  ∀ visit, turn.visit? = some visit → world.medium? visit.leaf ≠ world.medium? leaf

/-- A turn of somebody else touches nothing that the leaf holds. -/
theorem Spares.untouched_turn (spares : tree.Spares subject intact record leaf world)
    {turn : Turn State} (party : turn.party ∈ tree.parties) (same : turn.subject = subject)
    (whole : intact turn.before.state) (media : turn.before.world.medium? = world.medium?)
    (apart : ApartFrom leaf world turn) : turn.before.world.Untouched leaf turn.after.world := by
  cases visits : turn.visit? with
  | some visit =>
      obtain ⟨-, -, before⟩ := Turn.visit?_eq_some_iff.mp visits
      have asked := spares.asked turn.before whole media
      rw [← same, ← before] at asked
      have own := apart visit visits
      rw [← media, ← asked.medium] at own
      rw [(Turn.report_of_visit visits).2.1]
      exact trans_of (World.Untouched leaf) asked (.of_visit (Turn.isLeaf_of_visit visits) own)
  | none =>
      obtain ⟨one, _, before⟩ := turn
      obtain rfl := same
      cases one with
      | stranger other => exact spares.strangers other party before whole media
      | stream destination logger => cases visits
      | http client logger => cases visits

/-- Neither do any number of them. -/
theorem Spares.untouched_turns (spares : tree.Spares subject intact record leaf world)
    {turns : List (Turn State)} {later : Situation State} (linked : Chained start turns later)
    (ofTree : ∀ turn ∈ turns, turn.party ∈ tree.parties ∧ turn.subject = subject)
    (apart : ∀ turn ∈ turns, ApartFrom leaf world turn) (whole : intact start.state)
    (media : start.world.medium? = world.medium?) :
    start.world.Untouched leaf later.world ∧ intact later.state := by
  refine (linked.stays
    (fun situation => start.world.Untouched leaf situation.world ∧ intact situation.state)
    ⟨refl_of (World.Untouched leaf) _, whole⟩ ?_ ?_).2
  · rintro found next ⟨logs, same⟩ ⟨untouched, still⟩
    exact ⟨trans_of (World.Untouched leaf) untouched (.of_logsOnly logs), same ▸ still⟩
  · rintro turn member ⟨untouched, still⟩
    obtain ⟨party, same⟩ := ofTree turn member
    refine ⟨trans_of (World.Untouched leaf) untouched ?_, ?_⟩
    · exact spares.untouched_turn party same still (untouched.medium.trans media)
        (apart turn member)
    · exact spares.stays.keeps_turn same (fun other is => spares.kept other (is ▸ party)) still

/-- The turn of a leaf of its own stands between turns that are apart from it. -/
theorem turns_of_alone (alone : leaf.Alone tree.leaves world)
    (calm : ∀ turn ∈ tree.turns subject start, stops turn.outcome = false) :
    ∃ before turn visit after, tree.turns subject start = before ++ turn :: after
      ∧ turn.visit? = some visit ∧ visit.leaf = leaf
      ∧ (∀ other ∈ before, ApartFrom leaf world other)
      ∧ ∀ other ∈ after, ApartFrom leaf world other := by
  obtain ⟨earlier, others, leaves, apart⟩ := alone
  have all := Turn.map_leaf_visits (tree.turns subject start)
  rw [(turns_party subject calm).1, ← Recipient.leaves, leaves] at all
  obtain ⟨before, rest, split, first, tail⟩ := List.map_eq_append_iff.mp all
  obtain ⟨visit, after, rfl, is_leaf, last⟩ := List.map_eq_cons_iff.mp tail
  obtain ⟨lead, remaining, turns, leading, following⟩ := List.filterMap_eq_append_iff.mp split
  obtain ⟨strange, turn, final, rfl, nobody, visits, ending⟩ :=
    List.filterMap_eq_cons_iff.mp following
  refine ⟨lead ++ strange, turn, visit, final, ?_, visits, is_leaf, ?_, ?_⟩
  · rw [turns, List.append_assoc]
  · intro other member found visited
    apply apart
    rw [List.mem_append] at member
    rcases member with inside | inside
    · rw [← first, ← leading]
      exact List.mem_append_left _
        (List.mem_map_of_mem (List.mem_filterMap.mpr ⟨other, inside, visited⟩))
    · rw [nobody other inside] at visited
      cases visited
  · intro other member found visited
    apply apart
    rw [← last, ← ending]
    exact List.mem_append_right _
      (List.mem_map_of_mem (List.mem_filterMap.mpr ⟨other, member, visited⟩))

/-- Turns that are apart from a leaf leave no account for it. -/
theorem accounts_of_apartFrom {turns : List (Turn State)}
    (apart : ∀ turn ∈ turns, ApartFrom leaf world turn) :
    world.accounts leaf (Turn.visits turns) = [] := by
  apply World.accounts_of_apart
  intro visit member
  obtain ⟨turn, inside, visits⟩ := List.mem_filterMap.mp member
  exact apart turn inside visit visits

/-- The turn of the leaf itself is what a report to the leaf alone is. -/
theorem Spares.own_turn (spares : tree.Spares subject intact record leaf world)
    {turn : Turn State} {visit : Visit} (visits : turn.visit? = some visit) (own : visit.leaf = leaf)
    (same : turn.subject = subject) (whole : intact turn.before.state)
    (media : turn.before.world.medium? = world.medium?)
    (held : turn.before.world.holding leaf = origin.holding leaf)
    (troubles : turn.before.world.troubles = origin.troubles) :
    let alone := ((leaf.report record).run.run origin).2
    visit.account = Visit.account ⟨leaf, record, origin⟩
      ∧ turn.after.world.holding leaf = alone.holding leaf
      ∧ turn.after.world.troubles = alone.troubles
      ∧ turn.after.world.medium? = world.medium? := by
  have isLeaf := Turn.isLeaf_of_visit visits
  have asked := spares.asked turn.before whole media
  obtain ⟨-, -, entered⟩ := Turn.visit?_eq_some_iff.mp visits
  rw [← same, ← entered] at asked
  obtain ⟨found, described, state⟩ := visit
  obtain rfl := own
  obtain rfl := spares.stays.record_eq same whole visits
  have begins : World.Matches found state origin state origin :=
    .refl (asked.holding.trans held) (asked.troubles.trans troubles)
  obtain ⟨_, ended⟩ := Sink.matched_report isLeaf described _ _ begins
  have kinds := found.sameKinds_report described state
  rw [(Turn.report_of_visit visits).2.1]
  exact ⟨Sink.account_eq isLeaf begins.holding begins.troubles, ended.holding, ended.troubles,
    kinds.medium?_eq.trans (asked.medium.trans media)⟩

/-- **One report to a tree is to a leaf of its own what a report to the leaf alone is.** -/
theorem account_report (spares : tree.Spares subject intact record leaf world)
    (whole : intact start.state) (media : start.world.medium? = world.medium?)
    (calm : ∀ turn ∈ tree.turns subject start, stops turn.outcome = false)
    (held : start.world.holding leaf = origin.holding leaf)
    (troubles : start.world.troubles = origin.troubles) :
    let done := (tree.report subject start).2
    let alone := ((leaf.report record).run.run origin).2
    world.accounts leaf (Turn.visits (tree.turns subject start))
        = [Visit.account ⟨leaf, record, origin⟩]
      ∧ done.world.holding leaf = alone.holding leaf
      ∧ done.world.troubles = alone.troubles
      ∧ done.world.medium? = world.medium? ∧ intact done.state := by
  have linked := tree.chained_turns subject start
  have ofTree := tree.forall_turns subject start
  obtain ⟨before, turn, visit, after, split, visits, own, apartBefore, apartAfter⟩ :=
    turns_of_alone spares.alone calm
  rw [split] at linked ofTree ⊢
  obtain ⟨party, same⟩ := ofTree turn (List.mem_append_right _ (List.mem_cons_self ..))
  obtain ⟨leads, follows⟩ := linked.split
  -- Nothing that the leaf works on changes before its turn,
  obtain ⟨untouched, still⟩ := spares.untouched_turns leads
    (fun other inside => ofTree other (List.mem_append_left _ inside)) apartBefore whole media
  obtain ⟨account, ended, trouble, mediaAfter⟩ := spares.own_turn visits own same still
    (untouched.medium.trans media) (untouched.holding.trans held) (untouched.troubles.trans troubles)
  -- and nothing after it.
  have later := spares.stays.keeps_turn same (fun other is => spares.kept other (is ▸ party)) still
  obtain ⟨since, final⟩ := spares.untouched_turns follows
    (fun other inside => ofTree other (List.mem_append_right _ (List.mem_cons_of_mem _ inside)))
    apartAfter later mediaAfter
  refine ⟨?_, since.holding.trans ended, since.troubles.trans trouble,
    since.medium.trans mediaAfter, final⟩
  rw [Turn.visits, List.filterMap_append, List.filterMap_cons_some visits, World.accounts_append,
    ← List.singleton_append, World.accounts_append, ← Turn.visits, ← Turn.visits,
    accounts_of_apartFrom apartBefore, accounts_of_apartFrom apartAfter, List.nil_append,
    List.append_nil, World.accounts_singleton world visit own, account]

end Recipient

/-! ## Runs of reports -/

namespace Step

/-- A step for each report. -/
def reports (reports : List (Sink × Record)) : List Step :=
  reports.map fun (tree, record) => .report tree record

theorem after_report (tree : Sink) (record : Record) (world : World) :
    ((Step.report tree record).perform.run.run world).2
      = ((tree.report record).run.run world).2 := by
  rw [perform, run_bind]
  rcases (tree.report record).run.run world with ⟨_ | _, later⟩ <;> rfl

theorem visitsAll_reports_cons (tree : Sink) (record : Record) (others : List (Sink × Record))
    (world : World) :
    visitsAll (reports ((tree, record) :: others)) world
      = tree.visits record world
        ++ visitsAll (reports others) ((tree.report record).run.run world).2 := by
  rw [← after_report]
  rfl

theorem performAll_reports_cons (tree : Sink) (record : Record) (others : List (Sink × Record))
    (world : World) :
    (performAll (reports ((tree, record) :: others)) world).2
      = (performAll (reports others) ((tree.report record).run.run world).2).2 := by
  rw [← after_report]
  rfl

end Step

namespace Recipient

variable {State Other : Type} {leaf : Sink} {records : List Record}

/-- The situation after reports, one after the other, however they end. -/
def reportAll : List (Recipient State × Subject State) → Situation State → Situation State
  | [], situation => situation
  | (tree, subject) :: reports, situation =>
    reportAll reports (tree.report subject situation).2

/-- Reports to sinks. -/
def ofReports (reports : List (Sink × Record)) : List (Recipient State × Subject State) :=
  reports.map fun (tree, record) => (ofSink tree, .ofRecord record)

/-- Reports to sinks end in the world that performing them ends in. -/
theorem reportAll_ofReports (reports : List (Sink × Record)) (start : Situation State) :
    reportAll (ofReports reports) start
      = ⟨(Step.performAll (Step.reports reports) start.world).2, start.state⟩ := by
  induction reports generalizing start with
  | nil => rfl
  | cons report reports hypothesis =>
      obtain ⟨tree, record⟩ := report
      have first := report_ofSink tree record start
      rw [Step.performAll_reports_cons, ofReports, List.map_cons, reportAll, first, ← ofReports,
        hypothesis]

/-- The turns of reports, one after the other. -/
def turnsAll : List (Recipient State × Subject State) → Situation State → List (Turn State)
  | [], _ => []
  | (tree, subject) :: reports, situation =>
    tree.turns subject situation ++ turnsAll reports (tree.report subject situation).2

/-- A run of reports leaves it to a leaf to work on what it works on.  What is handed over
is one record after the other. -/
def SparesAll (reports : List (Recipient State × Subject State)) (intact : State → Prop)
    (records : List Record) (leaf : Sink) (world : World) : Prop :=
  List.Forall₂ (fun report record => report.1.Spares report.2 intact record leaf world) reports
    records

/-- A run of reports is to a leaf what a run is in which it alone gets the records. -/
theorem accounts_reports {reports : List (Recipient State × Subject State)} {intact : State → Prop}
    {start : Situation State} {world origin : World}
    (spares : SparesAll reports intact records leaf world) (whole : intact start.state)
    (media : start.world.medium? = world.medium?)
    (calm : ∀ turn ∈ turnsAll reports start, stops turn.outcome = false)
    (held : start.world.holding leaf = origin.holding leaf)
    (troubles : start.world.troubles = origin.troubles) :
    let single := Step.reports (records.map fun record => (leaf, record))
    world.accounts leaf (Turn.visits (turnsAll reports start))
        = origin.accounts leaf (Step.visitsAll single origin)
      ∧ (reportAll reports start).world.holding leaf
        = (Step.performAll single origin).2.holding leaf := by
  induction spares generalizing start origin with
  | nil => exact ⟨rfl, held⟩
  | @cons report record reports records spared _ hypothesis =>
      obtain ⟨tree, subject⟩ := report
      rw [turnsAll] at calm
      obtain ⟨account, same, trouble, mediaAfter, still⟩ := account_report spared whole media
        (fun turn inside => calm turn (List.mem_append_left _ inside)) held troubles
      obtain ⟨others, ends⟩ := hypothesis still mediaAfter
        (fun turn inside => calm turn (List.mem_append_right _ inside)) same trouble
      have kept := (leaf.sameKinds_report record origin).medium?_eq
      rw [World.accounts_eq kept] at others
      have isLeaf := isLeaf_of_mem_leaves spared.alone.mem
      dsimp only
      rw [List.map_cons, Step.visitsAll_reports_cons, Step.performAll_reports_cons, turnsAll,
        Turn.visits, List.filterMap_append, World.accounts_append, World.accounts_append,
        ← Turn.visits, ← Turn.visits, account, Sink.visits_of_isLeaf isLeaf,
        World.accounts_singleton _ ⟨leaf, record, origin⟩ rfl, others]
      exact ⟨rfl, ends⟩

/-- **Leaves do not disturb each other.**  Take two runs of reports of the same records, in
which a leaf holds the same at the beginning, and in each of their trees a leaf that occurs
once and whose medium nobody else in the tree works on.  The records stay what they are, and
the other members leave them intact.  However else the trees, the strangers in them and the
worlds differ, and whatever ordinary failures there are, the medium of the leaf is found in
the same states, called in the same ways and left in the same states, and it is in the same
state at the end.  It is all the same if the records are sent to the leaf alone. -/
theorem report_isolated {first : List (Recipient State × Subject State)}
    {second : List (Recipient Other × Subject Other)} {intact : State → Prop}
    {whole : Other → Prop} {start : Situation State} {origin : Situation Other}
    (spares : SparesAll first intact records leaf start.world) (begins : intact start.state)
    (leaves : SparesAll second whole records leaf origin.world) (starts : whole origin.state)
    (held : start.world.holding leaf = origin.world.holding leaf)
    (troubles : start.world.troubles = origin.world.troubles)
    (calm : ∀ turn ∈ turnsAll first start, stops turn.outcome = false)
    (quiet : ∀ turn ∈ turnsAll second origin, stops turn.outcome = false) :
    let single := Step.reports (records.map fun record => (leaf, record))
    start.world.accounts leaf (Turn.visits (turnsAll first start))
        = origin.world.accounts leaf (Turn.visits (turnsAll second origin))
      ∧ (reportAll first start).world.holding leaf = (reportAll second origin).world.holding leaf
      ∧ start.world.accounts leaf (Turn.visits (turnsAll first start))
        = start.world.accounts leaf (Step.visitsAll single start.world)
      ∧ (reportAll first start).world.holding leaf
        = (Step.performAll single start.world).2.holding leaf := by
  obtain ⟨accounts, ends⟩ := accounts_reports spares begins rfl calm rfl rfl
  obtain ⟨others, finish⟩ := accounts_reports leaves starts rfl quiet held.symm troubles.symm
  exact ⟨accounts.trans others.symm, ends.trans finish.symm, accounts, ends⟩

/-! ## Isolation among failures -/

/-- A stream sink on the buffer. -/
def buffered : Sink := .stream (.given "buffer") LoggerName.stream

/-- What is reported. -/
def told : List Record := [.plain .null, .plain (.bool true)]

/-- Two reports to trees that the stream sink stands in, among leaves and strangers that
fail. -/
def amongFailures : List (Recipient Bool × Subject Bool) :=
  [(besieged, .fragile),
    (ofSink (.fanout [.broken (.given "broken") .noCommand, buffered] LoggerName.fanout),
      .ofRecord (.plain (.bool true)))]

/-- Two reports of the same records to other sinks that it is a member of. -/
def amongOthers : List (Sink × Record) :=
  [(.fanout [buffered, .recorder (.given "recorder")] LoggerName.fanout, .plain .null),
    (.fanout [.http (.given "client") LoggerName.http,
        .fanout [.empty, buffered] LoggerName.fanout] LoggerName.fanout, .plain (.bool true))]

/-- The buffer gets the two lines in both cases. -/
theorem report_isolated_buffered :
    SparesAll amongFailures (· = false) told buffered World.outage
      ∧ SparesAll (ofReports amongOthers) (fun _ : Unit => True) told buffered World.outage
      ∧ (∀ turn ∈ turnsAll amongFailures ⟨World.outage, false⟩, stops turn.outcome = false)
      ∧ (∀ turn ∈ turnsAll (ofReports amongOthers) ⟨World.outage, ()⟩, stops turn.outcome = false)
      ∧ (reportAll amongFailures ⟨World.outage, false⟩).world.holding buffered
        = .destination (.buffer (Text.bytes "null\ntrue\n") false)
      ∧ (Step.performAll (Step.reports amongOthers) World.outage).2.holding buffered
        = .destination (.buffer (Text.bytes "null\ntrue\n") false) := by
  have spares : SparesAll amongFailures (· = false) told buffered World.outage :=
    .cons (.of_harmless ⟨[.stream (.given "writer") LoggerName.stream,
      .http (.given "client") LoggerName.http], [], rfl, by decide⟩ Subject.stays_fragile
      (fun _ => rfl) fun _ member => harmless_besieged member)
    (.cons (.of_sink ⟨[], [], rfl, by decide⟩) .nil)
  have leaves : SparesAll (ofReports amongOthers) (fun _ : Unit => True) told buffered
      World.outage :=
    .cons (.of_sink ⟨[], [], rfl, by decide⟩) (.cons (.of_sink
      ⟨[.http (.given "client") LoggerName.http], [], rfl, by decide⟩) .nil)
  have calm : ∀ turn ∈ turnsAll amongFailures ⟨World.outage, false⟩,
      stops turn.outcome = false := by decide +kernel
  have quiet : ∀ turn ∈ turnsAll (ofReports amongOthers) ⟨World.outage, ()⟩,
      stops turn.outcome = false := by decide +kernel
  obtain ⟨_, same, _, single⟩ := @report_isolated Bool Unit buffered told amongFailures
    (ofReports amongOthers) (· = false) (fun _ => True) ⟨World.outage, false⟩ ⟨World.outage, ()⟩
    spares rfl leaves trivial rfl rfl calm quiet
  rw [reportAll_ofReports] at same
  exact ⟨spares, leaves, calm, quiet, single.trans rfl, same.symm.trans (single.trans rfl)⟩

/-! ## Disturbance -/

/-- The second leaf of those around members. -/
def secondLeaf : Sink := .stream (.given "second") ["custom"]

/-- What the second leaf holds when a record was reported. -/
def heldBehind (members : List (Recipient Bool)) (subject : Subject Bool) : Holding :=
  ((around members).report subject ⟨World.ready, false⟩).2.world.holding secondLeaf

/-- A stranger that only notes what it is given. -/
def bystander : Recipient Bool := .single (.stranger (.recorder (.given "recorder")))

/-- A stranger that mars the record. -/
def marring : Recipient Bool := .single (.stranger .meddler)

/-- Another leaf that writes to the second buffer. -/
def sharing : Recipient Bool := .single (.stream (.given "second") LoggerName.stream)

/-- Behind a stranger that only notes what it is given a leaf of its own writes the record.
With one that mars the record in its place, the leaf writes nothing, and with one that
writes to the same buffer, there are two lines.  A record that gives another answer when it
is asked again is not the one that the leaf alone would write. -/
theorem report_disturbed :
    secondLeaf.Alone (around [bystander]).leaves World.ready
    ∧ (∀ members ∈ [[bystander], [marring], [sharing], []], ∀ subject ∈ [.fragile, .fickle],
      ∀ turn ∈ (around members).turns subject ⟨World.ready, false⟩, stops turn.outcome = false)
    ∧ heldBehind [bystander] .fragile = .destination (.buffer (Text.bytes "null\n") false)
    ∧ heldBehind [marring] .fragile = .destination (.buffer [] false)
    ∧ heldBehind [sharing] .fragile = .destination (.buffer (Text.bytes "null\nnull\n") false)
    ∧ heldBehind [] .fickle = .destination (.buffer (Text.bytes "true\n") false)
    ∧ ((Recipient.single (.stream (.given "second") ["custom"])).report .fickle
        ⟨World.ready, false⟩).2.world.holding secondLeaf
      = .destination (.buffer (Text.bytes "false\n") false) := by
  refine ⟨⟨[.stream (.given "first") LoggerName.stream], [], rfl, by decide⟩, ?_, rfl, rfl, rfl,
    rfl, rfl⟩
  decide +kernel

end Recipient

end Heartbeat
