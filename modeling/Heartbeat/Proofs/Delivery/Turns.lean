import Heartbeat.Delivery.Recipient
import Heartbeat.Proofs.Delivery.Visits

/-!
# Turns

Handing a record to a recipient comes down to handing it to parties, which are leaves and
strangers.  A turn is one such handing over, in the situation that the party finds.

From one turn to the next nothing happens except that entries are logged
(`Recipient.chained_turns`).  The parties that have a turn are those of the tree, unless a
turn ends with a request to stop (`Recipient.turns_party`).  The turn of a leaf begins with
the description of the record, and the rest of it is a visit (`Turn.visit?`).

The sinks of this library are recipients, and handing them a record that stays what it is
is reporting it to them (`Recipient.report_ofSink`).
-/

namespace Heartbeat

set_option autoImplicit false

open Sink (stops)

variable {State : Type}

/-! ## Trees -/

theorem Party.isLeaf_of_leaf? {party : Party State} {leaf : Sink}
    (found : party.leaf? = some leaf) : leaf.isLeaf = true := by
  cases party with
  | stream destination logger => rw [← Option.some.inj found]; rfl
  | http client logger => rw [← Option.some.inj found]; rfl
  | stranger other => cases found

namespace Recipient

mutual

/-- The parties of a tree from left to right, each as often as it occurs. -/
def parties : Recipient State → List (Party State)
  | .single party => [party]
  | .fanout members _ => partiesOf members

/-- The parties of trees one after the other. -/
def partiesOf : List (Recipient State) → List (Party State)
  | [] => []
  | member :: members => parties member ++ partiesOf members

end

/-- The leaves among the parties. -/
def leaves (tree : Recipient State) : List Sink := tree.parties.filterMap Party.leaf?

theorem isLeaf_of_mem_leaves {tree : Recipient State} {leaf : Sink}
    (member : leaf ∈ tree.leaves) : leaf.isLeaf = true := by
  obtain ⟨party, _, found⟩ := List.mem_filterMap.mp member
  exact Party.isLeaf_of_leaf? found

/-- What holds of parties, and of a fan-out if it holds of the members, holds of every
recipient. -/
@[elab_as_elim]
theorem treeInduction {motive : Recipient State → Prop}
    (single : ∀ party, motive (.single party))
    (fanout : ∀ members logger, (∀ member ∈ members, motive member) →
      motive (.fanout members logger)) (tree : Recipient State) : motive tree := by
  match tree with
  | .single one => exact single one
  | .fanout members logger =>
      refine fanout members logger fun member inside => ?_
      have smaller := List.sizeOf_lt_of_mem inside
      exact treeInduction single fanout member
termination_by sizeOf tree
decreasing_by
  simp only [Recipient.fanout.sizeOf_spec]
  omega

end Recipient

/-! ## Turns -/

/-- A situation whose world has more entries in its log. -/
def Situation.LogsOnly (first later : Situation State) : Prop :=
  first.world.LogsOnly later.world ∧ later.state = first.state

instance : IsPreorder (Situation State) Situation.LogsOnly where
  refl first := ⟨refl_of World.LogsOnly first.world, rfl⟩
  trans _ _ _ before after :=
    ⟨trans_of World.LogsOnly before.1 after.1, after.2.trans before.2⟩

/-- A record is handed to a party in the situation that it finds. -/
structure Turn (State : Type) where
  party : Party State
  subject : Subject State
  before : Situation State

namespace Turn

/-- How a turn ends. -/
def outcome (turn : Turn State) : Except Failure Unit :=
  (turn.party.report turn.subject turn.before).1

/-- The situation that a turn leaves behind. -/
def after (turn : Turn State) : Situation State :=
  (turn.party.report turn.subject turn.before).2

/-- What a leaf does when the record has described itself to it. -/
def visit? (turn : Turn State) : Option Visit :=
  turn.party.leaf?.map fun leaf =>
    let asked := turn.subject.describe turn.before
    ⟨leaf, asked.1, asked.2.world⟩

/-- A turn with a visit is the turn of a leaf, which asks for the description first. -/
theorem visit?_eq_some_iff {turn : Turn State} {visit : Visit} :
    turn.visit? = some visit ↔ turn.party.leaf? = some visit.leaf
      ∧ visit.record = (turn.subject.describe turn.before).1
      ∧ visit.before = (turn.subject.describe turn.before).2.world := by
  obtain ⟨leaf, record, world⟩ := visit
  rw [visit?, Option.map_eq_some_iff]
  constructor
  · rintro ⟨leaf, found, ⟨⟩⟩
    exact ⟨found, rfl, rfl⟩
  · rintro ⟨found, rfl, rfl⟩
    exact ⟨leaf, found, rfl⟩

theorem report_of_visit {turn : Turn State} {visit : Visit} (visits : turn.visit? = some visit) :
    turn.outcome = visit.outcome ∧ turn.after.world = visit.after
      ∧ turn.after.state = (turn.subject.describe turn.before).2.state := by
  obtain ⟨leaf, record, world⟩ := visit
  obtain ⟨party, subject, before⟩ := turn
  obtain ⟨found, rfl, rfl⟩ := visit?_eq_some_iff.mp visits
  cases party with
  | stream destination logger =>
      obtain rfl := Option.some.inj found
      exact ⟨rfl, rfl, rfl⟩
  | http client logger =>
      obtain rfl := Option.some.inj found
      exact ⟨rfl, rfl, rfl⟩
  | stranger other => cases found

/-- What visits are of is a leaf. -/
theorem isLeaf_of_visit {turn : Turn State} {visit : Visit} (visits : turn.visit? = some visit) :
    visit.leaf.isLeaf = true :=
  Party.isLeaf_of_leaf? (visit?_eq_some_iff.mp visits).1

end Turn

namespace Recipient

/-- A fan-out goes on to the next member, and then there may be an entry in the log; or
what stopped the member stops it, too. -/
theorem absorb_cases (logger : LoggerName) (event : Failure → LogEvent)
    (done : Except Failure Unit × Situation State) :
    (∃ later, absorb logger event done = (.ok (), later) ∧ stops done.1 = false
        ∧ done.2.LogsOnly later)
      ∨ ∃ failure, done = (.error failure, done.2) ∧ failure.isOrdinary = false
        ∧ absorb logger event done = done := by
  obtain ⟨outcome, situation⟩ := done
  cases outcome with
  | ok value => exact .inl ⟨situation, rfl, rfl, refl_of Situation.LogsOnly situation⟩
  | error failure =>
      rw [absorb]
      dsimp only
      split
      · next ordinary => exact .inl ⟨_, rfl, by rw [stops, ordinary, Bool.not_true],
          World.LogsOnly.logged situation.world _, rfl⟩
      · next request => exact .inr ⟨failure, rfl, by simpa using request, rfl⟩

mutual

/-- The turns of a record that is handed to a recipient, in their order. -/
def turns : Recipient State → Subject State → Situation State → List (Turn State)
  | .single party, subject, situation => [⟨party, subject, situation⟩]
  | .fanout members logger, subject, situation => turnsOf logger members 0 subject situation

/-- The turns of a record that is handed to members, the first having the given index. -/
def turnsOf (logger : LoggerName) : List (Recipient State) → Nat → Subject State →
    Situation State → List (Turn State)
  | [], _, _, _ => []
  | member :: members, index, subject, situation =>
    let done := absorb logger (.memberFailed index member.className)
      (member.report subject situation)
    turns member subject situation ++ match done.1 with
      | .ok _ => turnsOf logger members (index + 1) subject done.2
      | .error _ => []

end

/-- The turns follow each other from one situation to another, and between them entries
are logged at most. -/
abbrev Chained : Situation State → List (Turn State) → Situation State → Prop :=
  Chain Turn.before Turn.after Situation.LogsOnly

variable (subject : Subject State)

/-- **Handing over a record is its turns, and between them only entries are logged.** -/
theorem chained_turns (tree : Recipient State) (start : Situation State) :
    Chained start (tree.turns subject start) (tree.report subject start).2 := by
  induction tree using treeInduction generalizing start with
  | single party =>
      rw [turns, report]
      exact .cons (refl_of Situation.LogsOnly start) (.nil (refl_of Situation.LogsOnly _))
  | fanout members logger each =>
      rw [turns, report]
      generalize 0 = index
      induction members generalizing index start with
      | nil => exact .nil (refl_of Situation.LogsOnly start)
      | cons member members hypothesis =>
          have first := each member (List.mem_cons_self ..) start
          have others := hypothesis fun other inside => each other (List.mem_cons_of_mem _ inside)
          rw [turnsOf, reportToMembers]
          rcases absorb_cases logger (.memberFailed index member.className)
            (member.report subject start) with ⟨later, goes, _, logs⟩ | ⟨failure, failed, _, same⟩
          · rw [goes]
            exact (first.linked_moves logs).append (others later (index + 1))
          · rw [same, failed]
            dsimp only
            rwa [List.append_nil]

/-- Each turn is one of a party of the tree, with the record that was handed over. -/
theorem forall_turns (tree : Recipient State) (start : Situation State) :
    ∀ turn ∈ tree.turns subject start, turn.party ∈ tree.parties ∧ turn.subject = subject := by
  induction tree using treeInduction generalizing start with
  | single party =>
      intro turn member
      rw [turns, List.mem_singleton] at member
      rw [member]
      exact ⟨List.mem_singleton_self party, rfl⟩
  | fanout members logger each =>
      rw [turns, parties]
      generalize 0 = index
      induction members generalizing index start with
      | nil => exact fun turn member => absurd member List.not_mem_nil
      | cons member members hypothesis =>
          intro turn inside
          rw [turnsOf, List.mem_append] at inside
          rw [partiesOf, List.mem_append]
          rcases inside with first | later
          · obtain ⟨party, same⟩ := each member (List.mem_cons_self ..) start turn first
            exact ⟨.inl party, same⟩
          · split at later
            · obtain ⟨party, same⟩ := hypothesis
                (fun other inside => each other (List.mem_cons_of_mem _ inside)) _ _ turn later
              exact ⟨.inr party, same⟩
            · cases later

/-- **Every party has its turn if no turn ends with a request to stop**, and then the whole
does not end with one. -/
theorem turns_party {tree : Recipient State} {start : Situation State}
    (calm : ∀ turn ∈ tree.turns subject start, stops turn.outcome = false) :
    (tree.turns subject start).map Turn.party = tree.parties
      ∧ stops (tree.report subject start).1 = false := by
  induction tree using treeInduction generalizing start with
  | single party =>
      rw [turns] at calm
      exact ⟨rfl, calm _ (List.mem_singleton_self _)⟩
  | fanout members logger each =>
      rw [turns] at calm ⊢
      rw [parties, report]
      generalize 0 = index at calm ⊢
      induction members generalizing index start with
      | nil => exact ⟨rfl, rfl⟩
      | cons member members hypothesis =>
          rw [turnsOf] at calm ⊢
          obtain ⟨first, goes⟩ := each member (List.mem_cons_self ..) fun turn inside =>
            calm turn (List.mem_append_left _ inside)
          rw [partiesOf, reportToMembers, List.map_append, first]
          rcases absorb_cases logger (.memberFailed index member.className)
            (member.report subject start) with ⟨later, next, _, _⟩ | ⟨failure, failed, request, _⟩
          · rw [next] at calm ⊢
            obtain ⟨others, ends⟩ := hypothesis
              (fun other inside => each other (List.mem_cons_of_mem _ inside)) (index + 1)
              fun turn inside => calm turn (List.mem_append_right _ inside)
            exact ⟨congrArg _ others, ends⟩
          · rw [failed, stops, request] at goes
            cases goes

/-! ## Sinks of this library -/

theorem className_ofSink (sink : Sink) :
    (ofSink sink : Recipient State).className = sink.className := by
  cases sink <;> rfl

/-- **Reporting to a sink is handing it a record that stays what it is**, in whatever state
records and strangers are. -/
theorem report_ofSink (sink : Sink) (record : Record) (start : Situation State) :
    (ofSink sink).report (.ofRecord record) start
      = (((sink.report record).run.run start.world).1,
        ⟨((sink.report record).run.run start.world).2, start.state⟩) := by
  induction sink using Sink.treeInduction generalizing start with
  | leaf sink leaf =>
      cases sink with
      | fanout members logger => cases leaf
      | _ => rfl
  | fanout members logger each =>
      rw [ofSink, report, Sink.report]
      generalize 0 = index
      induction members generalizing index start with
      | nil => rfl
      | cons member members hypothesis =>
          have first := each member (List.mem_cons_self ..) start
          have others := hypothesis fun other inside => each other (List.mem_cons_of_mem _ inside)
          rw [ofSinks, reportToMembers, first, className_ofSink, Sink.run_reportToMembers_cons,
            Sink.run_handOver, absorb]
          rcases (member.report record).run.run start.world with ⟨failure | _, later⟩
          · dsimp only
            cases failure.isOrdinary with
            | true => exact others _ _
            | false => rfl
          · exact others _ _

end Recipient

/-- A stranger that at most notes something. -/
def Stranger.Harmless (stranger : Stranger State) : Prop :=
  ∀ subject situation, (stranger.report subject situation).2 = situation
    ∨ ∃ event, (stranger.report subject situation).2
      = { situation with world := situation.world.note event }

/-- The strangers that come with the library are harmless. -/
theorem Recipient.harmless_ofSink (sink : Sink) {stranger : Stranger State}
    (member : .stranger stranger ∈ (ofSink sink).parties) : stranger.Harmless := by
  induction sink using Sink.treeInduction with
  | leaf sink leaf =>
      cases sink with
      | fanout members logger => cases leaf
      | stream destination logger => cases List.mem_singleton.mp member
      | http client logger => cases List.mem_singleton.mp member
      | recorder label =>
          cases List.mem_singleton.mp member
          exact fun _ _ => .inr ⟨_, rfl⟩
      | broken label failure =>
          cases List.mem_singleton.mp member
          exact fun _ _ => .inr ⟨_, rfl⟩
      | empty =>
          cases List.mem_singleton.mp member
          exact fun _ _ => .inl rfl
  | fanout members logger each =>
      rw [ofSink, parties] at member
      induction members with
      | nil => cases member
      | cons first members hypothesis =>
          rw [ofSinks, partiesOf, List.mem_append] at member
          rcases member with inside | later
          · exact each first (List.mem_cons_self ..) inside
          · exact hypothesis (fun other inside => each other (List.mem_cons_of_mem _ inside)) later

/-! ## Records that stay what they are -/

/-- As long as a record is intact it describes itself in one way, and it stays intact when it
is asked to. -/
structure Subject.Stays (subject : Subject State) (intact : State → Prop) (record : Record) :
    Prop where
  answers : ∀ situation, intact situation.state → (subject.describe situation).1 = record
  keeps : ∀ situation, intact situation.state →
    intact (subject.describe situation).2.state

/-- A stranger that is handed a record leaves it intact. -/
def Stranger.Keeps (stranger : Stranger State) (intact : State → Prop) (subject : Subject State) :
    Prop :=
  ∀ situation, intact situation.state → intact (stranger.report subject situation).2.state

/-- A record that is its description stays it. -/
theorem Subject.stays_ofRecord (record : Record) (intact : State → Prop) :
    (Subject.ofRecord record).Stays intact record :=
  ⟨fun _ _ => rfl, fun _ still => still⟩

theorem Stranger.Harmless.keeps {stranger : Stranger State} (harmless : stranger.Harmless)
    (intact : State → Prop) (subject : Subject State) : stranger.Keeps intact subject := by
  intro situation whole
  rcases harmless subject situation with same | ⟨event, noted⟩
  · rwa [same]
  · rwa [noted]

section Stays

variable {subject : Subject State} {record : Record} {intact : State → Prop}

theorem Subject.Stays.record_eq (stays : subject.Stays intact record) {turn : Turn State}
    (same : turn.subject = subject) (whole : intact turn.before.state) {visit : Visit}
    (visits : turn.visit? = some visit) : visit.record = record := by
  obtain ⟨-, described, -⟩ := Turn.visit?_eq_some_iff.mp visits
  rw [described, same, stays.answers _ whole]

/-- A turn leaves a record intact. -/
theorem Subject.Stays.keeps_turn (stays : subject.Stays intact record) {turn : Turn State}
    (same : turn.subject = subject)
    (strangers : ∀ stranger, turn.party = .stranger stranger → stranger.Keeps intact subject)
    (whole : intact turn.before.state) : intact turn.after.state := by
  obtain ⟨party, _, before⟩ := turn
  obtain rfl := same
  cases party with
  | stranger other => exact strangers other rfl before whole
  | stream destination logger => exact stays.keeps before whole
  | http client logger => exact stays.keeps before whole

/-- A record that stays what it is, handed to strangers that leave it intact, is intact in
every turn. -/
theorem Subject.Stays.intact_turns (stays : subject.Stays intact record) {tree : Recipient State}
    (strangers : ∀ stranger, .stranger stranger ∈ tree.parties → stranger.Keeps intact subject)
    {start : Situation State} (whole : intact start.state) :
    ∀ turn ∈ tree.turns subject start, intact turn.before.state := by
  have linked := tree.chained_turns subject start
  have ofTree := tree.forall_turns subject start
  refine (linked.stays (fun situation => intact situation.state) whole ?_ ?_).1
  · intro found next logs still
    rw [logs.2]
    exact still
  · intro turn member still
    obtain ⟨party, same⟩ := ofTree turn member
    exact stays.keeps_turn same (fun stranger is => strangers stranger (is ▸ party)) still

end Stays

end Heartbeat
