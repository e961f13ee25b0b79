import Mathlib.Data.List.Basic
import Heartbeat.Proofs.Delivery.Run

/-!
# Visits

Reporting to a tree of sinks comes down to reporting to its leaves.  A visit is
one such report: to a leaf, of a record, in the world that the leaf finds.  The
visits of a report follow the run, so they say which leaves are called, in which
order and in which state of the world.

Visits leave nothing out: from the world at the beginning to the first visit, from
one visit to the next, and from the last one to the end nothing happens except
that entries are logged (`Sink.linked_visits`).  The leaves that are visited are
the first leaves of the tree, and all of them unless a visit ends with a request
to stop (`Sink.visits_leaf`).
-/

namespace Heartbeat

set_option autoImplicit false

/-! ## Trees -/

namespace Sink

/-- Whether a sink hands over to no others. -/
def isLeaf : Sink → Bool
  | .fanout .. => false
  | _ => true

mutual

/-- The leaves of a tree from left to right, each as often as it occurs. -/
def leaves : Sink → List Sink
  | .fanout members _ => leavesOf members
  | leaf => [leaf]

/-- The leaves of trees one after the other. -/
def leavesOf : List Sink → List Sink
  | [] => []
  | member :: members => leaves member ++ leavesOf members

end

theorem leaves_of_isLeaf {sink : Sink} (leaf : sink.isLeaf = true) : sink.leaves = [sink] := by
  cases sink with
  | fanout members logger => cases leaf
  | _ => rfl

/-- What holds of leaves, and of a fan-out if it holds of the members, holds of
every sink. -/
@[elab_as_elim]
theorem treeInduction {motive : Sink → Prop}
    (leaf : ∀ sink : Sink, sink.isLeaf = true → motive sink)
    (fanout : ∀ members logger, (∀ member ∈ members, motive member) →
      motive (.fanout members logger)) (sink : Sink) : motive sink := by
  match sink with
  | .fanout members logger =>
      refine fanout members logger fun member inside => ?_
      have smaller := List.sizeOf_lt_of_mem inside
      exact treeInduction leaf fanout member
  | .stream .. | .http .. | .recorder _ | .broken .. | .empty => exact leaf _ rfl
termination_by sizeOf sink
decreasing_by
  simp only [Sink.fanout.sizeOf_spec]
  omega

end Sink

/-! ## Visits -/

/-- A report of a record to a leaf in the world that it finds. -/
structure Visit where
  leaf : Sink
  record : Record
  before : World

namespace Visit

/-- How a visit ends. -/
def outcome (visit : Visit) : Except Failure Unit :=
  ((visit.leaf.report visit.record).run.run visit.before).1

/-- The world that a visit leaves behind. -/
def after (visit : Visit) : World :=
  ((visit.leaf.report visit.record).run.run visit.before).2

end Visit

namespace Sink

open Delivery

/-- What a fan-out does with one member. -/
def handOver (logger : LoggerName) (member : Sink) (index : Nat) (record : Record) :
    Delivery Unit :=
  absorbing (member.report record) fun failure =>
    log logger (.memberFailed index member.className failure)

mutual

/-- The visits of a report, in their order. -/
def visits : Sink → Record → World → List Visit
  | .fanout members logger, record, world => visitsOf logger members 0 record world
  | leaf, record, world => [⟨leaf, record, world⟩]

/-- The visits of a report to members, the first having the given index. -/
def visitsOf (logger : LoggerName) : List Sink → Nat → Record → World → List Visit
  | [], _, _, _ => []
  | member :: members, index, record, world =>
    visits member record world ++ match (handOver logger member index record).run.run world with
      | (.ok _, later) => visitsOf logger members (index + 1) record later
      | (.error _, _) => []

end

theorem visits_of_isLeaf {sink : Sink} (leaf : sink.isLeaf = true) (record : Record)
    (world : World) : sink.visits record world = [⟨sink, record, world⟩] := by
  cases sink with
  | fanout members logger => cases leaf
  | _ => rfl

/-- One member after the other. -/
theorem run_reportToMembers_cons (logger : LoggerName) (member : Sink) (members : List Sink)
    (index : Nat) (record : Record) (world : World) :
    (reportToMembers logger (member :: members) index record).run.run world
      = match (handOver logger member index record).run.run world with
        | (.ok _, later) => (reportToMembers logger members (index + 1) record).run.run later
        | (.error failure, later) => (.error failure, later) := by
  have started : reportToMembers logger (member :: members) index record
      = handOver logger member index record
        >>= fun _ => reportToMembers logger members (index + 1) record := by
    rw [reportToMembers]
    rfl
  rw [started, run_bind]
  rcases (handOver logger member index record).run.run world with ⟨_ | _, later⟩ <;> rfl

/-- Handing over lets no ordinary failure through. -/
theorem run_handOver (logger : LoggerName) (member : Sink) (index : Nat) (record : Record)
    (world : World) :
    (handOver logger member index record).run.run world
      = match (member.report record).run.run world with
        | (.ok _, later) => (.ok (), later)
        | (.error failure, later) =>
          if failure.isOrdinary then
            (.ok (), later.logged ⟨logger, .memberFailed index member.className failure⟩)
          else (.error failure, later) := by
  rw [handOver, run_absorbing]
  rcases (member.report record).run.run world with ⟨_ | _, later⟩ <;> rfl

end Sink

/-! ## Nothing else happens -/

/-- A world with more entries in its log. -/
def World.LogsOnly (world later : World) : Prop :=
  ∃ entries : List LogEntry, later = { world with trace := world.trace ++ entries.map Event.log }

namespace World

theorem LogsOnly.logged (world : World) (entry : LogEntry) :
    world.LogsOnly (world.logged entry) := by
  rw [World.logged]
  split
  · exact ⟨[entry], rfl⟩
  · exact ⟨[], by rw [List.map_nil, List.append_nil]⟩

instance : IsPreorder World LogsOnly where
  refl world := ⟨[], by rw [List.map_nil, List.append_nil]⟩
  trans first second third := by
    rintro ⟨entries, rfl⟩ ⟨others, rfl⟩
    exact ⟨entries ++ others, by rw [List.map_append, ← List.append_assoc]⟩

end World

/-- From one place over stages to another place, with nothing between the stages but steps
of a relation.  A stage is entered at one place and left at another. -/
inductive Chain {Place Stage : Type} (entry exit : Stage → Place) (between : Place → Place → Prop) :
    Place → List Stage → Place → Prop where
  | nil {start later : Place} (moves : between start later) :
      Chain entry exit between start [] later
  | cons {start later : Place} {stage : Stage} {stages : List Stage}
      (moves : between start (entry stage))
      (rest : Chain entry exit between (exit stage) stages later) :
      Chain entry exit between start (stage :: stages) later

namespace Chain

variable {Place Stage : Type} {entry exit : Stage → Place} {between : Place → Place → Prop}

section Preorder

variable [IsPreorder Place between]

theorem moves_linked {start next later : Place} {stages : List Stage}
    (moves : between start next) (linked : Chain entry exit between next stages later) :
    Chain entry exit between start stages later := by
  cases linked with
  | nil also => exact .nil (trans_of between moves also)
  | cons also rest => exact .cons (trans_of between moves also) rest

theorem append {start next later : Place} {first second : List Stage}
    (linked : Chain entry exit between start first next)
    (further : Chain entry exit between next second later) :
    Chain entry exit between start (first ++ second) later := by
  induction linked with
  | nil moves => exact moves_linked moves further
  | cons moves _ hypothesis => exact .cons moves (hypothesis further)

theorem linked_moves {start next later : Place} {stages : List Stage}
    (linked : Chain entry exit between start stages next) (moves : between next later) :
    Chain entry exit between start stages later := by
  have joined := linked.append (.nil moves)
  rwa [List.append_nil] at joined

end Preorder

/-- What leads to a stage and what follows it. -/
theorem split {start later : Place} {earlier others : List Stage} {stage : Stage}
    (linked : Chain entry exit between start (earlier ++ stage :: others) later) :
    Chain entry exit between start earlier (entry stage)
      ∧ Chain entry exit between (exit stage) others later := by
  induction earlier generalizing start with
  | nil =>
      cases linked with
      | cons moves rest => exact ⟨.nil moves, rest⟩
  | cons first earlier hypothesis =>
      cases linked with
      | cons moves rest => exact ⟨.cons moves (hypothesis rest).1, (hypothesis rest).2⟩

/-- Other steps may stand between the stages. -/
theorem mono {wider : Place → Place → Prop} {start later : Place} {stages : List Stage}
    (wide : ∀ first second, between first second → wider first second)
    (linked : Chain entry exit between start stages later) :
    Chain entry exit wider start stages later := by
  induction linked with
  | nil moves => exact .nil (wide _ _ moves)
  | cons moves _ hypothesis => exact .cons (wide _ _ moves) hypothesis

/-- What holds between the stages and over each stage holds over all of them. -/
theorem related {relation : Place → Place → Prop} [IsPreorder Place relation]
    {start later : Place} {stages : List Stage}
    (linked : Chain entry exit between start stages later)
    (moves : ∀ first second, between first second → relation first second)
    (each : ∀ stage ∈ stages, relation (entry stage) (exit stage)) : relation start later := by
  induction linked with
  | nil between => exact moves _ _ between
  | @cons start later stage stages between _ hypothesis =>
      have first := each stage (List.mem_cons_self ..)
      have others := hypothesis fun other inside => each other (List.mem_cons_of_mem _ inside)
      exact trans_of relation (moves _ _ between) (trans_of relation first others)

/-- The same up to one of the stages. -/
theorem related_before {relation : Place → Place → Prop} [IsPreorder Place relation]
    {start later : Place} {stages : List Stage}
    (linked : Chain entry exit between start stages later)
    (moves : ∀ first second, between first second → relation first second)
    (each : ∀ stage ∈ stages, relation (entry stage) (exit stage)) {stage : Stage}
    (member : stage ∈ stages) : relation start (entry stage) := by
  obtain ⟨earlier, others, rfl⟩ := List.append_of_mem member
  apply linked.split.1.related moves
  intro other inside
  exact each other (List.mem_append_left _ inside)

/-- What holds of a place, and is kept between the stages and by each stage, holds where
every stage is entered and where the last one leads to. -/
theorem stays (holds : Place → Prop) {start later : Place} {stages : List Stage}
    (linked : Chain entry exit between start stages later) (first : holds start)
    (moves : ∀ found next, between found next → holds found → holds next)
    (each : ∀ stage ∈ stages, holds (entry stage) → holds (exit stage)) :
    (∀ stage ∈ stages, holds (entry stage)) ∧ holds later := by
  induction linked with
  | nil between => exact ⟨by simp, moves _ _ between first⟩
  | @cons start later stage stages between _ hypothesis =>
      have entered := moves _ _ between first
      obtain ⟨others, ends⟩ := hypothesis (each stage (List.mem_cons_self ..) entered)
        fun other inside => each other (List.mem_cons_of_mem _ inside)
      exact ⟨List.forall_mem_cons.mpr ⟨entered, others⟩, ends⟩

end Chain

/-- From one world over visits to another world, with nothing between the visits but steps
of a relation. -/
abbrev Linked (between : World → World → Prop) : World → List Visit → World → Prop :=
  Chain Visit.before Visit.after between

namespace Sink

open Delivery

/-- A member is left and the next one is come to with nothing but an entry in the
log. -/
theorem logsOnly_handOver (logger : LoggerName) (member : Sink) (index : Nat) (record : Record)
    (world : World) :
    World.LogsOnly ((member.report record).run.run world).2
      ((handOver logger member index record).run.run world).2 := by
  rw [run_handOver]
  rcases (member.report record).run.run world with ⟨failure | _, later⟩
  · dsimp only
    split
    · exact .logged later _
    · exact refl_of World.LogsOnly later
  · exact refl_of World.LogsOnly later

theorem linked_visitsOf (logger : LoggerName) {members : List Sink} (record : Record)
    (each : ∀ member ∈ members, ∀ world, Linked World.LogsOnly world (member.visits record world)
      ((member.report record).run.run world).2) (index : Nat) (world : World) :
    Linked World.LogsOnly world (visitsOf logger members index record world)
      ((reportToMembers logger members index record).run.run world).2 := by
  induction members generalizing index world with
  | nil => exact .nil (refl_of World.LogsOnly world)
  | cons member members hypothesis =>
      have first := (each member (List.mem_cons_self ..) world).linked_moves
        (logsOnly_handOver logger member index record world)
      have others := hypothesis fun member inside => each member (List.mem_cons_of_mem _ inside)
      rw [visitsOf, run_reportToMembers_cons]
      generalize (handOver logger member index record).run.run world = done at first ⊢
      rcases done with ⟨failure | _, later⟩
      · rw [List.append_nil]
        exact first
      · exact first.append (others (index + 1) later)

/-- **A report is its visits, and between them only entries are logged.** -/
theorem linked_visits (sink : Sink) (record : Record) (world : World) :
    Linked World.LogsOnly world (sink.visits record world)
      ((sink.report record).run.run world).2 := by
  induction sink using treeInduction generalizing world with
  | leaf sink leaf =>
      rw [visits_of_isLeaf leaf]
      exact .cons (refl_of World.LogsOnly world) (.nil (refl_of World.LogsOnly _))
  | fanout members logger each => exact linked_visitsOf logger record each 0 world

/-! ## Which leaves are visited -/

/-- What holds of a visit to a leaf in whatever world holds of all visits of a
report. -/
theorem forall_visits (holds : Visit → Prop) {record : Record}
    (each : ∀ leaf : Sink, leaf.isLeaf = true → ∀ world, holds ⟨leaf, record, world⟩)
    (sink : Sink) (world : World) : ∀ visit ∈ sink.visits record world, holds visit := by
  induction sink using treeInduction generalizing world with
  | leaf sink leaf =>
      intro visit member
      rw [visits_of_isLeaf leaf, List.mem_singleton] at member
      rw [member]
      exact each sink leaf world
  | fanout members logger hypothesis =>
      rw [visits]
      generalize 0 = index
      induction members generalizing index world with
      | nil => exact fun visit member => absurd member List.not_mem_nil
      | cons member members further =>
          intro visit inside
          rw [visitsOf, List.mem_append] at inside
          rcases inside with first | later
          · exact hypothesis member (List.mem_cons_self ..) world visit first
          · split at later
            · exact further (fun member inside => hypothesis member (List.mem_cons_of_mem _ inside))
                _ _ visit later
            · cases later

/-- Whether a report ends with a request to stop. -/
def stops : Except Failure Unit → Bool
  | .ok _ => false
  | .error failure => !failure.isOrdinary

/-- A member is left for the next one unless it ends with a request to stop, which
is passed on as it is. -/
theorem handOver_cases (logger : LoggerName) (member : Sink) (index : Nat) (record : Record)
    (world : World) :
    (∃ later, (handOver logger member index record).run.run world = (.ok (), later)
        ∧ stops ((member.report record).run.run world).1 = false)
      ∨ ∃ failure later, (handOver logger member index record).run.run world
          = (.error failure, later) ∧ failure.isOrdinary = false
        ∧ (member.report record).run.run world = (.error failure, later) := by
  rw [run_handOver]
  rcases (member.report record).run.run world with ⟨failure | _, later⟩
  · dsimp only [stops]
    split
    · next ordinary => exact .inl ⟨_, rfl, by rw [ordinary, Bool.not_true]⟩
    · next request => exact .inr ⟨failure, later, rfl, by simpa using request, rfl⟩
  · exact .inl ⟨later, rfl, rfl⟩

/-- **A fan-out lets requests to stop through and nothing else.** -/
theorem stops_of_reportToMembers {logger : LoggerName} {members : List Sink} {index : Nat}
    {record : Record} {world : World} {failure : Failure}
    (failed : ((reportToMembers logger members index record).run.run world).1 = .error failure) :
    failure.isOrdinary = false := by
  induction members generalizing index world with
  | nil => cases failed
  | cons member members hypothesis =>
      rw [run_reportToMembers_cons] at failed
      rcases handOver_cases logger member index record world with ⟨later, handed, _⟩
        | ⟨request, later, handed, stop, _⟩
      · rw [handed] at failed
        exact hypothesis failed
      · rw [handed] at failed
        rwa [← Except.error.inj failed]

theorem visitsOf_leaf (logger : LoggerName) {members : List Sink} (record : Record)
    (each : ∀ member ∈ members, ∀ world,
      (member.visits record world).map Visit.leaf <+: member.leaves
        ∧ (stops ((member.report record).run.run world).1 = false →
          (member.visits record world).map Visit.leaf = member.leaves))
    (index : Nat) (world : World) :
    (visitsOf logger members index record world).map Visit.leaf <+: leavesOf members
      ∧ (stops ((reportToMembers logger members index record).run.run world).1 = false →
        (visitsOf logger members index record world).map Visit.leaf = leavesOf members) := by
  induction members generalizing index world with
  | nil => exact ⟨List.prefix_rfl, fun _ => rfl⟩
  | cons member members hypothesis =>
      obtain ⟨first, complete⟩ := each member (List.mem_cons_self ..) world
      rw [visitsOf, leavesOf, List.map_append, run_reportToMembers_cons]
      rcases handOver_cases logger member index record world with ⟨later, handed, goes⟩
        | ⟨request, later, handed, stop, _⟩
      · obtain ⟨others, all⟩ := hypothesis
          (fun member inside => each member (List.mem_cons_of_mem _ inside)) (index + 1) later
        rw [handed, complete goes]
        exact ⟨(List.prefix_append_right_inj _).mpr others, fun ends => by rw [all ends]⟩
      · rw [handed]
        refine ⟨?_, fun ends => ?_⟩
        · rw [List.map_nil, List.append_nil]
          exact first.trans (List.prefix_append _ _)
        · rw [stops, stop] at ends
          cases ends

/-- **The leaves that are visited are the first leaves of the tree, and all of them
unless the report ends with a request to stop.** -/
theorem visits_leaf (sink : Sink) (record : Record) (world : World) :
    (sink.visits record world).map Visit.leaf <+: sink.leaves
      ∧ (stops ((sink.report record).run.run world).1 = false →
        (sink.visits record world).map Visit.leaf = sink.leaves) := by
  induction sink using treeInduction generalizing world with
  | leaf sink leaf =>
      rw [visits_of_isLeaf leaf, leaves_of_isLeaf leaf]
      exact ⟨List.prefix_rfl, fun _ => rfl⟩
  | fanout members logger each => exact visitsOf_leaf logger record each 0 world

/-- A report ends with a request to stop only if one of its visits does. -/
theorem stops_of_visits {sink : Sink} {record : Record} {world : World}
    (calm : ∀ visit ∈ sink.visits record world, stops visit.outcome = false) :
    stops ((sink.report record).run.run world).1 = false := by
  induction sink using treeInduction generalizing world with
  | leaf sink leaf =>
      rw [visits_of_isLeaf leaf] at calm
      exact calm _ (List.mem_singleton_self _)
  | fanout members logger each =>
      rw [visits] at calm
      rw [report]
      generalize 0 = index at calm ⊢
      induction members generalizing index world with
      | nil => rfl
      | cons member members hypothesis =>
          rw [visitsOf] at calm
          have goes := each member (List.mem_cons_self ..) fun visit inside =>
            calm visit (List.mem_append_left _ inside)
          rw [run_reportToMembers_cons]
          rcases handOver_cases logger member index record world with ⟨later, handed, _⟩
            | ⟨request, later, handed, stop, same⟩
          · rw [handed] at calm ⊢
            apply hypothesis
            · intro other inside
              exact each other (List.mem_cons_of_mem _ inside)
            · intro visit inside
              exact calm visit (List.mem_append_right _ inside)
          · rw [same, stops, stop] at goes
            cases goes

/-- Every leaf is visited if no visit ends with a request to stop. -/
theorem visits_leaf_of_calm {sink : Sink} {record : Record} {world : World}
    (calm : ∀ visit ∈ sink.visits record world, stops visit.outcome = false) :
    (sink.visits record world).map Visit.leaf = sink.leaves :=
  (sink.visits_leaf record world).2 (stops_of_visits calm)

end Sink

end Heartbeat
