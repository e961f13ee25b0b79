import Heartbeat.Proofs.Delivery.Congruence
import Heartbeat.Proofs.Delivery.Visits

/-!
# Fan-outs as loops

A tree of fan-outs does what a loop over its leaves does: it reports the record to
one leaf after the other, in their order, and goes on after whatever ordinary
failure a leaf raises.  The first request to stop ends the loop and is its outcome
(`Sink.reportEach`).  The outcomes of the tree and of the loop are the same, and
so are the worlds that they leave behind, except for entries in the log
(`Sink.report_fanout`).

The world that a leaf finds in the tree differs from the one that it finds in the
loop by what fan-outs have logged in the meantime, and that makes no difference to
a leaf.
-/

namespace Heartbeat

set_option autoImplicit false

/-! ## Worlds without their log -/

namespace World

/-- A world without the entries in its log. -/
def unlogged (world : World) : World :=
  { world with trace := world.trace.filter fun event => !event.isLog }

/-- Worlds that differ at most in their logs. -/
def SameButLog (left right : World) : Prop := left.unlogged = right.unlogged

theorem unlogged_note (world : World) (event : Event) :
    (world.note event).unlogged
      = if event.isLog then world.unlogged else world.unlogged.note event := by
  rw [unlogged, note, List.filter_append]
  cases logs : event.isLog <;> simp [unlogged, note, logs]

theorem unlogged_logged (world : World) (entry : LogEntry) :
    (world.logged entry).unlogged = world.unlogged := by
  rw [logged]
  split
  · exact unlogged_note world (.log entry)
  · rfl

/-- What only adds to the log changes nothing else. -/
theorem LogsOnly.unlogged {world later : World} (logs : world.LogsOnly later) :
    later.unlogged = world.unlogged := by
  obtain ⟨entries, rfl⟩ := logs
  have silent : (entries.map Event.log).filter (fun event => !event.isLog) = [] := by
    rw [List.filter_eq_nil_iff]
    intro event member
    obtain ⟨entry, _, rfl⟩ := List.mem_map.mp member
    exact Bool.false_ne_true
  rw [World.unlogged, World.unlogged, List.filter_append, silent, List.append_nil]

/-- Deliveries do not look at the log. -/
theorem congruence_sameButLog : Congruence (fun _ => True) SameButLog where
  destination same := (congrArg destination same :)
  client _ same := (congrArg (client · _) same :)
  files same := (congrArg files same :)
  troubles same := (congrArg troubles same :)
  note _ same := by rw [SameButLog, unlogged_note, unlogged_note, same]
  logged entry same := by rw [SameButLog, unlogged_logged, unlogged_logged, same]
  setDestination label state same := congrArg (setDestination · label state) same
  setClient state _ same := congrArg (setClient · _ state) same
  setFiles files same := (congrArg (fun world : World => { world with files }) same :)
  print data same :=
    (congrArg (fun world : World => { world with output := world.output ++ data }) same :)

end World

namespace Sink

open Delivery World

/-! ## The loop -/

/-- Reports a record to leaves, one after the other.  Ordinary failures are
discarded, and the first request to stop is the outcome. -/
def reportEach : List Sink → Record → World → Except Failure Unit × World
  | [], _, world => (.ok (), world)
  | leaf :: leaves, record, world =>
    match (leaf.report record).run.run world with
    | (.ok _, later) => reportEach leaves record later
    | (.error failure, later) =>
      if failure.isOrdinary then reportEach leaves record later else (.error failure, later)

theorem reportEach_append (first second : List Sink) (record : Record) (world : World) :
    reportEach (first ++ second) record world
      = match reportEach first record world with
        | (.ok _, later) => reportEach second record later
        | (.error failure, later) => (.error failure, later) := by
  induction first generalizing world with
  | nil => rfl
  | cons leaf leaves hypothesis =>
      rw [List.cons_append, reportEach, reportEach]
      rcases (leaf.report record).run.run world with ⟨failure | _, later⟩
      · dsimp only
        split
        · exact hypothesis later
        · rfl
      · exact hypothesis later

/-! ## Trees and loops -/

/-- The outcome of a report, ordinary failures being discarded. -/
def absorbed : Except Failure Unit → Except Failure Unit
  | .ok _ => .ok ()
  | .error failure => if failure.isOrdinary then .ok () else .error failure

/-- From worlds that differ in their logs, a sink does what the loop over its leaves
does, apart from an ordinary failure and from the log. -/
def Flattens (record : Record) (sink : Sink) : Prop :=
  ∀ first second, SameButLog first second →
    absorbed ((sink.report record).run.run first).1 = (reportEach sink.leaves record second).1
      ∧ SameButLog ((sink.report record).run.run first).2
        (reportEach sink.leaves record second).2

theorem flattens_leaf (record : Record) {sink : Sink} (leaf : sink.isLeaf = true) :
    Flattens record sink := by
  intro first second same
  have ends := coupled_report congruence_sameButLog sink record first second same
  rw [leaves_of_isLeaf leaf, reportEach]
  generalize (sink.report record).run.run first = done at ends ⊢
  generalize (sink.report record).run.run second = ended at ends ⊢
  obtain ⟨outcome, later⟩ := done
  obtain ⟨_, latter⟩ := ended
  obtain ⟨rfl, also⟩ := ends
  cases outcome with
  | ok value => exact ⟨rfl, also⟩
  | error failure =>
      dsimp only [absorbed]
      split <;> exact ⟨rfl, also⟩

/-- Members in a row do what the loop over all their leaves does. -/
theorem reportToMembers_flattens (logger : LoggerName) (record : Record) {members : List Sink}
    (each : ∀ member ∈ members, Flattens record member) (index : Nat) {first second : World}
    (same : SameButLog first second) :
    ((reportToMembers logger members index record).run.run first).1
        = (reportEach (leavesOf members) record second).1
      ∧ SameButLog ((reportToMembers logger members index record).run.run first).2
        (reportEach (leavesOf members) record second).2 := by
  induction members generalizing index first second with
  | nil =>
      rw [reportToMembers, leavesOf]
      exact ⟨rfl, same⟩
  | cons member members hypothesis =>
      have ends := each member (List.mem_cons_self ..) first second same
      have others := hypothesis fun member inside => each member (List.mem_cons_of_mem _ inside)
      rw [run_reportToMembers_cons, run_handOver, leavesOf, reportEach_append]
      generalize (member.report record).run.run first = done at ends ⊢
      generalize reportEach member.leaves record second = ended at ends ⊢
      obtain ⟨outcome, later⟩ := done
      obtain ⟨_, latter⟩ := ended
      obtain ⟨rfl, also⟩ := ends
      cases outcome with
      | ok value => exact others (index + 1) also
      | error failure =>
          by_cases ordinary : failure.isOrdinary = true
          · simp only [absorbed, if_pos ordinary]
            exact others (index + 1) ((unlogged_logged later _).trans also)
          · simp only [absorbed, if_neg ordinary]
            exact ⟨trivial, also⟩

theorem flattens (record : Record) (sink : Sink) : Flattens record sink := by
  induction sink using treeInduction with
  | leaf sink leaf => exact flattens_leaf record leaf
  | fanout members logger each =>
      intro first second same
      obtain ⟨outcome, also⟩ := reportToMembers_flattens logger record each 0 same
      refine ⟨?_, also⟩
      have passed := @stops_of_reportToMembers logger members 0 record first
      rw [leaves, ← outcome, report]
      cases ended : ((reportToMembers logger members 0 record).run.run first).1 with
      | ok value => rfl
      | error failure => rw [absorbed, passed ended, if_neg Bool.false_ne_true]

/-- **A tree of fan-outs does what the loop over its leaves does.**  It comes to the
same outcome, which is no ordinary failure, and to the same world except for the
log.  The leaves that it visits are the first ones, each once for each place at
which it occurs, and all of them unless the outcome is a request to stop. -/
theorem report_fanout (members : List Sink) (logger : LoggerName) (record : Record)
    (world : World) :
    let tree := Sink.fanout members logger
    let done := (tree.report record).run.run world
    let loop := reportEach tree.leaves record world
    done.1 = loop.1 ∧ done.2.unlogged = loop.2.unlogged
      ∧ (∀ failure, done.1 = .error failure → failure.isOrdinary = false)
      ∧ (tree.visits record world).map Visit.leaf <+: tree.leaves
      ∧ (stops done.1 = false → (tree.visits record world).map Visit.leaf = tree.leaves) := by
  have each := fun member (_ : member ∈ members) => flattens record member
  obtain ⟨outcome, also⟩ := reportToMembers_flattens logger record each 0
    (rfl : SameButLog world world)
  obtain ⟨first, all⟩ := visits_leaf (.fanout members logger) record world
  exact ⟨outcome, also, fun failure failed => stops_of_reportToMembers failed, first, all⟩

end Sink

end Heartbeat
