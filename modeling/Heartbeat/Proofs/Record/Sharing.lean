import Heartbeat.Proofs.Record.Acceptance
import Heartbeat.Proofs.Value.Cycles

/-!
# Records whose containers are shared

What a record describes itself by may be put together from containers that stand in
several places, or inside themselves.  The record is then encoded like one that is
described by the value that the graph unfolds to.  So it makes no difference whether
containers are shared or copied, and a cycle that can be reached is always refused
(`ValueGraph.encode_unfolding`).
-/

namespace Heartbeat

set_option autoImplicit false

namespace ValueGraph

variable {size : Nat} {graph : ValueGraph size}

/-- A place is encoded like a record that is described by what the place unfolds to. -/
theorem Unfolds.encode_eq {part : Part size} {value : Value} (unfolds : graph.Unfolds [] part value)
    {record : Record} (described : record.payload = .ok value) :
    graph.encode part = record.encode := by
  rw [ValueGraph.encode, unfolds.toJson_eq, Record.encode, Record.toJson_of_payload described]
  cases value.toJson <;> rfl

/-- An offence is reported as a record that cannot be encoded. -/
theorem encode_of_toJson_error {part : Part size} {offence : Offence}
    (failed : graph.toJson part = .error offence) :
    graph.encode part = .error (.encoding offence.kind offence.message) := by
  rw [ValueGraph.encode, failed]
  cases offence <;> rfl

/-- **Cycles are what is refused, and sharing is not.**  From every place a graph unfolds to
exactly one value, whose containers are nested no deeper than there are containers, and
one more for a container that is met again.  The place is encoded like a record that is
described by this value.  If what stands in the place can be copied out, the value is made
of the copies, which is possible exactly if no cycle can be reached.  If one can be
reached, the record is reported as one that cannot be encoded; and unless there is some
other offence, or there are containers enough to stand too deep, the cycle is the
reason. -/
theorem encode_unfolding (graph : ValueGraph size) (payload : Part size) :
    (∃ tree, graph.Unfolds [] payload tree ∧ (∀ other, graph.Unfolds [] payload other → other = tree)
        ∧ tree.nesting ≤ size + 1
        ∧ ∀ record : Record, record.payload = .ok tree → graph.encode payload = record.encode)
      ∧ (∀ copy, graph.Copies payload copy →
        ∀ record : Record, record.payload = .ok copy → graph.encode payload = record.encode)
      ∧ ((∃ copy, graph.Copies payload copy) ↔ ¬ graph.Cyclic payload)
      ∧ (graph.Cyclic payload →
        ∃ cause message, graph.encode payload = .error (.encoding cause message))
      ∧ (graph.Cyclic payload → size < depthBound → (∀ offence, ¬ graph.Offends payload offence) →
        graph.encode payload = .error (.encoding .value "Circular reference detected")) := by
  refine ⟨?_, ?_, exists_copies_iff payload, ?_, ?_⟩
  · obtain ⟨tree, unfolds, nested⟩ := exists_unfolds graph List.nodup_nil payload
    rw [List.length_nil, Nat.add_zero] at nested
    exact ⟨tree, unfolds, fun other again => unfolds.unique again, nested,
      fun record described => unfolds.encode_eq described⟩
  · intro copy copies record described
    exact copies.unfolds.encode_eq described
  · intro cyclic
    obtain ⟨offence, failed⟩ := exists_offence_of_cyclic cyclic
    exact ⟨_, _, encode_of_toJson_error failed⟩
  · intro cyclic few sound
    exact encode_of_toJson_error (toJson_of_cyclic cyclic few sound)

/-- A list that stands in three places of another one, once below a key. -/
example : (@ValueGraph.mk 3 fun
      | 0 => .list [.container 1, .container 1, .container 2]
      | 1 => .list [.simple (.int 1) rfl]
      | 2 => .dict [(.text "k", .container 1)]).encode (.container 0)
    = .ok (Text.bytes "[[1],[1],\x7b\"k\":[1]\x7d]") := by decide +kernel

/-- A list that stands inside itself behind a tuple. -/
example : (@ValueGraph.mk 2 fun
      | 0 => .list [.simple .null rfl, .container 1]
      | 1 => .tuple [.container 0]).encode (.container 1)
    = .error (.encoding .value "Circular reference detected") := by decide +kernel

end ValueGraph

end Heartbeat
