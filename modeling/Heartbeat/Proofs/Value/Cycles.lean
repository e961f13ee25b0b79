import Heartbeat.Proofs.Value.Unfolding

/-!
# Cycles of a graph

A cycle can be reached from a place if a container can be reached from there that can
be reached once more from what is in it (`ValueGraph.Cyclic`).  Cycles are the only
thing that keeps a graph from being copied out: there are copies of what stands in a
place exactly if no cycle can be reached from it (`ValueGraph.exists_copies_iff`), and
these copies are then what the place unfolds to.

A reference in an unfolded value is an offence when the value is written, so a place
with a document has copies (`ValueGraph.copies_of_toJson`).  If nothing else in the
graph is an offence, and the containers do not suffice to stand too deep inside each
other, the reference is the one that is found (`ValueGraph.toJson_of_cyclic`).
-/

namespace Heartbeat

set_option autoImplicit false

variable {size : Nat}

namespace ValueGraph

variable (graph : ValueGraph size)

/-! ## What can be reached -/

/-- The second place is the first, or it can be reached by looking into containers. -/
inductive Reaches : Part size → Part size → Prop where
  | here (part : Part size) : Reaches part part
  | within {number : Fin size} {inner reached : Part size}
      (inside : inner ∈ (graph.container number).parts) (further : Reaches inner reached) :
      Reaches (.container number) reached

/-- A container can be reached that can be reached again from what is in it. -/
def Cyclic (part : Part size) : Prop :=
  ∃ number, graph.Reaches part (.container number)
    ∧ ∃ inner ∈ (graph.container number).parts, graph.Reaches inner (.container number)

/-- An offence that can be reached: a simple value without a document, or a key without a
name. -/
inductive Offends (part : Part size) : Offence → Prop where
  | simple {value : Value} {stands : value.isSimple = true} {offence : Offence}
      (reached : graph.Reaches part (.simple value stands))
      (refused : value.toJson = .error offence) : Offends part offence
  | key {number : Fin size} {entries : List (Value × Part size)} {key : Value} {offence : Offence}
      (reached : graph.Reaches part (.container number))
      (content : graph.container number = .dict entries) (member : key ∈ entries.map Prod.fst)
      (unnamed : key.keyName = .error offence) : Offends part offence

variable {graph}

theorem Cyclic.within {number : Fin size} {inner : Part size}
    (inside : inner ∈ (graph.container number).parts) (cyclic : graph.Cyclic inner) :
    graph.Cyclic (.container number) := by
  obtain ⟨repeated, reached, again⟩ := cyclic
  exact ⟨repeated, .within inside reached, again⟩

theorem Offends.within {number : Fin size} {inner : Part size} {offence : Offence}
    (inside : inner ∈ (graph.container number).parts) (offends : graph.Offends inner offence) :
    graph.Offends (.container number) offence := by
  cases offends with
  | simple reached refused => exact .simple (.within inside reached) refused
  | key reached content member unnamed =>
      exact .key (.within inside reached) content member unnamed

/-! ## Copies -/

/-- What has copies is not reached again from inside. -/
theorem Copies.not_reaches {part : Part size} {value : Value} (copies : graph.Copies part value)
    {number : Fin size} (reached : graph.Reaches part (.container number)) {inner : Part size}
    (inside : inner ∈ (graph.container number).parts) :
    ¬ graph.Reaches inner (.container number) := by
  induction copies generalizing inner with
  | simple => cases reached
  | container same _ hypothesis =>
      cases reached with
      | here =>
          -- The cycle is also one of the place inside, to which the hypothesis applies.
          intro again
          obtain ⟨value, member⟩ := exists_value same inside
          exact hypothesis _ member again inside again
      | within first further =>
          obtain ⟨value, member⟩ := exists_value same first
          exact hypothesis _ member further inside

theorem Copies.not_cyclic {part : Part size} {value : Value} (copies : graph.Copies part value) :
    ¬ graph.Cyclic part := by
  rintro ⟨number, reached, inner, inside, again⟩
  exact copies.not_reaches reached inside again

/-- Where no container around can be reached, and no cycle, every container is replaced by
what is in it. -/
theorem Unfolds.copies {around : List (Fin size)} {part : Part size} {value : Value}
    (unfolds : graph.Unfolds around part value) (acyclic : ¬ graph.Cyclic part)
    (apart : ∀ number ∈ around, ¬ graph.Reaches part (.container number)) :
    graph.Copies part value := by
  induction unfolds with
  | simple stands => exact .simple stands
  | met inside => exact absurd (.here _) (apart _ inside)
  | @container around number values _ same _ hypothesis =>
      refine .container same fun pair member => ?_
      have inside := (List.of_mem_zip member).1
      apply hypothesis pair member
      · intro cyclic
        exact acyclic (cyclic.within inside)
      · intro other known again
        rcases List.mem_cons.mp known with rfl | outer
        · exact acyclic ⟨other, .here _, pair.1, inside, again⟩
        · exact apart other outer (.within inside again)

/-- What a place has copies of is also what it unfolds to. -/
theorem Copies.unfolds {part : Part size} {value : Value} (copies : graph.Copies part value) :
    graph.Unfolds [] part value := by
  obtain ⟨unfolded, unfolds, _⟩ := exists_unfolds graph List.nodup_nil part
  have again := unfolds.copies copies.not_cyclic (by simp)
  rwa [again.unique copies]

/-- **Exactly what reaches no cycle has copies.** -/
theorem exists_copies_iff (part : Part size) :
    (∃ value, graph.Copies part value) ↔ ¬ graph.Cyclic part := by
  constructor
  · rintro ⟨value, copies⟩
    exact copies.not_cyclic
  · intro acyclic
    obtain ⟨value, unfolds, _⟩ := exists_unfolds graph List.nodup_nil part
    exact ⟨value, unfolds.copies acyclic (by simp)⟩

/-! ## References -/

/-- A container is without references exactly if what is in its places is. -/
theorem unrolled_fill_iff {container : Container size} {values : List Value}
    (same : values.length = container.parts.length) :
    (container.fill values).Unrolled ↔ ∀ value ∈ values, value.Unrolled := by
  cases container with
  | list items => exact Value.unrolled_list_iff values
  | tuple items => exact Value.unrolled_tuple_iff values
  | dict entries =>
      have count : values.length ≤ (entries.map Prod.fst).length := by
        simp only [same, Container.parts, List.length_map, Nat.le_refl]
      have listed := List.map_snd_zip count
      rw [Container.fill, Value.unrolled_dict_iff]
      constructor
      · intro each value inside
        rw [← listed] at inside
        obtain ⟨entry, member, rfl⟩ := List.mem_map.mp inside
        exact each entry member
      · intro each entry member
        exact each entry.2 (List.of_mem_zip member).2

/-- Copies are without references. -/
theorem Copies.unrolled {part : Part size} {value : Value} (copies : graph.Copies part value) :
    value.Unrolled := by
  induction copies with
  | @simple value stands =>
      apply Value.unrolled_of_not_isContainer
      · cases value <;> first | rfl | cases stands
      · rintro level rfl
        cases stands
  | container same _ hypothesis =>
      apply (unrolled_fill_iff same).mpr
      intro value inside
      obtain ⟨part, member⟩ := exists_place same inside
      exact hypothesis _ member

/-- A value without references is made of copies. -/
theorem Unfolds.copies_of_unrolled {around : List (Fin size)} {part : Part size} {value : Value}
    (unfolds : graph.Unfolds around part value) (unrolled : value.Unrolled) :
    graph.Copies part value := by
  induction unfolds with
  | simple stands => exact .simple stands
  | met => exact absurd (.here _) (unrolled.2 _)
  | container _ same _ hypothesis =>
      refine .container same fun pair member => ?_
      apply hypothesis pair member
      exact (unrolled_fill_iff same).mp unrolled _ (List.of_mem_zip member).2

/-! ## Documents -/

/-- Where items have no documents, one of them has none. -/
theorem exists_of_itemsToJson_error {depth : Nat} {values : List Value} {offence : Offence}
    (failed : Value.itemsToJson depth values = .error offence) :
    ∃ value ∈ values, value.toJsonAt depth = .error offence := by
  induction values with
  | nil => cases failed
  | cons value values hypothesis =>
      rw [Value.itemsToJson] at failed
      rcases eq_error_of_bind failed with first | ⟨document, _, failed⟩
      · exact ⟨value, List.mem_cons_self .., first⟩
      · rcases eq_error_of_bind failed with later | ⟨documents, _, done⟩
        · obtain ⟨other, inside, refused⟩ := hypothesis later
          exact ⟨other, List.mem_cons_of_mem _ inside, refused⟩
        · cases done

/-- Where entries have no members, a key has no name or a value no document. -/
theorem exists_of_entriesToJson_error {depth : Nat} {entries : List (Value × Value)}
    {offence : Offence} (failed : Value.entriesToJson depth entries = .error offence) :
    ∃ entry ∈ entries,
      entry.1.keyName = .error offence ∨ entry.2.toJsonAt depth = .error offence := by
  induction entries with
  | nil => cases failed
  | cons entry entries hypothesis =>
      rw [Value.entriesToJson] at failed
      rcases eq_error_of_bind failed with unnamed | ⟨name, _, failed⟩
      · exact ⟨entry, List.mem_cons_self .., .inl unnamed⟩
      rcases eq_error_of_bind failed with first | ⟨document, _, failed⟩
      · exact ⟨entry, List.mem_cons_self .., .inr first⟩
      rcases eq_error_of_bind failed with later | ⟨members, _, done⟩
      · obtain ⟨other, inside, refused⟩ := hypothesis later
        exact ⟨other, List.mem_cons_of_mem _ inside, refused⟩
      · cases done

/-- What keeps a container from having a document: its depth, something in it, or a
key. -/
theorem toJsonAt_fill_error {container : Container size} {values : List Value} {depth : Nat}
    {offence : Offence} (failed : (container.fill values).toJsonAt depth = .error offence) :
    (offence = .tooDeep ∧ depthBound ≤ depth)
      ∨ (∃ value ∈ values, value.toJsonAt (depth + 1) = .error offence)
      ∨ ∃ entries key, container = .dict entries ∧ key ∈ entries.map Prod.fst
        ∧ key.keyName = .error offence := by
  by_cases shallow : depth < depthBound
  · right
    cases container with
    | list items =>
        rw [Container.fill, Value.toJsonAt, if_pos shallow] at failed
        rcases eq_error_of_bind failed with inner | ⟨_, _, done⟩
        · exact .inl (exists_of_itemsToJson_error inner)
        · cases done
    | tuple items =>
        rw [Container.fill, Value.toJsonAt, if_pos shallow] at failed
        rcases eq_error_of_bind failed with inner | ⟨_, _, done⟩
        · exact .inl (exists_of_itemsToJson_error inner)
        · cases done
    | dict entries =>
        rw [Container.fill, Value.toJsonAt, if_pos shallow] at failed
        rcases eq_error_of_bind failed with inner | ⟨_, _, done⟩
        · obtain ⟨entry, member, unnamed | refused⟩ := exists_of_entriesToJson_error inner
          · exact .inr ⟨entries, entry.1, rfl, (List.of_mem_zip member).1, unnamed⟩
          · exact .inl ⟨entry.2, (List.of_mem_zip member).2, refused⟩
        · cases done
  · have deep := Nat.le_of_not_lt shallow
    rw [toJsonAt_fill_of_le deep] at failed
    exact .inl ⟨(Except.error.inj failed).symm, deep⟩

/-- What keeps an unfolded value from having a document is a reference in it, its depth,
or an offence that can be reached. -/
theorem Unfolds.toJsonAt_error {around : List (Fin size)} {part : Part size} {value : Value}
    (unfolds : graph.Unfolds around part value) (once : around.Nodup) {depth : Nat}
    {offence : Offence} (failed : value.toJsonAt depth = .error offence) :
    (offence = .circular ∧ ¬ value.Unrolled)
      ∨ (offence = .tooDeep ∧ depthBound + around.length ≤ depth + size)
      ∨ graph.Offends part offence := by
  have short : around.length ≤ size := length_le_of_nodup once
  induction unfolds generalizing depth with
  | simple stands =>
      rw [toJsonAt_of_isSimple stands depth 0] at failed
      exact .inr (.inr (.simple (.here _) failed))
  | met inside =>
      rw [Value.toJsonAt] at failed
      split at failed
      · exact .inl ⟨(Except.error.inj failed).symm, fun unrolled => unrolled.2 _ (.here _)⟩
      · exact .inr (.inl ⟨(Except.error.inj failed).symm, by omega⟩)
  | @container around number values apart same _ hypothesis =>
      rcases toJsonAt_fill_error failed with
        ⟨deep, bound⟩ | ⟨value, member, refused⟩ | ⟨entries, key, content, member, unnamed⟩
      · exact .inr (.inl ⟨deep, by omega⟩)
      · obtain ⟨inner, paired⟩ := exists_place same member
        have longer : (number :: around).Nodup := List.nodup_cons.mpr ⟨apart, once⟩
        rcases hypothesis _ paired longer refused (length_le_of_nodup longer) with
          ⟨circular, referring⟩ | ⟨deep, bound⟩ | offends
        · refine .inl ⟨circular, fun unrolled => referring ?_⟩
          exact (unrolled_fill_iff same).mp unrolled value member
        · rw [List.length_cons] at bound
          exact .inr (.inl ⟨deep, by omega⟩)
        · exact .inr (.inr (offends.within (List.of_mem_zip paired).1))
      · exact .inr (.inr (.key (.here _) content member unnamed))

/-- A place with a document has copies. -/
theorem copies_of_toJson {part : Part size} {document : Json}
    (found : graph.toJson part = .ok document) : ∃ value, graph.Copies part value := by
  obtain ⟨value, unfolds, _⟩ := exists_unfolds graph List.nodup_nil part
  rw [unfolds.toJson_eq] at found
  have writable := (Value.toJson_isOk_iff value).mp ⟨document, found⟩
  have unrolled := writable.supported.unrolled_iff.mpr writable.acyclic
  exact ⟨value, unfolds.copies_of_unrolled unrolled⟩

/-- **What keeps a place from having a document.**  It is a cycle that can be reached, or
an offence that can be reached, or there are enough containers to stand too deep inside
each other. -/
theorem toJson_error {part : Part size} {offence : Offence}
    (failed : graph.toJson part = .error offence) :
    (offence = .circular ∧ graph.Cyclic part)
      ∨ (offence = .tooDeep ∧ depthBound ≤ size)
      ∨ graph.Offends part offence := by
  obtain ⟨value, unfolds, _⟩ := exists_unfolds graph List.nodup_nil part
  rw [unfolds.toJson_eq] at failed
  rcases unfolds.toJsonAt_error List.nodup_nil failed with
    ⟨circular, referring⟩ | ⟨deep, bound⟩ | offends
  · refine .inl ⟨circular, ?_⟩
    by_contra acyclic
    obtain ⟨other, copies⟩ := (exists_copies_iff part).mpr acyclic
    exact referring (copies.unfolds.unique unfolds ▸ copies.unrolled)
  · rw [List.length_nil] at bound
    exact .inr (.inl ⟨deep, by omega⟩)
  · exact .inr (.inr offends)

/-- Where a cycle can be reached there is an offence. -/
theorem exists_offence_of_cyclic {part : Part size} (cyclic : graph.Cyclic part) :
    ∃ offence, graph.toJson part = .error offence := by
  cases outcome : graph.toJson part with
  | ok document => exact absurd cyclic ((exists_copies_iff part).mp (copies_of_toJson outcome))
  | error offence => exact ⟨offence, rfl⟩

/-- A cycle is what is found if nothing else can be. -/
theorem toJson_of_cyclic {part : Part size} (cyclic : graph.Cyclic part) (few : size < depthBound)
    (sound : ∀ offence, ¬ graph.Offends part offence) : graph.toJson part = .error .circular := by
  obtain ⟨offence, failed⟩ := exists_offence_of_cyclic cyclic
  rcases toJson_error failed with ⟨circular, _⟩ | ⟨_, many⟩ | offends
  · rw [failed, circular]
  · exact absurd few (Nat.not_lt.mpr many)
  · exact absurd offends (sound offence)

end ValueGraph

end Heartbeat
