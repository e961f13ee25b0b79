import Mathlib.Data.Fintype.Card
import Mathlib.Data.List.Zip
import Mathlib.Logic.Relation
import Heartbeat.Proofs.Value.Writable
import Heartbeat.Value.Graph

/-!
# Unfolding a graph

A graph is unfolded from one of its places on: a container is replaced by what is in
it, and a container that stands inside itself is not entered again but referred to
(`ValueGraph.Unfolds`).  Since containers are entered at most once on a way into the
graph, this comes to an end in every graph (`ValueGraph.exists_unfolds`), and the value
that it comes to is the only one (`ValueGraph.Unfolds.unique`).

Writing a graph is writing this value (`ValueGraph.Unfolds.toJson_eq`): what it keeps in
mind is the way from the first place to the present one, whatever was written before.
Where no cycle can be reached the value is the one in which every container has a copy
in each of its places (`ValueGraph.Copies`), and where one can be reached there are no
such copies.
-/

namespace Heartbeat

set_option autoImplicit false

variable {size : Nat}

namespace Container

/-- What stands in the places of a container. -/
def parts : Container size → List (Part size)
  | .list items | .tuple items => items
  | .dict entries => entries.map Prod.snd

/-- The value that a container is with the given values in its places. -/
def fill : Container size → List Value → Value
  | .list _, values => .list values
  | .tuple _, values => .tuple values
  | .dict entries, values => .dict ((entries.map Prod.fst).zip values)

/-- Whether references count a container. -/
def isCounted : Container size → Bool
  | .tuple _ => false
  | _ => true

end Container

namespace ValueGraph

variable (graph : ValueGraph size)

/-! ## Values of places -/

/-- What stands in a place is a value if every container is replaced by a copy of its
own in each of its places. -/
inductive Copies : Part size → Value → Prop where
  | simple {value : Value} (stands : value.isSimple = true) : Copies (.simple value stands) value
  | container {number : Fin size} {values : List Value}
      (same : values.length = (graph.container number).parts.length)
      (each : ∀ pair ∈ (graph.container number).parts.zip values, Copies pair.1 pair.2) :
      Copies (.container number) ((graph.container number).fill values)

/-- How many lists and dictionaries are left on the way out to a container. -/
def levelOf (number : Fin size) (around : List (Fin size)) : Nat :=
  (around.takeWhile fun other => decide (other ≠ number)).countP fun other =>
    (graph.container other).isCounted

/-- What stands in a place inside the given containers, from the inside, is a value if
every container is replaced by what is in it, except that a container around is referred
to. -/
inductive Unfolds : List (Fin size) → Part size → Value → Prop where
  | simple {around : List (Fin size)} {value : Value} (stands : value.isSimple = true) :
      Unfolds around (.simple value stands) value
  | met {around : List (Fin size)} {number : Fin size} (inside : number ∈ around) :
      Unfolds around (.container number) (.enclosing (graph.levelOf number around))
  | container {around : List (Fin size)} {number : Fin size} {values : List Value}
      (apart : number ∉ around) (same : values.length = (graph.container number).parts.length)
      (each : ∀ pair ∈ (graph.container number).parts.zip values,
        Unfolds (number :: around) pair.1 pair.2) :
      Unfolds around (.container number) ((graph.container number).fill values)

variable {graph}

/-! ## Places and values side by side -/

/-- What is true of every place for some value is true of all places for some values. -/
theorem exists_values {holds : Part size → Value → Prop} {parts : List (Part size)}
    (each : ∀ part ∈ parts, ∃ value, holds part value) :
    ∃ values : List Value, values.length = parts.length
      ∧ ∀ pair ∈ parts.zip values, holds pair.1 pair.2 := by
  induction parts with
  | nil => exact ⟨[], rfl, fun pair member => absurd member (by simp)⟩
  | cons part parts hypothesis =>
      obtain ⟨value, first⟩ := each part (List.mem_cons_self ..)
      obtain ⟨values, same, others⟩ :=
        hypothesis fun part inside => each part (List.mem_cons_of_mem _ inside)
      refine ⟨value :: values, by simp [same], ?_⟩
      intro pair member
      rcases List.mem_cons.mp member with rfl | later
      · exact first
      · exact others pair later

section Sides

variable {parts : List (Part size)} {values : List Value}
  (same : values.length = parts.length)

include same

/-- Every place has its value. -/
theorem exists_value {part : Part size} (inside : part ∈ parts) :
    ∃ value, (part, value) ∈ parts.zip values := by
  obtain ⟨index, short, rfl⟩ := List.getElem_of_mem inside
  have known : index < (parts.zip values).length := by simp [same, short]
  exact ⟨_, (List.getElem_zip (h := known)) ▸ List.getElem_mem known⟩

/-- Every value has its place. -/
theorem exists_place {value : Value} (inside : value ∈ values) :
    ∃ part, (part, value) ∈ parts.zip values := by
  obtain ⟨index, short, rfl⟩ := List.getElem_of_mem inside
  have known : index < (parts.zip values).length := by simp [← same, short]
  exact ⟨_, (List.getElem_zip (h := known)) ▸ List.getElem_mem known⟩

end Sides

/-- Where a place determines its value, the places determine their values. -/
theorem values_unique {holds : Part size → Value → Prop} {parts : List (Part size)}
    {values others : List Value} (same : values.length = parts.length)
    (also : others.length = parts.length)
    (unique : ∀ pair ∈ parts.zip values, ∀ other, holds pair.1 other → other = pair.2)
    (each : ∀ pair ∈ parts.zip others, holds pair.1 pair.2) : others = values := by
  induction parts generalizing values others with
  | nil => rw [List.length_eq_zero_iff.mp same, List.length_eq_zero_iff.mp also]
  | cons part parts hypothesis =>
      obtain ⟨value, values, rfl⟩ := List.exists_cons_of_length_eq_add_one same
      obtain ⟨other, others, rfl⟩ := List.exists_cons_of_length_eq_add_one also
      have first : other = value :=
        unique (part, value) (List.mem_cons_self ..) other
          (each (part, other) (List.mem_cons_self ..))
      have rest : others = values := by
        apply hypothesis (Nat.succ.inj same) (Nat.succ.inj also)
        · intro pair member
          exact unique pair (List.mem_cons_of_mem _ member)
        · intro pair member
          exact each pair (List.mem_cons_of_mem _ member)
      rw [first, rest]

/-! ## Uniqueness -/

/-- Copies are the same wherever they are made. -/
theorem Copies.unique {part : Part size} {value other : Value} (copies : graph.Copies part value)
    (again : graph.Copies part other) : other = value := by
  induction copies generalizing other with
  | simple stands =>
      cases again with
      | simple => rfl
  | container same _ hypothesis =>
      cases again with
      | container also each =>
          rw [values_unique same also (fun pair member _ => hypothesis pair member) each]

/-- A graph is unfolded in one way. -/
theorem Unfolds.unique {around : List (Fin size)} {part : Part size} {value other : Value}
    (unfolds : graph.Unfolds around part value) (again : graph.Unfolds around part other) :
    other = value := by
  induction unfolds generalizing other with
  | simple stands =>
      cases again with
      | simple => rfl
  | met inside =>
      cases again with
      | met => rfl
      | container apart => exact absurd inside apart
  | container apart same _ hypothesis =>
      cases again with
      | met inside => exact absurd inside apart
      | container _ also each =>
          rw [values_unique same also (fun pair member _ => hypothesis pair member) each]

/-! ## Existence -/

theorem nesting_of_isSimple {value : Value} (stands : value.isSimple = true) :
    value.nesting = 0 := by
  cases value with
  | list | tuple | dict | enclosing => cases stands
  | _ => rfl

/-- A container is nested one deeper than what is in its places. -/
theorem nesting_fill_le {container : Container size} {values : List Value} {bound : Nat}
    (each : ∀ value ∈ values, value.nesting ≤ bound) :
    (container.fill values).nesting ≤ bound + 1 := by
  cases container with
  | list items =>
      exact Nat.succ_le_succ ((Value.nestingOfItems_le_iff values bound).mpr each)
  | tuple items =>
      exact Nat.succ_le_succ ((Value.nestingOfItems_le_iff values bound).mpr each)
  | dict entries =>
      apply Nat.succ_le_succ
      apply (Value.nestingOfEntries_le_iff _ bound).mpr
      intro entry member
      exact each entry.2 (List.of_mem_zip member).2

/-- There are no more containers around than there are containers. -/
theorem length_le_of_nodup {around : List (Fin size)} (once : around.Nodup) :
    around.length ≤ size := by
  have count := once.length_le_card
  rwa [Fintype.card_fin] at count

/-- **Unfolding comes to an end.**  Inside the given containers it comes to a value whose
containers are nested no deeper than there are other containers, and one more for a
container that is referred to. -/
theorem exists_unfolds (graph : ValueGraph size) {around : List (Fin size)} (once : around.Nodup)
    (part : Part size) :
    ∃ value, graph.Unfolds around part value ∧ value.nesting + around.length ≤ size + 1 := by
  have short := length_le_of_nodup once
  cases part with
  | simple value stands =>
      refine ⟨value, .simple stands, ?_⟩
      rw [nesting_of_isSimple stands]
      omega
  | container number =>
      by_cases inside : number ∈ around
      · refine ⟨_, .met inside, ?_⟩
        rw [Value.nesting]
        omega
      · have longer : (number :: around).Nodup := List.nodup_cons.mpr ⟨inside, once⟩
        have fewer : around.length < size := length_le_of_nodup longer
        obtain ⟨values, same, each⟩ := exists_values fun part
          (_ : part ∈ (graph.container number).parts) => exists_unfolds graph longer part
        refine ⟨_, .container inside same fun pair member => (each pair member).1, ?_⟩
        have nested :
            ((graph.container number).fill values).nesting ≤ size - around.length + 1 := by
          apply nesting_fill_le
          intro value member
          obtain ⟨part, member⟩ := exists_place same member
          have deep : value.nesting + (number :: around).length ≤ size + 1 := (each _ member).2
          rw [List.length_cons] at deep
          omega
        omega
termination_by size - around.length

/-! ## Writing -/

/-- The document of a simple value does not depend on where it stands. -/
theorem toJsonAt_of_isSimple {value : Value} (stands : value.isSimple = true) (depth other : Nat) :
    value.toJsonAt depth = value.toJsonAt other := by
  cases value with
  | list | tuple | dict | enclosing => cases stands
  | double number => cases number <;> rfl
  | _ => simp only [Value.toJsonAt]

/-- A container stands too deep whatever is in it. -/
theorem toJsonAt_fill_of_le {depth : Nat} (deep : depthBound ≤ depth) (container : Container size)
    (values : List Value) : (container.fill values).toJsonAt depth = .error .tooDeep := by
  cases container <;> simp [Container.fill, Value.toJsonAt, Nat.not_lt.mpr deep]

/-- Writing has an outcome, and keeps in mind the containers around. -/
def Yields {result : Type} (around : List (Fin size)) (writing : Writing size result)
    (outcome : Except Offence result) : Prop :=
  writing.run around = do return (← outcome, around)

section Rules

variable {result next : Type} {around : List (Fin size)} {number : Fin size}
  {writing : Writing size result} {outcome : Except Offence result}

theorem Yields.pure (found : result) : Yields around (pure found) (.ok found) := rfl

theorem Yields.lift (outcome : Except Offence result) :
    Yields around (liftM outcome : Writing size result) outcome := rfl

/-- What is written next depends on what was found only. -/
theorem Yields.bind (first : Yields around writing outcome) {further : result → Writing size next}
    {further_outcome : result → Except Offence next}
    (second : ∀ found, Yields around (further found) (further_outcome found)) :
    Yields around (writing >>= further) (outcome >>= further_outcome) := by
  rw [Yields] at first
  simp only [Yields] at second
  simp only [Yields, StateT.run_bind, first, bind_assoc, pure_bind, second]

theorem Yields.map (build : result → next) (yields : Yields around writing outcome) :
    Yields around (build <$> writing) (build <$> outcome) := by
  rw [map_eq_pure_bind, map_eq_pure_bind]
  exact yields.bind fun found => .pure (build found)

/-- A container that is being written is not entered. -/
theorem run_enter_of_mem (inside : number ∈ around) :
    (enter number).run around = throw .circular := by
  have known : around.contains number = true := List.contains_iff_mem.mpr inside
  rw [enter, StateT.run_bind, StateT.run_get, pure_bind, known]
  rfl

theorem run_enter_of_notMem (apart : number ∉ around) :
    (enter number).run around = pure ((), number :: around) := by
  have unknown : around.contains number = false := by
    rwa [Bool.eq_false_iff, ne_eq, List.contains_iff_mem]
  rw [enter, StateT.run_bind, StateT.run_get, pure_bind, unknown]
  rfl

/-- What was entered last is left, and nothing else. -/
theorem run_leave (number : Fin size) (around : List (Fin size)) :
    (leave number).run (number :: around) = pure ((), around) := by
  rw [leave, StateT.run_modify, List.erase_cons_head]

/-- What is written between entering a container and leaving it has the container in
mind, and what is written afterwards has not. -/
theorem Yields.within (apart : number ∉ around)
    (inner : Yields (number :: around) writing outcome) :
    Yields around (do
      enter number
      let found ← writing
      leave number
      return found) outcome := by
  rw [Yields] at inner
  simp only [Yields, StateT.run_bind, StateT.run_pure, run_enter_of_notMem apart, pure_bind, inner,
    bind_assoc, run_leave]

end Rules

section Places

variable {left depth : Nat} {around : List (Fin size)}

/-- Items are written one by one. -/
theorem yields_items {items : List (Part size)} {values : List Value}
    (same : values.length = items.length)
    (each : ∀ pair ∈ items.zip values,
      Yields around (graph.write left pair.1) (pair.2.toJsonAt depth)) :
    Yields around (items.mapM (graph.write left)) (Value.itemsToJson depth values) := by
  induction items generalizing values with
  | nil =>
      rw [List.length_eq_zero_iff.mp same]
      exact .pure []
  | cons item items hypothesis =>
      obtain ⟨value, values, rfl⟩ := List.exists_cons_of_length_eq_add_one same
      rw [List.mapM_cons, Value.itemsToJson]
      apply Yields.bind (each (item, value) (List.mem_cons_self ..))
      intro document
      apply Yields.bind
      · apply hypothesis (Nat.succ.inj same)
        intro pair inside
        exact each pair (List.mem_cons_of_mem _ inside)
      · intro documents
        exact .pure (document :: documents)

/-- Entries are written one by one, a key before its value. -/
theorem yields_entries {entries : List (Value × Part size)} {values : List Value}
    (same : values.length = entries.length)
    (each : ∀ pair ∈ (entries.map Prod.snd).zip values,
      Yields around (graph.write left pair.1) (pair.2.toJsonAt depth)) :
    Yields around
      (entries.mapM fun (key, part) => do
        let name ← liftM key.keyName
        let document ← graph.write left part
        return (name, document))
      (Value.entriesToJson depth ((entries.map Prod.fst).zip values)) := by
  induction entries generalizing values with
  | nil =>
      rw [List.length_eq_zero_iff.mp same]
      exact .pure []
  | cons entry entries hypothesis =>
      obtain ⟨value, values, rfl⟩ := List.exists_cons_of_length_eq_add_one same
      obtain ⟨key, part⟩ := entry
      rw [List.mapM_cons, List.map_cons, List.zip_cons_cons, Value.entriesToJson, bind_assoc]
      apply Yields.bind (.lift key.keyName)
      intro name
      rw [bind_assoc]
      apply Yields.bind (each (part, value) (List.mem_cons_self ..))
      intro document
      rw [pure_bind]
      apply Yields.bind
      · apply hypothesis (Nat.succ.inj same)
        intro pair inside
        exact each pair (List.mem_cons_of_mem _ inside)
      · intro members
        exact .pure ((name, document) :: members)

/-- The content of a container is written one deeper. -/
theorem yields_fill {number : Fin size} {values : List Value} (shallow : depth < depthBound)
    (apart : number ∉ around)
    (same : values.length = (graph.container number).parts.length)
    (each : ∀ pair ∈ (graph.container number).parts.zip values,
      Yields (number :: around) (graph.write left pair.1) (pair.2.toJsonAt (depth + 1))) :
    Yields around (graph.write (left + 1) (.container number))
      (((graph.container number).fill values).toJsonAt depth) := by
  rw [write]
  cases content : graph.container number with
  | list items =>
      rw [content] at same each
      rw [Container.fill, Value.toJsonAt, if_pos shallow]
      apply Yields.within apart
      apply Yields.map
      exact yields_items same each
  | tuple items =>
      rw [content] at same each
      rw [Container.fill, Value.toJsonAt, if_pos shallow]
      apply Yields.within apart
      apply Yields.map
      exact yields_items same each
  | dict entries =>
      rw [content, Container.parts] at same each
      rw [Container.fill, Value.toJsonAt, if_pos shallow]
      apply Yields.within apart
      apply Yields.map
      exact yields_entries (same.trans (List.length_map ..)) each

end Places

/-- Entering a container that is not being written, and leaving it after something that
left everything as it was. -/
theorem Unfolds.yields {around : List (Fin size)} {part : Part size} {value : Value}
    (unfolds : graph.Unfolds around part value) {left depth : Nat}
    (total : depth + left = depthBound) :
    Yields around (graph.write left part) (value.toJsonAt depth) := by
  induction unfolds generalizing left depth with
  | simple stands =>
      rw [toJsonAt_of_isSimple stands depth 0]
      cases left <;> exact .lift _
  | @met around number inside =>
      cases left with
      | zero =>
          have deep : ¬ depth < depthBound := by omega
          rw [Value.toJsonAt, if_neg deep]
          rfl
      | succ left =>
          have shallow : depth < depthBound := by omega
          rw [Value.toJsonAt, if_pos shallow, Yields, write, StateT.run_bind,
            run_enter_of_mem inside]
          rfl
  | container apart same _ hypothesis =>
      cases left with
      | zero =>
          rw [toJsonAt_fill_of_le (by omega)]
          rfl
      | succ left =>
          apply yields_fill (by omega) apart same
          intro pair member
          exact hypothesis pair member (by omega)

/-- **A graph is written like the value that it unfolds to.** -/
theorem Unfolds.toJson_eq {part : Part size} {value : Value}
    (unfolds : graph.Unfolds [] part value) : graph.toJson part = value.toJson := by
  have yields := unfolds.yields (Nat.zero_add depthBound)
  rw [Yields] at yields
  simp only [toJson, StateT.run'_eq, yields, Value.toJson, map_eq_pure_bind, bind_assoc, pure_bind,
    bind_pure]

end ValueGraph

end Heartbeat
