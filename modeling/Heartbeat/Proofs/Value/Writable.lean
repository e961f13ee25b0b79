import Heartbeat.Proofs.Number.Digits
import Heartbeat.Proofs.Value.Display
import Heartbeat.Record.Encode

/-!
# Values that have a document

Whether a value has a document is decided here without writing one.  Three things
are asked of it, each on its own:

* it is built from what the format knows, that is from short integers, finite
  doubles, texts, outcomes, truth values, nothing, sequences, and dictionaries whose
  keys have a name (`Value.Supported`);
* no list and no dictionary in it contains itself (`Value.Circular`);
* its containers do not stand too deep inside each other (`Value.nesting`).

A value has a document if and only if all three hold (`Value.toJson_isOk_iff`).
-/

namespace Heartbeat

set_option autoImplicit false

/-! ## Short integers -/

/-- The length of the decimal form says between which powers of ten a number lies. -/
theorem Text.length_ofNat_le_iff {count : Nat} (positive : 0 < count) (number : Nat) :
    (Text.ofNat number).length ≤ count ↔ number < Nat.pow 10 count := by
  rw [Nat.pow_eq]
  induction number using Nat.strongRecOn generalizing count with
  | ind number hypothesis =>
      rcases Nat.lt_or_ge number 10 with small | large
      · rw [Text.ofNat_of_lt_ten small, List.length_singleton]
        have power : 10 ^ 1 ≤ 10 ^ count := Nat.pow_le_pow_right (by decide) positive
        exact ⟨fun _ => by omega, fun _ => positive⟩
      · obtain ⟨fewer, rfl⟩ : ∃ fewer, count = fewer + 1 := ⟨count - 1, by omega⟩
        rw [Text.ofNat_of_ten_le large, List.length_append, List.length_singleton,
          Nat.add_le_add_iff_right, Nat.pow_succ, ← Nat.div_lt_iff_lt_mul (by decide)]
        rcases Nat.eq_zero_or_pos fewer with rfl | some_left
        · have nonempty := List.length_pos_iff.mpr (Text.ofNat_ne_nil (number / 10))
          have tens : 1 ≤ number / 10 := by omega
          rw [Nat.pow_zero]
          omega
        · exact hypothesis (number / 10) (by omega) some_left

/-- An integer of at most 4300 decimal digits. -/
def Short (number : Int) : Prop := (Text.ofNat number.natAbs).length ≤ 4300

theorem isWritable_iff (number : Int) : isWritable number = true ↔ Short number := by
  -- Behind a name the limit is not counted out.
  obtain ⟨limit, is_limit, bound⟩ : ∃ limit, limit = 4300 ∧ digitBound = Nat.pow 10 limit :=
    ⟨4300, rfl, by unfold digitBound; rfl⟩
  rw [isWritable, decide_eq_true_iff, bound, ← Text.length_ofNat_le_iff (by omega), is_limit,
    Short]

namespace Value

/-! ## Containers -/

/-- Whether a value holds others for the format: a sequence or a dictionary. -/
def isContainer : Value → Bool
  | .list _ | .tuple _ | .dict _ => true
  | _ => false

/-- What holds of all values that are no containers, and of a container if it holds
of the values in it, holds of every value. -/
@[elab_as_elim]
theorem containerInduction {motive : Value → Prop}
    (simple : ∀ value : Value, value.isContainer = false → motive value)
    (list : ∀ items, (∀ item ∈ items, motive item) → motive (.list items))
    (tuple : ∀ items, (∀ item ∈ items, motive item) → motive (.tuple items))
    (dict : ∀ entries, (∀ entry ∈ entries, motive entry.2) → motive (.dict entries))
    (value : Value) : motive value := by
  match value with
  | .list items =>
      refine list items fun item inside => ?_
      have smaller := List.sizeOf_lt_of_mem inside
      exact containerInduction simple list tuple dict item
  | .tuple items =>
      refine tuple items fun item inside => ?_
      have smaller := List.sizeOf_lt_of_mem inside
      exact containerInduction simple list tuple dict item
  | .dict entries =>
      refine dict entries fun (key, value) inside => ?_
      have smaller := List.sizeOf_lt_of_mem inside
      exact containerInduction simple list tuple dict value
  | .null | .bool _ | .int _ | .double _ | .text _ | .status _ | .command .. | .foreign _
  | .enclosing _ => exact simple _ rfl
termination_by sizeOf value
decreasing_by
  · simp only [Value.list.sizeOf_spec]
    omega
  · simp only [Value.tuple.sizeOf_spec]
    omega
  · simp only [Value.dict.sizeOf_spec]
    simp only [Prod.mk.sizeOf_spec] at smaller
    omega

/-! ## What is asked of a value -/

/-- The keys that have a name. -/
inductive Nameable : Value → Prop where
  | text (content : Text) : Nameable (.text content)
  | status (outcome : Status) : Nameable (.status outcome)
  | null : Nameable .null
  | bool (value : Bool) : Nameable (.bool value)
  | int {number : Int} (short : Short number) : Nameable (.int number)
  | double (number : FiniteDouble) : Nameable (.double (.finite number))

/-- A value that stands inside `around` lists and dictionaries is built from what the
format knows.  A reference to one of these is known, since it is that list or that
dictionary; a reference beyond them is nothing. -/
inductive Supported : Nat → Value → Prop where
  | null (around : Nat) : Supported around .null
  | bool (around : Nat) (value : Bool) : Supported around (.bool value)
  | int (around : Nat) {number : Int} (short : Short number) : Supported around (.int number)
  | double (around : Nat) (number : FiniteDouble) : Supported around (.double (.finite number))
  | text (around : Nat) (content : Text) : Supported around (.text content)
  | status (around : Nat) (outcome : Status) : Supported around (.status outcome)
  | list {around : Nat} {items : List Value} (each : ∀ item ∈ items, Supported (around + 1) item) :
      Supported around (.list items)
  | tuple {around : Nat} {items : List Value} (each : ∀ item ∈ items, Supported around item) :
      Supported around (.tuple items)
  | dict {around : Nat} {entries : List (Value × Value)}
      (named : ∀ entry ∈ entries, Nameable entry.1)
      (each : ∀ entry ∈ entries, Supported (around + 1) entry.2) : Supported around (.dict entries)
  | enclosing {around level : Nat} (inside : level < around) : Supported around (.enclosing level)

section Containers

variable {around : Nat} {items : List Value} {entries : List (Value × Value)}

theorem supported_list_iff :
    Supported around (.list items) ↔ ∀ item ∈ items, Supported (around + 1) item := by
  constructor
  · intro supported
    cases supported with
    | list each => exact each
  · exact .list

theorem supported_tuple_iff :
    Supported around (.tuple items) ↔ ∀ item ∈ items, Supported around item := by
  constructor
  · intro supported
    cases supported with
    | tuple each => exact each
  · exact .tuple

theorem supported_dict_iff : Supported around (.dict entries)
    ↔ (∀ entry ∈ entries, Nameable entry.1) ∧ ∀ entry ∈ entries, Supported (around + 1) entry.2 := by
  constructor
  · intro supported
    cases supported with
    | dict named each => exact ⟨named, each⟩
  · rintro ⟨named, each⟩
    exact .dict named each

end Containers

/-- Somewhere in a value there is the list or dictionary that stands `level` levels
out of the value. -/
inductive RefersTo : Value → Nat → Prop where
  | here (level : Nat) : RefersTo (.enclosing level) level
  | list {items : List Value} {item : Value} {level : Nat} (member : item ∈ items)
      (refers : RefersTo item (level + 1)) : RefersTo (.list items) level
  | tuple {items : List Value} {item : Value} {level : Nat} (member : item ∈ items)
      (refers : RefersTo item level) : RefersTo (.tuple items) level
  | dict {entries : List (Value × Value)} {entry : Value × Value} {level : Nat}
      (member : entry ∈ entries) (refers : RefersTo entry.2 (level + 1)) :
      RefersTo (.dict entries) level

/-- A list or a dictionary in a value, or the value itself, contains itself, directly or
through other containers. -/
inductive Circular : Value → Prop where
  | list {items : List Value} {item : Value} (member : item ∈ items) (refers : RefersTo item 0) :
      Circular (.list items)
  | dict {entries : List (Value × Value)} {entry : Value × Value} (member : entry ∈ entries)
      (refers : RefersTo entry.2 0) : Circular (.dict entries)
  | inList {items : List Value} {item : Value} (member : item ∈ items) (circular : Circular item) :
      Circular (.list items)
  | inTuple {items : List Value} {item : Value} (member : item ∈ items)
      (circular : Circular item) : Circular (.tuple items)
  | inDict {entries : List (Value × Value)} {entry : Value × Value} (member : entry ∈ entries)
      (circular : Circular entry.2) : Circular (.dict entries)

mutual

/-- How many containers stand inside each other on the deepest way into a value.  A
container that is met again counts, and what is in it does not. -/
def nesting : Value → Nat
  | .list items => nestingOfItems items + 1
  | .tuple items => nestingOfItems items + 1
  | .dict entries => nestingOfEntries entries + 1
  | .enclosing _ => 1
  | _ => 0

/-- The deepest nesting among items. -/
def nestingOfItems : List Value → Nat
  | [] => 0
  | item :: items => max (nesting item) (nestingOfItems items)

/-- The deepest nesting among the values of entries. -/
def nestingOfEntries : List (Value × Value) → Nat
  | [] => 0
  | (_, value) :: entries => max (nesting value) (nestingOfEntries entries)

end

/-- A value has a document: all that is asked of it holds. -/
structure Writable (value : Value) : Prop where
  supported : Supported 0 value
  acyclic : ¬ Circular value
  shallow : value.nesting ≤ depthBound

/-! ## References -/

/-- A supported value refers only to what stands around it. -/
theorem Supported.lt_of_refersTo {around level : Nat} {value : Value}
    (supported : Supported around value) (refers : RefersTo value level) : level < around := by
  induction refers generalizing around with
  | here level =>
      cases supported with
      | enclosing inside => exact inside
  | list member _ hypothesis =>
      cases supported with
      | list each => exact Nat.lt_of_succ_lt_succ (hypothesis (each _ member))
  | tuple member _ hypothesis =>
      cases supported with
      | tuple each => exact hypothesis (each _ member)
  | dict member _ hypothesis =>
      cases supported with
      | dict named each => exact Nat.lt_of_succ_lt_succ (hypothesis (each _ member))

/-- A value without references: neither to what is in it nor to what is around it. -/
def Unrolled (value : Value) : Prop := ¬ Circular value ∧ ∀ level, ¬ RefersTo value level

theorem unrolled_of_not_isContainer {value : Value} (simple : value.isContainer = false)
    (direct : ∀ level, value ≠ .enclosing level) : Unrolled value := by
  constructor
  · intro circular
    cases circular <;> cases simple
  · intro level refers
    cases refers with
    | here => exact direct level rfl
    | list | tuple | dict => cases simple

theorem unrolled_list_iff (items : List Value) :
    Unrolled (.list items) ↔ ∀ item ∈ items, Unrolled item := by
  constructor
  · rintro ⟨acyclic, apart⟩ item member
    refine ⟨fun circular => acyclic (.inList member circular), fun level refers => ?_⟩
    cases level with
    | zero => exact acyclic (.list member refers)
    | succ level => exact apart level (.list member refers)
  · intro each
    constructor
    · intro circular
      cases circular with
      | list member refers => exact (each _ member).2 0 refers
      | inList member circular => exact (each _ member).1 circular
    · intro level refers
      cases refers with
      | list member refers => exact (each _ member).2 _ refers

theorem unrolled_tuple_iff (items : List Value) :
    Unrolled (.tuple items) ↔ ∀ item ∈ items, Unrolled item := by
  constructor
  · rintro ⟨acyclic, apart⟩ item member
    exact ⟨fun circular => acyclic (.inTuple member circular),
      fun level refers => apart level (.tuple member refers)⟩
  · intro each
    constructor
    · intro circular
      cases circular with
      | inTuple member circular => exact (each _ member).1 circular
    · intro level refers
      cases refers with
      | tuple member refers => exact (each _ member).2 _ refers

theorem unrolled_dict_iff (entries : List (Value × Value)) :
    Unrolled (.dict entries) ↔ ∀ entry ∈ entries, Unrolled entry.2 := by
  constructor
  · rintro ⟨acyclic, apart⟩ entry member
    refine ⟨fun circular => acyclic (.inDict member circular), fun level refers => ?_⟩
    cases level with
    | zero => exact acyclic (.dict member refers)
    | succ level => exact apart level (.dict member refers)
  · intro each
    constructor
    · intro circular
      cases circular with
      | dict member refers => exact (each _ member).2 0 refers
      | inDict member circular => exact (each _ member).1 circular
    · intro level refers
      cases refers with
      | dict member refers => exact (each _ member).2 _ refers

/-- Where nothing stands around a supported value, it is its containers that keep it
from being without references. -/
theorem Supported.unrolled_iff {value : Value} (supported : Supported 0 value) :
    Unrolled value ↔ ¬ Circular value :=
  ⟨And.left, fun acyclic =>
    ⟨acyclic, fun _ refers => Nat.not_lt_zero _ (supported.lt_of_refersTo refers)⟩⟩

/-! ## Nesting -/

theorem nestingOfItems_le_iff (items : List Value) (bound : Nat) :
    nestingOfItems items ≤ bound ↔ ∀ item ∈ items, item.nesting ≤ bound := by
  induction items with
  | nil => simp [nestingOfItems]
  | cons item items hypothesis =>
      rw [nestingOfItems, Nat.max_le, hypothesis, List.forall_mem_cons]

theorem nestingOfEntries_le_iff (entries : List (Value × Value)) (bound : Nat) :
    nestingOfEntries entries ≤ bound ↔ ∀ entry ∈ entries, entry.2.nesting ≤ bound := by
  induction entries with
  | nil => simp [nestingOfEntries]
  | cons entry entries hypothesis =>
      rw [nestingOfEntries, Nat.max_le, hypothesis, List.forall_mem_cons]

/-- What a container adds to the nesting of what is in it. -/
theorem add_succ_le_iff (depth inner bound : Nat) :
    depth + (inner + 1) ≤ bound ↔ depth < bound ∧ inner ≤ bound - (depth + 1) := by omega

/-! ## Documents -/

/-- A key has a name exactly if it can be a name. -/
theorem keyName_isOk_iff (key : Value) : (∃ name, key.keyName = .ok name) ↔ Nameable key := by
  constructor
  · rintro ⟨name, found⟩
    cases key with
    | null => exact .null
    | bool value => exact .bool value
    | int number =>
        rw [keyName] at found
        split at found
        · next writable => exact .int ((isWritable_iff number).mp writable)
        · cases found
    | double number =>
        cases number with
        | finite number => exact .double number
        | infinite negative => cases found
        | nan => cases found
    | text content => exact .text content
    | status outcome => exact .status outcome
    | _ => cases found
  · intro nameable
    cases nameable with
    | int short =>
        rw [keyName, if_pos ((isWritable_iff _).mpr short)]
        exact ⟨_, rfl⟩
    | _ => exact ⟨_, rfl⟩

/-- Items have documents if each of them has one. -/
theorem itemsToJson_isOk_iff (depth : Nat) (items : List Value) :
    (∃ documents, itemsToJson depth items = .ok documents)
      ↔ ∀ item ∈ items, ∃ document, toJsonAt depth item = .ok document := by
  induction items with
  | nil => exact ⟨fun _ _ member => absurd member List.not_mem_nil, fun _ => ⟨[], rfl⟩⟩
  | cons item items hypothesis =>
      rw [List.forall_mem_cons, ← hypothesis, itemsToJson]
      constructor
      · rintro ⟨documents, found⟩
        obtain ⟨document, first, found⟩ := eq_ok_of_bind found
        obtain ⟨others, rest, _⟩ := eq_ok_of_bind found
        exact ⟨⟨document, first⟩, others, rest⟩
      · rintro ⟨⟨document, first⟩, documents, others⟩
        rw [first, others]
        exact ⟨_, rfl⟩

/-- Entries have members if each key has a name and each value a document. -/
theorem entriesToJson_isOk_iff (depth : Nat) (entries : List (Value × Value)) :
    (∃ members, entriesToJson depth entries = .ok members)
      ↔ (∀ entry ∈ entries, Nameable entry.1)
        ∧ ∀ entry ∈ entries, ∃ document, toJsonAt depth entry.2 = .ok document := by
  induction entries with
  | nil =>
      exact ⟨fun _ => ⟨fun _ member => absurd member List.not_mem_nil,
        fun _ member => absurd member List.not_mem_nil⟩, fun _ => ⟨[], rfl⟩⟩
  | cons entry entries hypothesis =>
      obtain ⟨key, value⟩ := entry
      rw [List.forall_mem_cons, List.forall_mem_cons, entriesToJson]
      constructor
      · rintro ⟨members, found⟩
        obtain ⟨name, named, found⟩ := eq_ok_of_bind found
        obtain ⟨document, first, found⟩ := eq_ok_of_bind found
        obtain ⟨others, rest, _⟩ := eq_ok_of_bind found
        obtain ⟨nameable, each⟩ := hypothesis.mp ⟨others, rest⟩
        exact ⟨⟨(keyName_isOk_iff key).mp ⟨name, named⟩, nameable⟩, ⟨document, first⟩, each⟩
      · rintro ⟨⟨nameable, named⟩, ⟨document, first⟩, each⟩
        obtain ⟨name, is_named⟩ := (keyName_isOk_iff key).mpr nameable
        obtain ⟨members, rest⟩ := hypothesis.mpr ⟨named, each⟩
        rw [is_named, first, rest]
        exact ⟨_, rfl⟩

/-- A container has a document if it does not stand too deep and its content has one. -/
theorem isOk_within {inner : Type} {depth : Nat} {content : Except Offence inner}
    {build : inner → Json} :
    (∃ document, (if depth < depthBound then content >>= fun found => pure (build found)
        else .error .tooDeep) = Except.ok document)
      ↔ depth < depthBound ∧ ∃ found, content = .ok found := by
  constructor
  · rintro ⟨document, found⟩
    split at found
    · next shallow =>
        obtain ⟨inside, is_content, _⟩ := eq_ok_of_bind found
        exact ⟨shallow, inside, is_content⟩
    · cases found
  · rintro ⟨shallow, found, rfl⟩
    exact ⟨build found, if_pos shallow⟩

/-- What is in a container has documents if it is supported, without references and not
nested too deeply. -/
theorem content_isOk_iff {member : Type} (members : List member) (part : member → Value)
    (inner depth : Nat)
    (each : depth < depthBound → ∀ item ∈ members,
      ((∃ document, toJsonAt (depth + 1) (part item) = .ok document)
        ↔ Supported inner (part item) ∧ Unrolled (part item)
          ∧ depth + 1 + (part item).nesting ≤ depthBound)) :
    (depth < depthBound
        ∧ ∀ item ∈ members, ∃ document, toJsonAt (depth + 1) (part item) = .ok document)
      ↔ (∀ item ∈ members, Supported inner (part item))
        ∧ (∀ item ∈ members, Unrolled (part item))
        ∧ depth < depthBound
        ∧ ∀ item ∈ members, (part item).nesting ≤ depthBound - (depth + 1) := by
  constructor
  · rintro ⟨shallow, found⟩
    have known := fun item inside => (each shallow item inside).mp (found item inside)
    refine ⟨fun item inside => (known item inside).1, fun item inside => (known item inside).2.1,
      shallow, fun item inside => ?_⟩
    have nested := (known item inside).2.2
    omega
  · rintro ⟨supported, unrolled, shallow, nested⟩
    refine ⟨shallow, fun item inside => ?_⟩
    refine (each shallow item inside).mpr ⟨supported item inside, unrolled item inside, ?_⟩
    have flat := nested item inside
    omega

theorem toJsonAt_isOk_iff (value : Value) (around : Nat) {depth : Nat}
    (shallow : depth ≤ depthBound) :
    (∃ document, toJsonAt depth value = .ok document)
      ↔ Supported around value ∧ Unrolled value ∧ depth + value.nesting ≤ depthBound := by
  induction value using containerInduction generalizing around depth with
  | simple value simple =>
      have accepted : Supported around value → value.nesting = 0 →
          (∀ level, value ≠ .enclosing level) →
          Supported around value ∧ Unrolled value ∧ depth + value.nesting ≤ depthBound := by
        intro supported flat direct
        rw [flat]
        exact ⟨supported, unrolled_of_not_isContainer simple direct, shallow⟩
      cases value with
      | null => exact ⟨fun _ => accepted (.null _) rfl (by rintro _ ⟨⟩), fun _ => ⟨_, rfl⟩⟩
      | bool flag => exact ⟨fun _ => accepted (.bool _ _) rfl (by rintro _ ⟨⟩), fun _ => ⟨_, rfl⟩⟩
      | int number =>
          rw [toJsonAt]
          constructor
          · rintro ⟨document, found⟩
            split at found
            · next writable =>
                exact accepted (.int _ ((isWritable_iff number).mp writable)) rfl (by rintro _ ⟨⟩)
            · cases found
          · rintro ⟨supported, _⟩
            cases supported with
            | int _ short =>
                rw [if_pos ((isWritable_iff number).mpr short)]
                exact ⟨_, rfl⟩
      | double number =>
          cases number with
          | finite number =>
              exact ⟨fun _ => accepted (.double _ _) rfl (by rintro _ ⟨⟩), fun _ => ⟨_, rfl⟩⟩
          | infinite negative => exact ⟨by rintro ⟨_, ⟨⟩⟩, by rintro ⟨⟨⟩, _⟩⟩
          | nan => exact ⟨by rintro ⟨_, ⟨⟩⟩, by rintro ⟨⟨⟩, _⟩⟩
      | text content => exact ⟨fun _ => accepted (.text _ _) rfl (by rintro _ ⟨⟩), fun _ => ⟨_, rfl⟩⟩
      | status outcome =>
          exact ⟨fun _ => accepted (.status _ _) rfl (by rintro _ ⟨⟩), fun _ => ⟨_, rfl⟩⟩
      | command name context source outcome => exact ⟨by rintro ⟨_, ⟨⟩⟩, by rintro ⟨⟨⟩, _⟩⟩
      | foreign name => exact ⟨by rintro ⟨_, ⟨⟩⟩, by rintro ⟨⟨⟩, _⟩⟩
      | enclosing level =>
          rw [toJsonAt]
          constructor
          · rintro ⟨document, found⟩
            split at found <;> cases found
          · rintro ⟨_, unrolled, _⟩
            exact absurd (.here level) (unrolled.2 level)
      | list | tuple | dict => cases simple
  | list items each =>
      rw [toJsonAt, isOk_within, itemsToJson_isOk_iff, supported_list_iff, unrolled_list_iff, nesting,
        add_succ_le_iff, nestingOfItems_le_iff]
      exact content_isOk_iff items (fun item => item) (around + 1) depth
        fun shallow item inside => each item inside (around + 1) shallow
  | tuple items each =>
      rw [toJsonAt, isOk_within, itemsToJson_isOk_iff, supported_tuple_iff, unrolled_tuple_iff,
        nesting, add_succ_le_iff, nestingOfItems_le_iff]
      exact content_isOk_iff items (fun item => item) around depth
        fun shallow item inside => each item inside around shallow
  | dict entries each =>
      have content := content_isOk_iff entries Prod.snd (around + 1) depth
        fun shallow entry inside => each entry inside (around + 1) shallow
      rw [toJsonAt, isOk_within, entriesToJson_isOk_iff, supported_dict_iff, unrolled_dict_iff,
        nesting, add_succ_le_iff, nestingOfEntries_le_iff, and_left_comm, content, and_assoc]

/-- **A value has a document if and only if all that is asked of it holds.** -/
theorem toJson_isOk_iff (value : Value) :
    (∃ document, value.toJson = .ok document) ↔ value.Writable := by
  rw [toJson, toJsonAt_isOk_iff value 0 (Nat.zero_le _), Nat.zero_add]
  constructor
  · rintro ⟨supported, unrolled, shallow⟩
    exact ⟨supported, supported.unrolled_iff.mp unrolled, shallow⟩
  · rintro ⟨supported, acyclic, shallow⟩
    exact ⟨supported, supported.unrolled_iff.mpr acyclic, shallow⟩

end Value

end Heartbeat
