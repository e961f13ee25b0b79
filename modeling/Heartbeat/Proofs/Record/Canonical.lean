import Heartbeat.Proofs.Record.Acceptance

/-!
# The canonical form is stable

Bytes are decoded by reading them as JSON and taking arrays for lists and objects for
dictionaries (`Record.decode?`).  A dictionary has one entry for a name, so nothing is lost
on the way if the keys of the record have different texts (`Value.DistinctKeys`).

The decoded value is another one than what was encoded: tuples have become lists, outcomes
texts, and keys of any kind texts.  It has the same document though
(`Value.toJsonAt_toValue`), so encoding it gives the same bytes again
(`Record.encode_stable`).
-/

namespace Heartbeat

set_option autoImplicit false

/-! ## Decoding -/

namespace Json

/-- The entries of a dictionary with one more.  A name that is there already keeps its place
and has the new value. -/
def enter (name : Text) (value : Value) : List (Text × Value) → List (Text × Value)
  | [] => [(name, value)]
  | (candidate, former) :: others =>
    if candidate = name then (candidate, value) :: others
    else (candidate, former) :: enter name value others

/-- The entries of a dictionary into which members are put one after the other. -/
def gather (members : List (Text × Value)) : List (Value × Value) :=
  (members.foldl (fun entries member => enter member.1 member.2 entries) []).map
    fun (name, value) => (.text name, value)

mutual
/-- The value that a document is decoded to. -/
def toValue : Json → Value
  | .null => .null
  | .bool value => .bool value
  | .int number => .int number
  | .double number => .double (.finite number)
  | .string content => .text content
  | .array items => .list (itemsToValues items)
  | .object members => .dict (gather (membersToValues members))

/-- The values that the items of an array are decoded to. -/
def itemsToValues : List Json → List Value
  | [] => []
  | item :: items => item.toValue :: itemsToValues items

/-- The values that the members of an object are decoded to, with their names. -/
def membersToValues : List (Text × Json) → List (Text × Value)
  | [] => []
  | (name, value) :: members => (name, value.toValue) :: membersToValues members
end

variable {name : Text} {value : Value} {entries members : List (Text × Value)}

theorem enter_of_notMem (other : name ∉ entries.map Prod.fst) :
    enter name value entries = entries ++ [(name, value)] := by
  induction entries with
  | nil => rfl
  | cons entry entries hypothesis =>
      rw [List.map_cons, List.mem_cons, not_or] at other
      rw [enter, if_neg (Ne.symm other.1), hypothesis other.2, List.cons_append]

/-- Members with different names are all in the dictionary, in their order. -/
theorem foldl_enter (distinct : ((entries ++ members).map Prod.fst).Nodup) :
    members.foldl (fun entries member => enter member.1 member.2 entries) entries
      = entries ++ members := by
  induction members generalizing entries with
  | nil => rw [List.foldl_nil, List.append_nil]
  | cons member members hypothesis =>
      obtain ⟨name, value⟩ := member
      have other : name ∉ entries.map Prod.fst := by
        rw [List.map_append, List.map_cons, List.nodup_append] at distinct
        intro inside
        exact distinct.2.2 name inside name (List.mem_cons_self ..) rfl
      have joined : entries ++ (name, value) :: members
          = entries ++ [(name, value)] ++ members := by
        rw [List.append_assoc, List.singleton_append]
      rw [List.foldl_cons, enter_of_notMem other, joined]
      rw [joined] at distinct
      exact hypothesis distinct

theorem gather_of_nodup (distinct : (members.map Prod.fst).Nodup) :
    gather members = members.map fun (name, value) => (.text name, value) := by
  have all : members.foldl (fun entries member => enter member.1 member.2 entries) [] = members :=
    foldl_enter distinct
  rw [gather, all]

theorem names_membersToValues (members : List (Text × Json)) :
    (membersToValues members).map Prod.fst = members.map Prod.fst := by
  induction members with
  | nil => rfl
  | cons member members hypothesis =>
      rw [membersToValues, List.map_cons, hypothesis, List.map_cons]

end Json

/-- The value that bytes are decoded to, if they are JSON. -/
def Record.decode? (bytes : Bytes) : Option Value := do
  let text ← Bytes.decode? bytes
  let document ← Json.read? text
  return document.toValue

/-! ## Different keys -/

namespace Value

/-- No two entries have keys with the same text. -/
def KeysApart (entries : List (Value × Value)) : Prop :=
  entries.Pairwise fun former latter => ∀ name, KeyText former.1 name → ¬ KeyText latter.1 name

/-- Keys that have different texts have no text in common. -/
theorem not_keyText {key other : Value} {name text : Text} (named : KeyText key name)
    (renamed : KeyText other text) (different : name ≠ text) (common : Text)
    (first : KeyText key common) : ¬ KeyText other common := by
  intro second
  rw [named.unique first] at second
  exact different (renamed.unique second)

/-- In no dictionary of a value two keys have the same text. -/
inductive DistinctKeys : Value → Prop where
  | simple {value : Value} (simple : value.isContainer = false) : DistinctKeys value
  | list {items : List Value} (each : ∀ item ∈ items, DistinctKeys item) :
      DistinctKeys (.list items)
  | tuple {items : List Value} (each : ∀ item ∈ items, DistinctKeys item) :
      DistinctKeys (.tuple items)
  | dict {entries : List (Value × Value)} (apart : KeysApart entries)
      (each : ∀ entry ∈ entries, DistinctKeys entry.2) : DistinctKeys (.dict entries)

/-- Keys with different texts become different names. -/
theorem DenotesEntries.nodup {entries : List (Value × Value)} {members : List (Text × Json)}
    (denotes : DenotesEntries entries members) (apart : KeysApart entries) :
    (members.map Prod.fst).Nodup := by
  induction entries generalizing members with
  | nil =>
      cases denotes
      exact List.nodup_nil
  | cons entry entries hypothesis =>
      cases denotes with
      | @cons key _ name document _ others named _ rest =>
          obtain ⟨first, later⟩ := List.pairwise_cons.mp apart
          rw [List.map_cons, List.nodup_cons]
          refine ⟨?_, hypothesis rest later⟩
          intro repeated
          obtain ⟨member, listed, same⟩ := List.mem_map.mp repeated
          have repeats : (∃ member ∈ others, member.1 = name)
              ↔ ∃ entry ∈ entries, KeyText entry.1 name :=
            rest.exists_iff fun _ _ _ _ renamed _ =>
              ⟨fun same => same ▸ renamed, fun again => again.unique renamed⟩
          obtain ⟨clash, inside, also⟩ := repeats.mp ⟨member, listed, same⟩
          exact first clash inside name named also

/-! ## Documents of decoded values -/

variable {depth : Nat}

theorem itemsToJson_itemsToValues {items : List Value} {documents : List Json}
    (found : itemsToJson depth items = .ok documents)
    (each : ∀ item ∈ items, ∀ document, toJsonAt depth item = .ok document →
      toJsonAt depth document.toValue = .ok document) :
    itemsToJson depth (Json.itemsToValues documents) = .ok documents := by
  induction items generalizing documents with
  | nil =>
      obtain rfl := Except.ok.inj found
      rfl
  | cons item items hypothesis =>
      rw [itemsToJson] at found
      obtain ⟨document, first, found⟩ := eq_ok_of_bind found
      obtain ⟨others, rest, found⟩ := eq_ok_of_bind found
      obtain rfl := Except.ok.inj found
      have again := hypothesis rest fun item inside => each item (List.mem_cons_of_mem _ inside)
      rw [Json.itemsToValues, itemsToJson, each item (List.mem_cons_self ..) document first, again]
      rfl

/-- The list of what items are decoded to has the array of the items as its document. -/
theorem toJsonAt_array {items : List Value} {documents : List Json} (within : depth < depthBound)
    (found : itemsToJson (depth + 1) items = .ok documents)
    (each : ∀ item ∈ items, ∀ document, toJsonAt (depth + 1) item = .ok document →
      toJsonAt (depth + 1) document.toValue = .ok document) :
    toJsonAt depth (Json.array documents).toValue = .ok (.array documents) := by
  rw [Json.toValue, toJsonAt, if_pos within, itemsToJson_itemsToValues found each]
  rfl

theorem entriesToJson_membersToValues {entries : List (Value × Value)}
    {members : List (Text × Json)} (found : entriesToJson depth entries = .ok members)
    (each : ∀ entry ∈ entries, ∀ document, toJsonAt depth entry.2 = .ok document →
      toJsonAt depth document.toValue = .ok document) :
    entriesToJson depth
        ((Json.membersToValues members).map fun (name, value) => (.text name, value))
      = .ok members := by
  induction entries generalizing members with
  | nil =>
      obtain rfl := Except.ok.inj found
      rfl
  | cons entry entries hypothesis =>
      obtain ⟨key, value⟩ := entry
      rw [entriesToJson] at found
      obtain ⟨name, _, found⟩ := eq_ok_of_bind found
      obtain ⟨document, first, found⟩ := eq_ok_of_bind found
      obtain ⟨others, rest, found⟩ := eq_ok_of_bind found
      obtain rfl := Except.ok.inj found
      have again := hypothesis rest fun entry inside => each entry (List.mem_cons_of_mem _ inside)
      have same := each (key, value) (List.mem_cons_self ..) document first
      rw [Json.membersToValues, List.map_cons, entriesToJson, same, again]
      rfl

/-- **A decoded value has the document that it was decoded from**, if that is the document of
a value whose keys have different texts. -/
theorem toJsonAt_toValue {value : Value} {document : Json} (distinct : value.DistinctKeys)
    (found : toJsonAt depth value = .ok document) :
    toJsonAt depth document.toValue = .ok document := by
  induction value using containerInduction generalizing depth document with
  | simple value simple =>
      have denotes := denotes_of_toJsonAt value found
      cases denotes with
      | int number =>
          -- Whether an integer can be written depends on its size.
          exact found
      | null | bool | double | text | status => rfl
      | list | tuple | dict => cases simple
  | list items hypothesis =>
      cases distinct with
      | simple simple => cases simple
      | list each =>
          rw [toJsonAt] at found
          split at found
          · next within =>
              obtain ⟨documents, written, found⟩ := eq_ok_of_bind found
              obtain rfl := Except.ok.inj found
              exact toJsonAt_array within written fun item inside _ =>
                hypothesis item inside (each item inside)
          · cases found
  | tuple items hypothesis =>
      cases distinct with
      | simple simple => cases simple
      | tuple each =>
          rw [toJsonAt] at found
          split at found
          · next within =>
              obtain ⟨documents, written, found⟩ := eq_ok_of_bind found
              obtain rfl := Except.ok.inj found
              exact toJsonAt_array within written fun item inside _ =>
                hypothesis item inside (each item inside)
          · cases found
  | dict entries hypothesis =>
      cases distinct with
      | simple simple => cases simple
      | dict apart each =>
          rw [toJsonAt] at found
          split at found
          · next within =>
              obtain ⟨members, written, found⟩ := eq_ok_of_bind found
              obtain rfl := Except.ok.inj found
              have again := entriesToJson_membersToValues written fun entry inside _ =>
                hypothesis entry inside (each entry inside)
              have names := (denotesEntries_of_entriesToJson entries written).nodup apart
              rw [← Json.names_membersToValues] at names
              rw [Json.toValue, Json.gather_of_nodup names, toJsonAt, if_pos within, again]
              rfl
          · cases found

end Value

/-! ## Records -/

namespace Record

/-- In no dictionary of a record two keys have the same text. -/
def DistinctKeys (record : Record) : Prop :=
  ∀ description, record.payload = .ok description → description.DistinctKeys

/-- A decoded value does not describe itself. -/
theorem ofValue_toValue (document : Json) : ofValue document.toValue = .plain document.toValue := by
  cases document <;> rw [Json.toValue] <;> rfl

/-- The document of a record stays the same when it is decoded. -/
theorem toJson_toValue {record : Record} {document : Json} (distinct : record.DistinctKeys)
    (found : record.toJson = .ok document) : (ofValue document.toValue).toJson = .ok document := by
  rw [toJson] at found
  obtain ⟨description, described, found⟩ := eq_ok_of_bind found
  split at found
  · next written =>
      obtain rfl := Except.ok.inj found
      have again := Value.toJsonAt_toValue (distinct description described) written
      rw [ofValue_toValue, toJson_of_payload rfl, Value.toJson, again]
  · cases found

/-- The canonical form is that of the document alone. -/
theorem bytes_eq_iff {record other : Record} {bytes also : Bytes}
    (encoded : record.encode = .ok bytes) (recoded : other.encode = .ok also) :
    also = bytes ↔ ∃ document, record.Denotes document ∧ other.Denotes document := by
  obtain ⟨document, found, written⟩ := (encode_eq_ok_iff record bytes).mp encoded
  obtain ⟨another, refound, rewritten⟩ := (encode_eq_ok_iff other also).mp recoded
  constructor
  · rintro rfl
    -- What is read from the bytes is both documents.
    obtain ⟨plain, first⟩ := (Text.encode_eq_ok_iff document.render also).mp written
    obtain ⟨cleanly, second⟩ := (Text.encode_eq_ok_iff another.render also).mp rewritten
    have texts := Bytes.decode?_bytes document.render plain
    rw [first, ← second, Bytes.decode?_bytes another.render cleanly] at texts
    have documents := Json.read?_render document
    rw [← Option.some.inj texts, Json.read?_render another] at documents
    obtain rfl := Option.some.inj documents
    exact ⟨another, denotes_of_toJson found, denotes_of_toJson refound⟩
  · rintro ⟨meant, denotes, redenotes⟩
    obtain rfl := denotes.unique (denotes_of_toJson found)
    obtain rfl := redenotes.unique (denotes_of_toJson refound)
    rw [written] at rewritten
    exact (Except.ok.inj rewritten).symm

/-- **The canonical form is stable.**  If the keys of a record have different texts, its
canonical form is decoded to a value with the same canonical form.  Another record has the
same canonical form if and only if it stands for the same document, whatever the two are
made of. -/
theorem encode_stable {record : Record} {bytes : Bytes} (encoded : record.encode = .ok bytes)
    (distinct : record.DistinctKeys) :
    (∃ value, decode? bytes = some value ∧ (ofValue value).encode = .ok bytes)
      ∧ ∀ (other : Record) (also : Bytes), other.encode = .ok also →
        (also = bytes ↔ ∃ document, record.Denotes document ∧ other.Denotes document) := by
  obtain ⟨document, found, written⟩ := (encode_eq_ok_iff record bytes).mp encoded
  refine ⟨⟨document.toValue, ?_, ?_⟩, fun other also recoded => bytes_eq_iff encoded recoded⟩
  · obtain ⟨plain, rfl⟩ := (Text.encode_eq_ok_iff document.render bytes).mp written
    show (Bytes.decode? _ >>= _) = _
    rw [Bytes.decode?_bytes document.render plain]
    show (Json.read? _ >>= _) = _
    rw [Json.read?_render]
    rfl
  · exact (encode_eq_ok_iff _ bytes).mpr ⟨document, toJson_toValue distinct found, written⟩

/-- A record with keys of two kinds, a tuple, an outcome and a negative zero. -/
def mixedKeys : Record :=
  .describing "Odd" (.dict
    [(.bool true, .tuple [.status .canceled, .double (.finite (.zero true))]),
      (.null, .dict [(.text "true", .list [.bool true])])])

/-- A record for the same document, put together from texts and lists. -/
def plainKeys : Record :=
  .plain (.dict
    [(.text "true", .list [.text "canceled", .double (.finite (.zero true))]),
      (.text "null", .dict [(.text "true", .tuple [.bool true])])])

/-- Both records are encoded to the same bytes, and so is what these are decoded to. -/
theorem encode_stable_mixedKeys : ∃ bytes, mixedKeys.encode = .ok bytes ∧ mixedKeys.DistinctKeys
    ∧ (∃ value, decode? bytes = some value ∧ (ofValue value).encode = .ok bytes)
    ∧ plainKeys.encode = .ok bytes := by
  let document : Json := .object
    [("true", .array [.string "canceled", .double (.zero true)]),
      ("null", .object [("true", .array [.bool true])])]
  have found : mixedKeys.toJson = .ok document := rfl
  have refound : plainKeys.toJson = .ok document := rfl
  have plain : document.texts.all (fun text => text.all fun point => !point.isSurrogate)
      = true := by decide
  have written : document.render.encode = .ok document.render.bytes := by
    refine (Json.encode_render_eq_ok_iff document _).mpr ⟨?_, rfl⟩
    simpa only [List.all_eq_true, Bool.not_eq_true'] using plain
  have encoded := (encode_eq_ok_iff mixedKeys _).mpr ⟨document, found, written⟩
  have recoded := (encode_eq_ok_iff plainKeys _).mpr ⟨document, refound, written⟩
  have distinct : mixedKeys.DistinctKeys := by
    intro description described
    obtain rfl := Except.ok.inj described
    refine .dict (List.pairwise_pair.mpr (Value.not_keyText (.bool true) .null (by decide))) ?_
    simp only [List.forall_mem_cons, List.not_mem_nil, false_imp_iff, implies_true, and_true]
    constructor
    · refine .tuple fun item inside => .simple ?_
      simp only [List.mem_cons, List.not_mem_nil, or_false] at inside
      rcases inside with rfl | rfl <;> rfl
    · refine .dict (List.pairwise_singleton _ _) fun entry inside => ?_
      rw [List.mem_singleton.mp inside]
      refine .list fun item inside => .simple ?_
      rw [List.mem_singleton.mp inside]
      rfl
  obtain ⟨stable, alike⟩ := encode_stable encoded distinct
  have same := (alike plainKeys _ recoded).mpr
    ⟨document, denotes_of_toJson found, denotes_of_toJson refound⟩
  exact ⟨_, encoded, distinct, stable, same ▸ recoded⟩

end Record

end Heartbeat
