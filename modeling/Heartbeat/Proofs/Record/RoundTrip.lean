import Heartbeat.Record.Encode
import Heartbeat.Proofs.Json.RoundTrip
import Heartbeat.Proofs.Text.Utf8
import Heartbeat.Proofs.Value.Display

/-!
# What the canonical form of a record means

`Value.Denotes` says which document a value stands for, without saying how the
document is found, written or limited in size: sequences of either kind are
arrays, an outcome is its text, and a dictionary is an object with its entries in
their order, each key being replaced by its text.  A record stands for the
document of its description (`Record.Denotes`).

The canonical form of a record is read back as the one document that the record
stands for (`Record.encode_roundTrip`).
-/

namespace Heartbeat

set_option autoImplicit false

namespace Value

/-! ## Denotation -/

/-- The text that a key is replaced by. -/
inductive KeyText : Value → Text → Prop where
  | text (content : Text) : KeyText (.text content) content
  | status (outcome : Status) : KeyText (.status outcome) outcome.text
  | null : KeyText .null "null"
  | bool (value : Bool) : KeyText (.bool value) (if value then "true" else "false" : Text)
  | int (number : Int) : KeyText (.int number) (Text.ofInt number)
  | double (number : FiniteDouble) : KeyText (.double (.finite number)) number.render

mutual

/-- The document that a value stands for. -/
inductive Denotes : Value → Json → Prop where
  | null : Denotes .null .null
  | bool (value : Bool) : Denotes (.bool value) (.bool value)
  | int (number : Int) : Denotes (.int number) (.int number)
  | double (number : FiniteDouble) : Denotes (.double (.finite number)) (.double number)
  | text (content : Text) : Denotes (.text content) (.string content)
  | status (outcome : Status) : Denotes (.status outcome) (.string outcome.text)
  | list {items : List Value} {documents : List Json} (each : DenotesItems items documents) :
      Denotes (.list items) (.array documents)
  | tuple {items : List Value} {documents : List Json} (each : DenotesItems items documents) :
      Denotes (.tuple items) (.array documents)
  | dict {entries : List (Value × Value)} {members : List (Text × Json)}
      (each : DenotesEntries entries members) : Denotes (.dict entries) (.object members)

/-- The documents that values stand for, one by one. -/
inductive DenotesItems : List Value → List Json → Prop where
  | nil : DenotesItems [] []
  | cons {item : Value} {document : Json} {items : List Value} {documents : List Json}
      (first : Denotes item document) (others : DenotesItems items documents) :
      DenotesItems (item :: items) (document :: documents)

/-- The members that entries stand for, one by one. -/
inductive DenotesEntries : List (Value × Value) → List (Text × Json) → Prop where
  | nil : DenotesEntries [] []
  | cons {key value : Value} {name : Text} {document : Json} {entries : List (Value × Value)}
      {members : List (Text × Json)} (named : KeyText key name) (first : Denotes value document)
      (others : DenotesEntries entries members) :
      DenotesEntries ((key, value) :: entries) ((name, document) :: members)

end

/-! ## Uniqueness -/

theorem KeyText.unique {key : Value} {name other : Text} (named : KeyText key name)
    (renamed : KeyText key other) : other = name := by
  cases named <;> cases renamed <;> rfl

mutual

/-- A value stands for one document at most. -/
theorem Denotes.unique {value : Value} {document other : Json} (denotes : Denotes value document)
    (again : Denotes value other) : other = document := by
  cases denotes with
  | list each =>
      cases again with
      | list same => rw [each.unique same]
  | tuple each =>
      cases again with
      | tuple same => rw [each.unique same]
  | dict each =>
      cases again with
      | dict same => rw [each.unique same]
  | _ =>
      cases again
      rfl

theorem DenotesItems.unique {items : List Value} {documents others : List Json}
    (denotes : DenotesItems items documents) (again : DenotesItems items others) :
    others = documents := by
  cases denotes with
  | nil =>
      cases again
      rfl
  | cons first rest =>
      cases again with
      | cons same also => rw [first.unique same, rest.unique also]

theorem DenotesEntries.unique {entries : List (Value × Value)}
    {members others : List (Text × Json)} (denotes : DenotesEntries entries members)
    (again : DenotesEntries entries others) : others = members := by
  cases denotes with
  | nil =>
      cases again
      rfl
  | cons named first rest =>
      cases again with
      | cons renamed same also =>
          rw [named.unique renamed, first.unique same, rest.unique also]

end

/-! ## The documents that are found -/

theorem keyText_of_keyName {key : Value} {name : Text} (found : key.keyName = .ok name) :
    KeyText key name := by
  unfold keyName at found
  split at found
  · obtain rfl := Except.ok.inj found
    exact .text _
  · obtain rfl := Except.ok.inj found
    exact .status _
  · obtain rfl := Except.ok.inj found
    exact .double _
  · cases found
  · obtain rfl := Except.ok.inj found
    exact .bool _
  · obtain rfl := Except.ok.inj found
    exact .null
  · split at found
    · obtain rfl := Except.ok.inj found
      exact .int _
    · cases found
  · cases found

mutual

/-- The document that is found for a value is the one it stands for. -/
theorem denotes_of_toJsonAt {depth : Nat} (value : Value) {document : Json}
    (found : toJsonAt depth value = .ok document) : Denotes value document := by
  cases value with
  | null =>
      obtain rfl := Except.ok.inj found
      exact .null
  | bool value =>
      obtain rfl := Except.ok.inj found
      exact .bool value
  | int number =>
      rw [toJsonAt] at found
      split at found
      · obtain rfl := Except.ok.inj found
        exact .int number
      · cases found
  | double number =>
      cases number with
      | finite number =>
          obtain rfl := Except.ok.inj found
          exact .double number
      | infinite negative => cases found
      | nan => cases found
  | text content =>
      obtain rfl := Except.ok.inj found
      exact .text content
  | status outcome =>
      obtain rfl := Except.ok.inj found
      exact .status outcome
  | list items =>
      rw [toJsonAt] at found
      split at found
      · obtain ⟨documents, each, written⟩ := eq_ok_of_bind found
        obtain rfl := Except.ok.inj written
        exact .list (denotesItems_of_itemsToJson items each)
      · cases found
  | tuple items =>
      rw [toJsonAt] at found
      split at found
      · obtain ⟨documents, each, written⟩ := eq_ok_of_bind found
        obtain rfl := Except.ok.inj written
        exact .tuple (denotesItems_of_itemsToJson items each)
      · cases found
  | dict entries =>
      rw [toJsonAt] at found
      split at found
      · obtain ⟨members, each, written⟩ := eq_ok_of_bind found
        obtain rfl := Except.ok.inj written
        exact .dict (denotesEntries_of_entriesToJson entries each)
      · cases found
  | command => cases found
  | foreign => cases found
  | enclosing level =>
      rw [toJsonAt] at found
      split at found <;> cases found

theorem denotesItems_of_itemsToJson {depth : Nat} (items : List Value) {documents : List Json}
    (found : itemsToJson depth items = .ok documents) : DenotesItems items documents := by
  cases items with
  | nil =>
      obtain rfl := Except.ok.inj found
      exact .nil
  | cons item items =>
      rw [itemsToJson] at found
      obtain ⟨document, first, found⟩ := eq_ok_of_bind found
      obtain ⟨documents, others, found⟩ := eq_ok_of_bind found
      obtain rfl := Except.ok.inj found
      exact .cons (denotes_of_toJsonAt item first) (denotesItems_of_itemsToJson items others)

theorem denotesEntries_of_entriesToJson {depth : Nat} (entries : List (Value × Value))
    {members : List (Text × Json)} (found : entriesToJson depth entries = .ok members) :
    DenotesEntries entries members := by
  cases entries with
  | nil =>
      obtain rfl := Except.ok.inj found
      exact .nil
  | cons entry entries =>
      obtain ⟨key, value⟩ := entry
      rw [entriesToJson] at found
      obtain ⟨name, named, found⟩ := eq_ok_of_bind found
      obtain ⟨document, first, found⟩ := eq_ok_of_bind found
      obtain ⟨members, others, found⟩ := eq_ok_of_bind found
      obtain rfl := Except.ok.inj found
      exact .cons (keyText_of_keyName named) (denotes_of_toJsonAt value first)
        (denotesEntries_of_entriesToJson entries others)

end

end Value

/-! ## Records -/

namespace Record

/-- The document that a record stands for: the one of its description, which is
the record itself if it does not describe itself. -/
def Denotes (record : Record) (document : Json) : Prop :=
  ∃ description, record.payload = .ok description ∧ description.Denotes document

theorem Denotes.unique {record : Record} {document other : Json}
    (denotes : record.Denotes document) (again : record.Denotes other) : other = document := by
  obtain ⟨description, described, first⟩ := denotes
  obtain ⟨same, redescribed, second⟩ := again
  obtain rfl := Except.ok.inj (described.symm.trans redescribed)
  exact first.unique second

/-- The document that is found for a record is the one it stands for. -/
theorem denotes_of_toJson {record : Record} {document : Json}
    (found : record.toJson = .ok document) : record.Denotes document := by
  rw [toJson] at found
  obtain ⟨description, described, found⟩ := eq_ok_of_bind found
  split at found
  · next written =>
      obtain rfl := Except.ok.inj found
      exact ⟨description, described, Value.denotes_of_toJsonAt description written⟩
  · cases found

/-- Bytes are the canonical form of a record if they are the text of its document,
and this text holds no surrogates. -/
theorem encode_eq_ok_iff (record : Record) (bytes : Bytes) :
    record.encode = .ok bytes
      ↔ ∃ document, record.toJson = .ok document ∧ document.render.encode = .ok bytes := by
  rw [encode]
  constructor
  · intro encoded
    split at encoded
    · cases encoded
    · next document found =>
        refine ⟨document, found, ?_⟩
        split at encoded
        · next written => rw [written, Except.ok.inj encoded]
        · cases encoded
  · rintro ⟨document, found, written⟩
    rw [found]
    dsimp only
    rw [written]

/-- **The canonical form of a record is UTF-8, and read strictly it is the one
document that the record stands for.** -/
theorem encode_roundTrip {record : Record} {bytes : Bytes} (encoded : record.encode = .ok bytes) :
    ∃ document, record.Denotes document ∧ (∀ other, record.Denotes other → other = document)
      ∧ ∃ text, Bytes.decode? bytes = some text ∧ Json.read? text = some document := by
  obtain ⟨document, found, written⟩ := (encode_eq_ok_iff record bytes).mp encoded
  have denotes := denotes_of_toJson found
  obtain ⟨plain, rfl⟩ := (Text.encode_eq_ok_iff document.render bytes).mp written
  exact ⟨document, denotes, fun other => denotes.unique, document.render,
    Bytes.decode?_bytes document.render plain, Json.read?_render document⟩

/-- A record with two entries whose keys have the same text, sequences of both
kinds, and points that are escaped and that are not. -/
def collidingKeys : Record :=
  .describing "Odd" (.dict
    [(.bool true, .tuple [.text "\"\n", .null, .status .canceled]),
      (.text "true", .list [.dict [(.null, .text [0x7F, 0x2028, 0x1F600])], .bool false])])

theorem encode_collidingKeys : collidingKeys.encode = .ok (Text.bytes
    (("\x7b\"true\":[\"\\\"\\n\",null,\"canceled\"]," : Text)
      ++ "\"true\":[\x7b\"null\":\"\u007f\u2028😀\"\x7d,false]\x7d")) := by
  rfl

/-- Both entries with the same name are read back. -/
theorem encode_roundTrip_collidingKeys : ∃ bytes, collidingKeys.encode = .ok bytes
    ∧ ∃ document, collidingKeys.Denotes document
      ∧ (∀ other, collidingKeys.Denotes other → other = document)
      ∧ ∃ text, Bytes.decode? bytes = some text ∧ Json.read? text = some document :=
  ⟨_, encode_collidingKeys, encode_roundTrip encode_collidingKeys⟩

end Record

end Heartbeat
