import Mathlib.Data.List.Basic
import Heartbeat.Proofs.Record.Failure
import Heartbeat.Proofs.Value.Writable

/-!
# Which records can be encoded

A record can be encoded if it describes itself, its description has a document
(`Value.Writable`), and no text in the description holds a surrogate.  Each of these
three may fail, and every failure has its own outcome (`Record.encode_outcome`): the
record is reported as one that cannot be encoded, or the first run of surrogates in
the written document is reported.  What a record raises when it describes itself is
reported as well, unless it is a request to stop, which passes, or a failure that
cannot be put into words, in place of which the obstacle comes out.
-/

namespace Heartbeat

set_option autoImplicit false

/-! ## Surrogates of documents -/

namespace Json

theorem holdsSurrogate_string_iff (text : Text) :
    (string text).HoldsSurrogate ↔ ∃ point ∈ text, point.isSurrogate = true := by
  rw [HoldsSurrogate, texts]
  simp only [List.mem_singleton, exists_eq_left]

theorem holdsSurrogate_array_iff (items : List Json) :
    (array items).HoldsSurrogate ↔ ∃ item ∈ items, item.HoldsSurrogate := by
  constructor
  · rintro ⟨text, listed, inside⟩
    obtain ⟨item, member, found⟩ := exists_of_mem_textsOfItems listed
    exact ⟨item, member, text, found, inside⟩
  · rintro ⟨item, member, text, found, inside⟩
    refine ⟨text, ?_, inside⟩
    rw [texts]
    induction items with
    | nil => cases member
    | cons first items hypothesis =>
        rw [textsOfItems, List.mem_append]
        rcases List.mem_cons.mp member with rfl | later
        · exact .inl found
        · exact .inr (hypothesis later)

theorem holdsSurrogate_object_iff (members : List (Text × Json)) :
    (object members).HoldsSurrogate
      ↔ ∃ member ∈ members, (∃ point ∈ member.1, point.isSurrogate = true)
        ∨ member.2.HoldsSurrogate := by
  constructor
  · rintro ⟨text, listed, inside⟩
    obtain ⟨found, member, rfl | valued⟩ := exists_of_mem_textsOfMembers listed
    · exact ⟨found, member, .inl inside⟩
    · exact ⟨found, member, .inr ⟨text, valued, inside⟩⟩
  · rintro ⟨found, member, origin⟩
    have listed : ∀ text, text = found.1 ∨ text ∈ found.2.texts → text ∈ textsOfMembers members := by
      intro text origin
      induction members with
      | nil => cases member
      | cons first members hypothesis =>
          obtain ⟨name, value⟩ := first
          rw [textsOfMembers, List.mem_cons, List.mem_append]
          rcases List.mem_cons.mp member with rfl | later
          · exact origin.imp_right .inl
          · exact .inr (.inr (hypothesis later))
    rcases origin with named | ⟨text, valued, inside⟩
    · exact ⟨found.1, listed found.1 (.inl rfl), named⟩
    · exact ⟨text, listed text (.inr valued), inside⟩

end Json

/-! ## Surrogates of values -/

namespace Value

/-- A text or a key in a value holds a surrogate. -/
inductive HoldsSurrogate : Value → Prop where
  | text {content : Text} {point : CodePoint} (member : point ∈ content)
      (surrogate : point.isSurrogate = true) : HoldsSurrogate (.text content)
  | list {items : List Value} {item : Value} (member : item ∈ items)
      (inside : HoldsSurrogate item) : HoldsSurrogate (.list items)
  | tuple {items : List Value} {item : Value} (member : item ∈ items)
      (inside : HoldsSurrogate item) : HoldsSurrogate (.tuple items)
  | key {entries : List (Value × Value)} {entry : Value × Value} (member : entry ∈ entries)
      (inside : HoldsSurrogate entry.1) : HoldsSurrogate (.dict entries)
  | value {entries : List (Value × Value)} {entry : Value × Value} (member : entry ∈ entries)
      (inside : HoldsSurrogate entry.2) : HoldsSurrogate (.dict entries)

theorem not_isSurrogate_of_formal {point : CodePoint} (formal : Json.Formal point) :
    point.isSurrogate = false := by
  have small := formal.2
  rw [CodePoint.isSurrogate, Bool.and_eq_false_iff]
  exact .inl (decide_eq_false (by omega))

theorem not_isSurrogate_of_mem_status (outcome : Status) :
    ∀ point ∈ outcome.text, point.isSurrogate = false := by
  intro point member
  refine not_isSurrogate_of_formal (Json.formal_of_all ?_ member)
  cases outcome <;> decide

/-- The name of a key holds a surrogate exactly if the key is a text that does. -/
theorem KeyText.holdsSurrogate_iff {key : Value} {name : Text} (named : KeyText key name) :
    (∃ point ∈ name, point.isSurrogate = true) ↔ key.HoldsSurrogate := by
  have apart : (∀ point ∈ name, point.isSurrogate = false) → (∀ content, key ≠ .text content) →
      key.isContainer = false →
      ((∃ point ∈ name, point.isSurrogate = true) ↔ key.HoldsSurrogate) := by
    intro clean other simple
    constructor
    · rintro ⟨point, member, surrogate⟩
      rw [clean point member] at surrogate
      cases surrogate
    · intro holds
      cases holds with
      | text => exact absurd rfl (other _)
      | list | tuple | key | value => cases simple
  cases named with
  | text content =>
      exact ⟨fun ⟨_, member, surrogate⟩ => .text member surrogate,
        fun | .text member surrogate => ⟨_, member, surrogate⟩⟩
  | status outcome => exact apart (not_isSurrogate_of_mem_status outcome) nofun rfl
  | null =>
      refine apart (fun point member => ?_) nofun rfl
      exact not_isSurrogate_of_formal (Json.formal_of_all (by decide) member)
  | bool value =>
      refine apart (fun point member => ?_) nofun rfl
      refine not_isSurrogate_of_formal (Json.formal_of_all ?_ member)
      cases value <;> decide
  | int number =>
      refine apart (fun point member => ?_) nofun rfl
      rw [Json.ofInt_eq_signed] at member
      exact not_isSurrogate_of_formal (Json.formal_of_mem_signed member)
  | double number =>
      refine apart (fun point member => ?_) nofun rfl
      obtain ⟨_, is_signed, _⟩ := Json.render_eq_signed number
      rw [is_signed] at member
      exact not_isSurrogate_of_formal (Json.formal_of_mem_signed member)

/-- One of the documents of items is such if and only if one of the items is. -/
theorem DenotesItems.exists_iff {items : List Value} {documents : List Json}
    (denotes : DenotesItems items documents) {such : Json → Prop} {alike : Value → Prop}
    (each : ∀ item ∈ items, ∀ document, Denotes item document → (such document ↔ alike item)) :
    (∃ document ∈ documents, such document) ↔ ∃ item ∈ items, alike item := by
  induction items generalizing documents with
  | nil =>
      cases denotes
      exact ⟨nofun, nofun⟩
  | cons item items hypothesis =>
      cases denotes with
      | cons first others =>
          rw [List.exists_mem_cons_iff, List.exists_mem_cons_iff,
            each item (List.mem_cons_self ..) _ first,
            hypothesis others fun item inside => each item (List.mem_cons_of_mem _ inside)]

/-- The same for the members of entries. -/
theorem DenotesEntries.exists_iff {entries : List (Value × Value)} {members : List (Text × Json)}
    (denotes : DenotesEntries entries members) {such : Text × Json → Prop}
    {alike : Value × Value → Prop}
    (each : ∀ entry ∈ entries, ∀ name document, KeyText entry.1 name → Denotes entry.2 document →
      (such (name, document) ↔ alike entry)) :
    (∃ member ∈ members, such member) ↔ ∃ entry ∈ entries, alike entry := by
  induction entries generalizing members with
  | nil =>
      cases denotes
      exact ⟨nofun, nofun⟩
  | cons entry entries hypothesis =>
      cases denotes with
      | cons named first others =>
          rw [List.exists_mem_cons_iff, List.exists_mem_cons_iff,
            each _ (List.mem_cons_self ..) _ _ named first,
            hypothesis others fun entry inside => each entry (List.mem_cons_of_mem _ inside)]

/-- **A document holds a surrogate exactly if a text or a key of the value that it
stands for does.** -/
theorem Denotes.holdsSurrogate_iff {value : Value} {document : Json}
    (denotes : Denotes value document) : document.HoldsSurrogate ↔ value.HoldsSurrogate := by
  induction value using containerInduction generalizing document with
  | simple value simple =>
      have wordless : document.texts = [] → (∀ content, value ≠ .text content) →
          (document.HoldsSurrogate ↔ value.HoldsSurrogate) := by
        intro silent other
        constructor
        · rintro ⟨text, listed, _⟩
          rw [silent] at listed
          cases listed
        · intro holds
          cases holds with
          | text => exact absurd rfl (other _)
          | list | tuple | key | value => cases simple
      cases denotes with
      | text content =>
          rw [Json.holdsSurrogate_string_iff]
          exact KeyText.holdsSurrogate_iff (.text content)
      | status outcome =>
          rw [Json.holdsSurrogate_string_iff]
          exact KeyText.holdsSurrogate_iff (.status outcome)
      | null | bool | int | double => exact wordless rfl nofun
      | list | tuple | dict => cases simple
  | list items hypothesis =>
      cases denotes with
      | list each =>
          rw [Json.holdsSurrogate_array_iff,
            each.exists_iff fun item inside _ denotes => hypothesis item inside denotes]
          exact ⟨fun ⟨_, member, inside⟩ => .list member inside,
            fun | .list member inside => ⟨_, member, inside⟩⟩
  | tuple items hypothesis =>
      cases denotes with
      | tuple each =>
          rw [Json.holdsSurrogate_array_iff,
            each.exists_iff fun item inside _ denotes => hypothesis item inside denotes]
          exact ⟨fun ⟨_, member, inside⟩ => .tuple member inside,
            fun | .tuple member inside => ⟨_, member, inside⟩⟩
  | dict entries hypothesis =>
      cases denotes with
      | dict each =>
          rw [Json.holdsSurrogate_object_iff,
            each.exists_iff fun entry inside name _ named denotes =>
              or_congr named.holdsSurrogate_iff (hypothesis entry inside denotes)]
          constructor
          · rintro ⟨entry, member, keyed | valued⟩
            · exact .key member keyed
            · exact .value member valued
          · intro holds
            cases holds with
            | key member inside => exact ⟨_, member, .inl inside⟩
            | value member inside => exact ⟨_, member, .inr inside⟩

end Value

/-! ## Records -/

namespace Record

/-- A failure of a record to describe itself is reported. -/
theorem encode_of_payload_error {record : Record} {cause : Failure}
    (failed : record.payload = .error cause) : record.encode = .error (reported cause) := by
  rw [encode, toJson, failed]
  rfl

theorem toJson_of_payload {record : Record} {description : Value}
    (described : record.payload = .ok description) :
    record.toJson = match description.toJson with
      | .ok document => .ok document
      | .error offence => .error (.unwritable offence) := by
  rw [toJson, described]
  rfl

/-- A description without a document is reported as one that cannot be encoded. -/
theorem encode_of_not_writable {record : Record} {description : Value}
    (described : record.payload = .ok description) (refused : ¬ description.Writable) :
    ∃ cause message, record.encode = .error (.encoding cause message) := by
  rw [encode, toJson_of_payload described]
  cases found : description.toJson with
  | ok document => exact absurd ((Value.toJson_isOk_iff description).mp ⟨document, found⟩) refused
  | error offence =>
      refine ⟨offence.kind, offence.message, ?_⟩
      cases offence <;> rfl

/-- A description with a document is written, and only a surrogate can keep the text from
becoming bytes. -/
theorem encode_of_writable {record : Record} {description : Value}
    (described : record.payload = .ok description) (writable : description.Writable) :
    ∃ document, description.Denotes document
      ∧ ((∃ bytes, record.encode = .ok bytes) ∧ ¬ description.HoldsSurrogate
        ∨ ∃ run, record.encode = .error (.surrogates run) ∧ run.Marks document.render
          ∧ description.HoldsSurrogate) := by
  obtain ⟨document, found⟩ := (Value.toJson_isOk_iff description).mpr writable
  have denotes := Value.denotes_of_toJsonAt description found
  have written : record.toJson = .ok document := by
    rw [toJson_of_payload described, found]
  refine ⟨document, denotes, ?_⟩
  rw [← denotes.holdsSurrogate_iff, document.holdsSurrogate_iff]
  cases ending : document.render.encode with
  | ok bytes =>
      exact .inl ⟨⟨bytes, (encode_eq_ok_iff record bytes).mpr ⟨document, written, ending⟩⟩, nofun⟩
  | error run =>
      refine .inr ⟨run, ?_, ?_, run, rfl⟩
      · exact (encode_eq_error_iff record _).mpr (.inr ⟨document, run, written, ending, rfl⟩)
      · exact (Text.surrogateRun?_eq_some_iff _ run).mp ((Text.encode_eq_error_iff _ run).mp ending)

/-- A failure is reported as one to encode the record if it is ordinary and nothing
else stands in the way of showing it. -/
theorem isEncoding_reported_iff (cause : Failure) :
    (reported cause).isEncoding = true
      ↔ cause.isOrdinary = true ∧ ∀ obstacle, cause.words = .error obstacle →
        obstacle.isEncoding = true := by
  rw [reported]
  split
  · next ordinary =>
      split
      · next message shown =>
          refine ⟨fun _ => ⟨ordinary, fun obstacle hindered => ?_⟩, fun _ => rfl⟩
          rw [shown] at hindered
          cases hindered
      · next obstacle hindered =>
          refine ⟨fun encoding => ⟨ordinary, fun other same => ?_⟩, fun found => found.2 _ hindered⟩
          rw [hindered] at same
          obtain rfl := Except.error.inj same
          exact encoding
  · next request =>
      refine ⟨fun encoding => ?_, fun found => absurd found.1 request⟩
      rw [Failure.isEncoding, decide_eq_true_iff] at encoding
      rw [Failure.isOrdinary, encoding] at request
      exact absurd rfl request

/-- Otherwise it is reported as what it is or by what stands in the way. -/
theorem reported_stray_iff (cause failure : Failure) :
    reported cause = failure ∧ failure.isEncoding = false
      ↔ (cause = failure ∧ failure.isOrdinary = false)
        ∨ cause.isOrdinary = true ∧ cause.words = .error failure ∧ failure.isEncoding = false := by
  constructor
  · rintro ⟨rfl, stray⟩
    rcases reported_cases cause with ⟨request, same⟩ | encoding | ⟨kind, obstacle, rfl, absorbable, same⟩
    · rw [same]
      exact .inl ⟨rfl, request⟩
    · rw [encoding] at stray
      cases stray
    · rw [same] at stray ⊢
      exact .inr ⟨absorbable, rfl, stray⟩
  · rintro (⟨rfl, request⟩ | ⟨ordinary, hindered, stray⟩)
    · have same : reported cause = cause := by
        rw [reported, request]
        rfl
      refine ⟨same, Bool.eq_false_iff.mpr fun encoding => ?_⟩
      have ordinary := ((isEncoding_reported_iff cause).mp (same.symm ▸ encoding)).1
      rw [request] at ordinary
      cases ordinary
    · rw [reported, if_pos ordinary, hindered]
      exact ⟨rfl, stray⟩

/-- How encoding a record ends, with the reason. -/
inductive Fate (record : Record) : Except Failure Bytes → Prop where
  /-- The description has a document, and its text becomes bytes. -/
  | written {description : Value} {bytes : Bytes} (described : record.payload = .ok description)
      (writable : description.Writable) (clean : ¬ description.HoldsSurrogate) :
      Fate record (.ok bytes)
  /-- The description has a document, and its text does not become bytes. -/
  | marked {description : Value} {document : Json} {run : SurrogateRun}
      (described : record.payload = .ok description) (writable : description.Writable)
      (inside : description.HoldsSurrogate) (denotes : description.Denotes document)
      (marks : run.Marks document.render) : Fate record (.error (.surrogates run))
  /-- The description has no document. -/
  | refused {description : Value} {cause : FailureKind} {message : Text}
      (described : record.payload = .ok description) (other : ¬ description.Writable) :
      Fate record (.error (.encoding cause message))
  /-- There is no description. -/
  | failed {cause : Failure} (failed : record.payload = .error cause) :
      Fate record (.error (reported cause))

/-- A record has one of these fates. -/
theorem fate_encode (record : Record) : record.Fate record.encode := by
  cases described : record.payload with
  | error cause =>
      rw [encode_of_payload_error described]
      exact .failed described
  | ok description =>
      by_cases writable : description.Writable
      · obtain ⟨document, denotes, outcome⟩ := encode_of_writable described writable
        rcases outcome with ⟨⟨bytes, written⟩, clean⟩ | ⟨run, stopped, marks, inside⟩
        · rw [written]
          exact .written described writable clean
        · rw [stopped]
          exact .marked described writable inside denotes marks
      · obtain ⟨cause, message, refused⟩ := encode_of_not_writable described writable
        rw [refused]
        exact .refused described writable

/-- A record has a canonical form if and only if its description has a document and holds
no surrogate. -/
theorem encode_isOk_iff (record : Record) :
    (∃ bytes, record.encode = .ok bytes)
      ↔ ∃ description, record.payload = .ok description ∧ description.Writable
        ∧ ¬ description.HoldsSurrogate := by
  have fate := record.fate_encode
  generalize record.encode = outcome at fate ⊢
  constructor
  · rintro ⟨bytes, rfl⟩
    cases fate with
    | written described writable clean => exact ⟨_, described, writable, clean⟩
  · rintro ⟨description, described, writable, clean⟩
    cases fate with
    | written => exact ⟨_, rfl⟩
    | marked same _ inside =>
        obtain rfl := Except.ok.inj (described.symm.trans same)
        exact absurd inside clean
    | refused same other =>
        obtain rfl := Except.ok.inj (described.symm.trans same)
        exact absurd writable other
    | failed same => cases described.symm.trans same

/-- A record is reported as one that cannot be encoded if and only if describing itself
fails ordinarily, with nothing else in the way of showing how, or it describes itself by
a value without a document. -/
theorem encode_isEncoding_iff (record : Record) :
    (∃ failure, record.encode = .error failure ∧ failure.isEncoding = true)
      ↔ (∃ cause, record.payload = .error cause ∧ cause.isOrdinary = true
          ∧ ∀ obstacle, cause.words = .error obstacle → obstacle.isEncoding = true)
        ∨ ∃ description, record.payload = .ok description ∧ ¬ description.Writable := by
  have fate := record.fate_encode
  generalize record.encode = outcome at fate ⊢
  constructor
  · rintro ⟨failure, rfl, encoding⟩
    cases fate with
    | marked => cases encoding
    | refused described other => exact .inr ⟨_, described, other⟩
    | failed failed => exact .inl ⟨_, failed, (isEncoding_reported_iff _).mp encoding⟩
  · rintro (⟨cause, failed, showable⟩ | ⟨description, described, other⟩)
    · cases fate with
      | written same | marked same | refused same => cases failed.symm.trans same
      | failed same =>
          obtain rfl := Except.error.inj (failed.symm.trans same)
          exact ⟨_, rfl, (isEncoding_reported_iff cause).mpr showable⟩
    · cases fate with
      | written same writable | marked same writable =>
          obtain rfl := Except.ok.inj (described.symm.trans same)
          exact absurd writable other
      | refused => exact ⟨_, rfl, rfl⟩
      | failed same => cases described.symm.trans same

/-- Every other failure is the first run of surrogates in the written document, a request
to stop out of the description, or what keeps a failure of the description from being put
into words. -/
theorem encode_otherwise_iff (record : Record) (failure : Failure) :
    record.encode = .error failure ∧ failure.isEncoding = false
      ↔ (∃ description document run, record.payload = .ok description ∧ description.Writable
          ∧ description.HoldsSurrogate ∧ description.Denotes document
          ∧ run.Marks document.render ∧ failure = .surrogates run)
        ∨ (record.payload = .error failure ∧ failure.isOrdinary = false)
        ∨ ∃ cause, record.payload = .error cause ∧ cause.isOrdinary = true
          ∧ cause.words = .error failure ∧ failure.isEncoding = false := by
  constructor
  · rintro ⟨ends, stray⟩
    have fate := ends ▸ record.fate_encode
    cases fate with
    | marked described writable inside denotes marks =>
        exact .inl ⟨_, _, _, described, writable, inside, denotes, marks, rfl⟩
    | refused => cases stray
    | @failed cause failed =>
        rcases (reported_stray_iff cause _).mp ⟨rfl, stray⟩ with ⟨same, request⟩ | hindered
        · exact .inr (.inl ⟨same ▸ failed, request⟩)
        · exact .inr (.inr ⟨cause, failed, hindered⟩)
  · rintro (⟨description, document, run, described, writable, inside, denotes, marks, rfl⟩
      | ⟨failed, request⟩ | ⟨cause, failed, hindered⟩)
    · refine ⟨?_, rfl⟩
      have fate := record.fate_encode
      generalize record.encode = outcome at fate ⊢
      cases fate with
      | written same _ clean =>
          obtain rfl := Except.ok.inj (described.symm.trans same)
          exact absurd inside clean
      | marked same _ _ meant marked =>
          obtain rfl := Except.ok.inj (described.symm.trans same)
          obtain rfl := meant.unique denotes
          rw [marked.unique marks]
      | refused same other =>
          obtain rfl := Except.ok.inj (described.symm.trans same)
          exact absurd writable other
      | failed same => cases described.symm.trans same
    · rw [encode_of_payload_error failed]
      have stray := (reported_stray_iff failure failure).mpr (.inl ⟨rfl, request⟩)
      exact ⟨congrArg _ stray.1, stray.2⟩
    · rw [encode_of_payload_error failed]
      have stray := (reported_stray_iff cause failure).mpr (.inr hindered)
      exact ⟨congrArg _ stray.1, stray.2⟩

/-- **What becomes of a record.**  It has a canonical form if and only if it describes
itself by a value that has a document and holds no surrogate.  It is reported as one
that cannot be encoded if and only if it fails to describe itself, ordinarily and with
a failure that can be put into words, or describes itself by a value without a
document.  Everything else is one of three: the first run of surrogates in the written
document, a request to stop out of the description, or what keeps an ordinary failure
of the description from being put into words. -/
theorem encode_outcome (record : Record) :
    ((∃ bytes, record.encode = .ok bytes)
        ↔ ∃ description, record.payload = .ok description ∧ description.Writable
          ∧ ¬ description.HoldsSurrogate)
      ∧ ((∃ failure, record.encode = .error failure ∧ failure.isEncoding = true)
        ↔ (∃ cause, record.payload = .error cause ∧ cause.isOrdinary = true
            ∧ ∀ obstacle, cause.words = .error obstacle → obstacle.isEncoding = true)
          ∨ ∃ description, record.payload = .ok description ∧ ¬ description.Writable)
      ∧ ∀ failure, record.encode = .error failure ∧ failure.isEncoding = false
        ↔ (∃ description document run, record.payload = .ok description ∧ description.Writable
            ∧ description.HoldsSurrogate ∧ description.Denotes document
            ∧ run.Marks document.render ∧ failure = .surrogates run)
          ∨ (record.payload = .error failure ∧ failure.isOrdinary = false)
          ∨ ∃ cause, record.payload = .error cause ∧ cause.isOrdinary = true
            ∧ cause.words = .error failure ∧ failure.isEncoding = false :=
  ⟨record.encode_isOk_iff, record.encode_isEncoding_iff, record.encode_otherwise_iff⟩

/-- An object that raises what cannot be shown is not reported as one that cannot be
encoded. -/
example : (Record.failing "Object" (.unshowable .value .longInteger)).encode
    = .error .longInteger := rfl

end Record

end Heartbeat
