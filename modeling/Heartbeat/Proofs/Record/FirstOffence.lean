import Heartbeat.Proofs.Record.Acceptance
import Heartbeat.Proofs.Value.Offences

/-!
# The failure of a record that offends

Of everything in a description that offends against the format, a failure to encode the
record tells the first, in the order of a traversal that looks at a container before what
is in it and at a key before its value.  What comes later does not count, and neither do
texts, wherever they stand (`Record.encode_firstOffence`).
-/

namespace Heartbeat

set_option autoImplicit false

namespace Record

variable {record : Record} {description : Value} {offence : Offence} {address : List Nat}

/-- A description is refused exactly if something in it offends. -/
theorem refused_iff_offends (described : record.payload = .ok description) :
    (∃ cause, record.toJson = .error cause)
      ↔ ∃ address offence, description.OffendsAt address offence := by
  rw [toJson_of_payload described]
  constructor
  · rintro ⟨cause, refused⟩
    split at refused
    · cases refused
    · next offence found =>
        obtain ⟨address, first⟩ := (description.toJson_error_iff offence).mp found
        exact ⟨address, offence, first.offends⟩
  · rintro ⟨address, offence, offends⟩
    obtain ⟨cause, found⟩ := Value.Site.exists_refused_of_offendsAt offends
    have refused : description.toJson = .error cause := found
    exact ⟨.unwritable cause, by rw [refused]⟩

/-- The first offence is the one that is told, with its kind and its wording. -/
theorem encode_of_offendsFirst (described : record.payload = .ok description)
    (first : description.OffendsFirst address offence) :
    record.encode = .error (.encoding offence.kind offence.message) := by
  have found := (description.toJson_error_iff offence).mpr ⟨address, first⟩
  rw [encode, toJson_of_payload described, found]
  cases offence <;> rfl

/-- **The first offence is the one that is told.**  A description is refused exactly if
something in it offends.  Then something offends first, and its kind and its wording are
what the failure to encode the record has to tell; whatever offends later, and whatever the
texts are, surrogates or not, the failure is the same. -/
theorem encode_firstOffence (described : record.payload = .ok description) :
    ((∃ cause, record.toJson = .error cause)
        ↔ ∃ address offence, description.OffendsAt address offence)
      ∧ ∀ cause, record.toJson = .error cause → ∃ address offence,
        description.OffendsFirst address offence
          ∧ record.encode = .error (.encoding offence.kind offence.message)
          ∧ (∀ (other : Record) (changed : Value), other.payload = .ok changed →
            (∀ earlier, ¬ address < earlier → ∀ cause,
              (changed.OffendsAt earlier cause ↔ description.OffendsAt earlier cause)) →
            other.encode = record.encode)
          ∧ ∀ (other : Record) (spell : Text → Text),
            other.payload = .ok (description.respell spell) → other.encode = record.encode := by
  refine ⟨refused_iff_offends described, fun cause refused => ?_⟩
  rw [toJson_of_payload described] at refused
  split at refused
  · cases refused
  next offence found =>
  obtain ⟨address, first⟩ := (description.toJson_error_iff offence).mp found
  have told := encode_of_offendsFirst described first
  refine ⟨address, offence, first, told, ?_, ?_⟩
  · intro other changed also alike
    rw [told, encode_of_offendsFirst also (first.of_alike alike)]
  · intro other spell also
    have alike := first.of_alike fun earlier _ cause =>
      description.offendsAt_respell_iff spell earlier cause
    rw [told, encode_of_offendsFirst also alike]

/-- A key is found that is a sequence, after a surrogate, and before its value, which is
not a number, and before an object of an unknown class. -/
theorem encode_firstOffence_mixed :
    let description : Value := .list [.text [0xD800],
      .dict [(.text "a", .null), (.tuple [], .double .nan)], .foreign "Late"]
    (∃ address, description.OffendsFirst address (.badKey "tuple"))
      ∧ (Record.plain description).encode
        = .error (.encoding .type "keys must be str, int, float, bool or None, not tuple") := by
  intro description
  have found : description.toJson = .error (.badKey "tuple") := by rfl
  have refused : (Record.plain description).toJson = .error (.unwritable (.badKey "tuple")) := by
    rfl
  obtain ⟨_, each⟩ :=
    encode_firstOffence (show (Record.plain description).payload = .ok description from rfl)
  obtain ⟨address, offence, first, told, _⟩ := each _ refused
  have same := (description.toJson_error_iff offence).mpr ⟨address, first⟩
  rw [found] at same
  obtain rfl := Except.error.inj same
  exact ⟨⟨address, first⟩, told⟩

end Record

end Heartbeat
