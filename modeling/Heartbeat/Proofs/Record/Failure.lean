import Heartbeat.Proofs.Json.Points
import Heartbeat.Proofs.Record.RoundTrip

/-!
# What comes out where a record cannot be encoded

A record that cannot be encoded is reported as such, with three exceptions: a
request to stop that is raised while the record describes itself, an ordinary
failure of the description whose wording cannot be shown, in place of which the
obstacle comes out, and surrogates, which are only found when the text becomes
bytes (`Record.encode_stray_iff`).
-/

namespace Heartbeat

set_option autoImplicit false

namespace Json

/-- Whether one of the texts of a document holds a surrogate. -/
def HoldsSurrogate (document : Json) : Prop :=
  ∃ text ∈ document.texts, ∃ point ∈ text, point.isSurrogate = true

/-- A document that holds a surrogate, and no other, is refused by its first run
of surrogates. -/
theorem holdsSurrogate_iff (document : Json) :
    document.HoldsSurrogate ↔ ∃ run, document.render.encode = .error run := by
  constructor
  · rintro ⟨text, member, point, inside, surrogate⟩
    cases written : document.render.encode with
    | error run => exact ⟨run, rfl⟩
    | ok bytes =>
        have plain := ((encode_render_eq_ok_iff document bytes).mp written).1
        rw [plain text member point inside] at surrogate
        cases surrogate
  · rintro ⟨run, refused⟩
    by_contra clean
    have plain : ∀ text ∈ document.texts, ∀ point ∈ text, point.isSurrogate = false := by
      intro text member point inside
      by_contra surrogate
      rw [Bool.not_eq_false] at surrogate
      exact clean ⟨text, member, point, inside, surrogate⟩
    have written := (encode_render_eq_ok_iff document _).mpr ⟨plain, rfl⟩
    rw [refused] at written
    cases written

end Json

namespace Record

theorem encode_eq_error_iff (record : Record) (failure : Failure) :
    record.encode = .error failure
      ↔ (∃ cause, record.toJson = .error cause ∧ failure = reported cause)
        ∨ ∃ document run, record.toJson = .ok document ∧ document.render.encode = .error run
          ∧ failure = .surrogates run := by
  rw [encode]
  constructor
  · intro failed
    split at failed
    · next cause found => exact .inl ⟨cause, found, (Except.error.inj failed).symm⟩
    · next document found =>
        split at failed
        · cases failed
        · next run written =>
            exact .inr ⟨document, run, found, written, (Except.error.inj failed).symm⟩
  · rintro (⟨cause, found, rfl⟩ | ⟨document, run, found, written, rfl⟩)
    · rw [found]
    · rw [found]
      dsimp only
      rw [written]

/-- A failure that cannot be shown comes from an object that fails to describe
itself. -/
theorem failing_of_unshowable {record : Record} {kind : FailureKind} {obstacle : Failure}
    (failed : record.toJson = .error (.unshowable kind obstacle)) :
    ∃ className, record = .failing className (.unshowable kind obstacle) := by
  rw [toJson] at failed
  rcases eq_error_of_bind failed with described | ⟨description, _, failed⟩
  · cases record with
    | command command =>
        rw [payload] at described
        rcases eq_error_of_bind described with entries | ⟨_, _, impossible⟩
        · rw [Command.entries] at entries
          rcases eq_error_of_bind entries with status | ⟨_, _, impossible⟩
          · rw [Command.statusOf] at status
            split at status
            · cases status
            · rcases eq_error_of_bind status with shown | ⟨_, _, impossible⟩
              · rcases Value.hinders_of_shown shown with impossible | impossible
                · cases impossible
                · cases impossible
              · cases impossible
          · cases impossible
        · cases impossible
    | describing className description => cases described
    | failing className failure =>
        obtain rfl := Except.error.inj described
        exact ⟨className, rfl⟩
    | plain value => cases described
  · split at failed
    · cases failed
    · cases failed

theorem unshowable_of_words {failure obstacle : Failure}
    (hindered : failure.words = .error obstacle) : ∃ kind, failure = .unshowable kind obstacle := by
  cases failure with
  | unshowable kind other =>
      obtain rfl := Except.error.inj hindered
      exact ⟨kind, rfl⟩
  | _ => cases hindered

/-- A failure is reported as what it is, as one to encode the record, or by what
stands in the way of showing it. -/
theorem reported_cases (cause : Failure) :
    (cause.isOrdinary = false ∧ reported cause = cause)
      ∨ (reported cause).isEncoding = true
      ∨ ∃ kind obstacle, cause = .unshowable kind obstacle ∧ kind.isOrdinary = true
        ∧ reported cause = obstacle := by
  rw [reported]
  split
  · next ordinary =>
      split
      · exact .inr (.inl rfl)
      · next obstacle hindered =>
          obtain ⟨kind, rfl⟩ := unshowable_of_words hindered
          exact .inr (.inr ⟨kind, obstacle, rfl, ordinary, rfl⟩)
  · next request =>
      rw [Bool.not_eq_true] at request
      exact .inl ⟨request, rfl⟩

/-- **An ordinary failure that does not say that a record cannot be encoded comes
of surrogates, or it is what stands in the way of showing another failure.** -/
theorem encode_stray_iff (record : Record) (failure : Failure) :
    record.encode = .error failure ∧ failure.isOrdinary = true ∧ failure.isEncoding = false
      ↔ (∃ document run, record.toJson = .ok document ∧ document.HoldsSurrogate
          ∧ document.render.encode = .error run ∧ failure = .surrogates run)
        ∨ ∃ className kind, record = .failing className (.unshowable kind failure)
          ∧ kind.isOrdinary = true ∧ failure.isOrdinary = true ∧ failure.isEncoding = false := by
  constructor
  · rintro ⟨failed, ordinary, stray⟩
    rcases (encode_eq_error_iff record failure).mp failed with ⟨cause, found, rfl⟩
      | ⟨document, run, found, refused, rfl⟩
    · rcases reported_cases cause with ⟨request, same⟩ | encoding
        | ⟨kind, obstacle, rfl, absorbable, is_obstacle⟩
      · rw [same, request] at ordinary
        cases ordinary
      · rw [encoding] at stray
        cases stray
      · obtain ⟨className, rfl⟩ := failing_of_unshowable found
        rw [is_obstacle] at ordinary stray ⊢
        exact .inr ⟨className, kind, rfl, absorbable, ordinary, stray⟩
    · exact .inl ⟨document, run, found, document.holdsSurrogate_iff.mpr ⟨run, refused⟩, refused,
        rfl⟩
  · rintro (⟨document, run, found, _, refused, rfl⟩ | ⟨className, kind, rfl, absorbable, rest⟩)
    · exact ⟨(encode_eq_error_iff record _).mpr (.inr ⟨document, run, found, refused, rfl⟩),
        rfl, rfl⟩
    · refine ⟨(encode_eq_error_iff _ failure).mpr (.inl ⟨_, rfl, ?_⟩), rest⟩
      rw [reported, Failure.isOrdinary, Failure.kind, if_pos absorbable]
      rfl

end Record

end Heartbeat
