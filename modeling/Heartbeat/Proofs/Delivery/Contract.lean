import Heartbeat.Proofs.Delivery.Attempts
import Heartbeat.Proofs.Record.Failure

/-!
# What sinks raise

A sink is meant to raise nothing but requests to stop.  A stream sink absorbs
whatever its destination raises, so it is the record alone that decides whether it
keeps to this: it does not if the record holds a surrogate, or if the record fails
to describe itself with a failure that cannot be shown (`Sink.report_stream_raises_iff`).
Then nothing is written and nothing is logged.

A collector sink absorbs what a post raises, and what closing the answer raises.  It does
not absorb what looking for the operation that closes the answer raises, so with a record
that can be encoded it is the answer alone that decides (`Sink.report_http_raises_iff`).
Then the post was made, and nothing is logged.
-/

namespace Heartbeat

set_option autoImplicit false

/-! ## Answers -/

namespace Delivery

/-- Closing an answer lets an ordinary failure through in one case only: looking for the
operation fails, and not because the answer lacks it.  The world stays as it was. -/
theorem run_release_error_iff (logger : LoggerName) (response : Response) (world later : World)
    (failure : Failure) :
    (release logger response).run.run world = (.error failure, later)
        ∧ failure.isOrdinary = true
      ↔ later = world ∧ (∃ client, response = .stub client (.unreadable failure))
        ∧ failure.kind ≠ .missingAttribute ∧ failure.isOrdinary = true := by
  -- Where the operation is found, whatever calling it raises is absorbed.
  have absorbs : ∀ (label : Option Label) (trouble : Option Failure), ¬ (
      (absorbing (do noteClose label; failIf trouble) fun cause =>
          log logger (.responseCloseFailed cause)).run.run world = (.error failure, later)
        ∧ failure.isOrdinary = true) := by
    rintro label trouble ⟨raised, ordinary⟩
    have stopped := not_isOrdinary_of_absorbing (fun _ _ => ⟨(), rfl⟩) (congrArg Prod.fst raised)
    rw [ordinary] at stopped
    cases stopped
  cases response with
  | nothing => exact ⟨nofun, nofun⟩
  | network status => exact ⟨fun raises => absurd raises (absorbs none _), nofun⟩
  | stub client offer =>
      cases offer with
      | missing => exact ⟨nofun, nofun⟩
      | inert => exact ⟨nofun, nofun⟩
      | working => exact ⟨fun raises => absurd raises (absorbs (some client) none), nofun⟩
      | failing cause =>
          exact ⟨fun raises => absurd raises (absorbs (some client) (some cause)), nofun⟩
      | unreadable cause =>
          rw [release, run_bind, closeOffer]
          by_cases lacks : cause.kind = .missingAttribute
          · rw [if_pos lacks]
            constructor
            · rintro ⟨⟨⟩, _⟩
            · rintro ⟨_, ⟨_, same⟩, otherwise, _⟩
              cases same
              exact absurd lacks otherwise
          · rw [if_neg lacks]
            constructor
            · rintro ⟨raised, ordinary⟩
              obtain ⟨same, rfl⟩ := Prod.mk.inj raised
              obtain rfl := Except.error.inj same
              exact ⟨rfl, ⟨client, rfl⟩, lacks, ordinary⟩
            · rintro ⟨rfl, ⟨_, same⟩, _, ordinary⟩
              cases same
              exact ⟨rfl, ordinary⟩

end Delivery

namespace Sink

open Delivery

/-! ## Streams -/

/-- **A stream sink raises an ordinary failure exactly in two cases.**  Either the
record has a document and a text of the document holds a surrogate, or the record
fails to describe itself, ordinarily, with a failure whose wording cannot be shown.
In both cases the world stays as it was, and how the destination behaves is of no
account. -/
theorem report_stream_raises_iff (destination : Label) (logger : LoggerName) (record : Record)
    (world later : World) (failure : Failure) :
    ((Sink.stream destination logger).report record).run.run world = (.error failure, later)
        ∧ failure.isOrdinary = true
      ↔ later = world
        ∧ ((∃ document run, record.toJson = .ok document ∧ document.HoldsSurrogate
            ∧ document.render.encode = .error run ∧ failure = .surrogates run)
          ∨ ∃ className kind, record = .failing className (.unshowable kind failure)
            ∧ kind.isOrdinary = true ∧ failure.isOrdinary = true
            ∧ failure.isEncoding = false) := by
  rw [← Record.encode_stray_iff, report, reportToStream, run_withEntry]
  constructor
  · rintro ⟨raised, ordinary⟩
    split at raised
    · have stopped := not_isOrdinary_of_absorbing (fun _ _ => ⟨(), rfl⟩)
        (congrArg Prod.fst raised)
      rw [ordinary] at stopped
      cases stopped
    · next cause failed =>
        split at raised
        · cases raised
        · next stray =>
            obtain ⟨same, rfl⟩ := Prod.mk.inj raised
            obtain rfl := Except.error.inj same
            exact ⟨rfl, failed, ordinary, Bool.not_eq_true _ ▸ stray⟩
  · rintro ⟨rfl, failed, ordinary, stray⟩
    rw [failed]
    dsimp only
    rw [stray, if_neg Bool.false_ne_true]
    exact ⟨rfl, ordinary⟩

/-- A lone surrogate gets out of a stream sink. -/
example (logger : LoggerName) (world : World) :
    ((Sink.stream .console logger).report (.plain (.text [0xD800]))).run.run world
      = (.error (.surrogates ⟨0xD800, 1, 1⟩), world) := rfl

/-! ## Collectors -/

/-- A collector sink raises an ordinary failure if the post returns an answer that raises it
when it is looked at, and on no other account. -/
theorem collector_raises_iff {record : Record} {entry : Bytes}
    (encoded : record.encode = .ok entry) (client : Label) (logger : LoggerName)
    (world later : World) (failure : Failure) :
    (reportToCollector client logger record).run.run world = (.error failure, later)
        ∧ failure.isOrdinary = true
      ↔ (∃ label, (post client usageEndpoint entry).run.run world
          = (.ok (.stub label (.unreadable failure)), later))
        ∧ failure.kind ≠ .missingAttribute ∧ failure.isOrdinary = true := by
  rw [run_reportToCollector encoded]
  rcases (post client usageEndpoint entry).run.run world with ⟨cause | response, posted⟩
  · dsimp only
    refine ⟨?_, nofun⟩
    rintro ⟨raised, ordinary⟩
    split at raised
    · cases raised
    · next stop =>
        obtain rfl := Except.error.inj (Prod.mk.inj raised).1
        exact absurd ordinary stop
  · dsimp only
    rw [run_release_error_iff]
    constructor
    · rintro ⟨rfl, ⟨label, rfl⟩, kind, ordinary⟩
      exact ⟨⟨label, rfl⟩, kind, ordinary⟩
    · rintro ⟨⟨label, same⟩, kind, ordinary⟩
      obtain ⟨answered, rfl⟩ := Prod.mk.inj same
      exact ⟨rfl, ⟨label, Except.ok.inj answered⟩, kind, ordinary⟩

/-- A post returns an answer that cannot be looked at if the client is a stub with such
answers and this post does not fail. -/
theorem post_unreadable_iff (client : Label) (entry : Bytes) (world later : World)
    (failure : Failure) :
    (∃ label, (post client usageEndpoint entry).run.run world
        = (.ok (.stub label (.unreadable failure)), later))
      ↔ ∃ failures posts, world.client client = .stub failures (some (.unreadable failure)) posts
        ∧ scripted failures posts = none
        ∧ later = (world.note (@Event.post jsonContent client usageEndpoint entry)).setClient
          client (.stub failures (some (.unreadable failure)) (posts + 1)) := by
  rw [run_post]
  cases world.client client with
  | session timeout network sends =>
      refine ⟨?_, nofun⟩
      rintro ⟨label, answered⟩
      dsimp only at answered
      split at answered <;> cases (Prod.mk.inj answered).1
  | stub failures close posts =>
      dsimp only
      constructor
      · rintro ⟨label, answered⟩
        obtain ⟨outcome, rfl⟩ := Prod.mk.inj answered
        cases fails : scripted failures posts with
        | some cause =>
            rw [fails] at outcome
            cases outcome
        | none =>
            rw [fails] at outcome
            cases close with
            | none => cases outcome
            | some offer =>
                cases outcome
                exact ⟨failures, posts, rfl, fails, rfl⟩
      · rintro ⟨_, _, same, works, rfl⟩
        cases same
        rw [works]
        exact ⟨client, rfl⟩

/-- **A collector sink raises an ordinary failure exactly in two cases.**  Either the record
fails to describe itself with a failure that is none of encoding; then nothing is posted
and the world stays as it was.  Or the record is posted, the post returns, and looking for
the operation that closes the answer fails with this failure, and not because the answer
lacks the operation; then the post was made and nothing is logged.  Whatever a post or
the operation that closes an answer raises when it is called is absorbed. -/
theorem report_http_raises_iff (client : Label) (logger : LoggerName) (record : Record)
    (world later : World) (failure : Failure) :
    ((Sink.http client logger).report record).run.run world = (.error failure, later)
        ∧ failure.isOrdinary = true
      ↔ failure.isOrdinary = true
        ∧ ((later = world ∧ record.encode = .error failure ∧ failure.isEncoding = false)
          ∨ ∃ entry failures posts, record.encode = .ok entry
            ∧ world.client client = .stub failures (some (.unreadable failure)) posts
            ∧ scripted failures posts = none ∧ failure.kind ≠ .missingAttribute
            ∧ later = (world.note (@Event.post jsonContent client usageEndpoint entry)).setClient
              client (.stub failures (some (.unreadable failure)) (posts + 1))) := by
  rw [report]
  cases encoded : record.encode with
  | error cause =>
      rw [reportToCollector, run_withEntry, encoded]
      dsimp only
      constructor
      · rintro ⟨raised, ordinary⟩
        split at raised
        · cases raised
        · next stray =>
            obtain ⟨same, rfl⟩ := Prod.mk.inj raised
            obtain rfl := Except.error.inj same
            exact ⟨ordinary, .inl ⟨rfl, rfl, Bool.not_eq_true _ ▸ stray⟩⟩
      · rintro ⟨ordinary, ⟨rfl, same, stray⟩ | ⟨_, _, _, same, _⟩⟩
        · obtain rfl := Except.error.inj same
          rw [stray, if_neg Bool.false_ne_true]
          exact ⟨rfl, ordinary⟩
        · cases same
  | ok entry =>
      rw [collector_raises_iff encoded, post_unreadable_iff]
      constructor
      · rintro ⟨⟨failures, posts, held, works, rfl⟩, kind, ordinary⟩
        exact ⟨ordinary, .inr ⟨entry, failures, posts, rfl, held, works, kind, rfl⟩⟩
      · rintro ⟨ordinary, ⟨_, same, _⟩ | ⟨_, failures, posts, same, held, works, kind, rfl⟩⟩
        · cases same
        · obtain rfl := Except.ok.inj same
          exact ⟨⟨failures, posts, held, works, rfl⟩, kind, ordinary⟩

/-- An answer that cannot be looked at gets out of a collector sink, and the post was made. -/
example (logger : LoggerName) :
    let failure : Failure := .external .system "disk full"
    let client : Client := .stub [] (some (.unreadable failure)) 0
    let world := (World.initial ⟨[], [], []⟩ []).setClient (.given "c") client
    let done := ((Sink.http (.given "c") logger).report (.plain .null)).run.run world
    done.1 = .error failure ∧ failure.isOrdinary = true
      ∧ done.2.trace = [@Event.post jsonContent (.given "c") usageEndpoint (Text.bytes "null")] :=
  ⟨rfl, rfl, rfl⟩

end Sink

end Heartbeat
