import Heartbeat.Proofs.Record.Acceptance

/-!
# The line of a heartbeat

What a heartbeat says is a message: what was run, perhaps in which context and on whose
behalf, and how it ended.  In the canonical form these stand one after the other in an
object, and what was not given is left out; a context that was given empty is there
(`Message.document`).

A message whose texts can be written in bytes always is (`Message.encode_record`).
-/

namespace Heartbeat

set_option autoImplicit false

/-- What a heartbeat says. -/
structure Message where
  command : Text
  context : Option Text
  source : Option Text
  status : Status

namespace Message

/-- The member for a text that may be missing. -/
def member (name : String) (text : Option Text) : List (Text × Json) :=
  text.toList.map fun text => (Text.ofString name, .string text)

/-- The object that a heartbeat is. -/
def document (message : Message) : Json :=
  .object (member "command" (some message.command) ++ member "context" message.context
    ++ member "source" message.source ++ member "status" (some message.status.text))

/-- The line that a heartbeat is: its canonical form in bytes, and the line feed. -/
def line (message : Message) : Bytes := message.document.render.bytes ++ [0x0A]

/-- No text of a message holds a surrogate. -/
def Clean (message : Message) : Prop :=
  ∀ text ∈ message.command :: (message.context.toList ++ message.source.toList),
    ∀ point ∈ text, point.isSurrogate = false

instance (message : Message) : Decidable message.Clean :=
  decidable_of_iff ((message.command :: (message.context.toList ++ message.source.toList)).all
    (fun text => text.all fun point => !point.isSurrogate) = true) (by
      simp only [Clean, List.all_eq_true, Bool.not_eq_true'])

/-- The record that a heartbeat is. -/
def record (message : Message) : Record :=
  .command ⟨.text message.command, Value.ofText? message.context, Value.ofText? message.source,
    .status message.status⟩

theorem toJson_record (message : Message) : message.record.toJson = .ok message.document := by
  obtain ⟨command, context, source, status⟩ := message
  cases context <;> cases source <;> rfl

/-- The member for a text is written without surrogates if the text is. -/
theorem clean_of_mem_member {name : String} {text : Option Text} {found : Text × Json}
    (named : (Text.ofString name).all (fun point => !point.isSurrogate) = true)
    (clean : ∀ content ∈ text, ∀ point ∈ content, point.isSurrogate = false)
    (listed : found ∈ member name text) :
    ¬ ((∃ point ∈ found.1, point.isSurrogate = true) ∨ found.2.HoldsSurrogate) := by
  obtain ⟨content, given, rfl⟩ := List.mem_map.mp listed
  rw [Json.holdsSurrogate_string_iff]
  rintro (⟨point, inside, surrogate⟩ | ⟨point, inside, surrogate⟩)
  · have other := List.all_eq_true.mp named point inside
    rw [surrogate] at other
    cases other
  · rw [clean content (Option.mem_toList.mp given) point inside] at surrogate
    cases surrogate

/-- Without surrogates the object of a heartbeat can be written in bytes. -/
theorem encode_document {message : Message} (clean : message.Clean) :
    message.document.render.encode = .ok message.document.render.bytes := by
  have free : ¬ message.document.HoldsSurrogate := by
    rw [document, Json.holdsSurrogate_object_iff]
    rintro ⟨found, listed, holds⟩
    simp only [List.mem_append] at listed
    rcases listed with ((command | context) | source) | status
    · refine clean_of_mem_member (by decide) ?_ command holds
      intro content given
      exact clean content (Option.some.inj given ▸ List.mem_cons_self ..)
    · refine clean_of_mem_member (by decide) ?_ context holds
      intro content given
      apply clean content
      simp [Option.mem_def.mp given]
    · refine clean_of_mem_member (by decide) ?_ source holds
      intro content given
      apply clean content
      simp [Option.mem_def.mp given]
    · refine clean_of_mem_member (by decide) ?_ status holds
      intro content given
      obtain rfl := Option.some.inj given
      exact Value.not_isSurrogate_of_mem_status message.status
  have plain : ∀ text ∈ message.document.texts, ∀ point ∈ text, point.isSurrogate = false := by
    intro text listed point inside
    by_contra surrogate
    rw [Bool.not_eq_false] at surrogate
    exact free ⟨text, listed, point, inside, surrogate⟩
  exact (Json.encode_render_eq_ok_iff message.document _).mpr ⟨plain, rfl⟩

/-- **A heartbeat without surrogates is written as the object that it is.** -/
theorem encode_record {message : Message} (clean : message.Clean) :
    message.record.encode = .ok message.document.render.bytes := by
  rw [Record.encode_eq_ok_iff]
  exact ⟨_, message.toJson_record, encode_document clean⟩

end Message

end Heartbeat
