import Heartbeat.Proofs.Record.Message

/-!
# Heartbeats can be told apart

A command whose fields are texts tells a message (`Command.Tells`).  Its canonical form is an
object in which each field stands under its name at most once, and a field that was not
given stands nowhere.  So the message is got back from the bytes
(`Message.ofDocument?_document`), and two commands have the same bytes only if they tell the
same.  A text in a field cannot pass for another field, since the reader takes it as one
text; nor can an empty text pass for one that was not given.

A command whose outcome is none has no bytes (`Command.encode_decodable`).
-/

namespace Heartbeat

set_option autoImplicit false

/-! ## Reading messages -/

namespace Json

/-- The text that a document is. -/
def text? : Json → Option Text
  | .string content => some content
  | _ => none

/-- The text under a name. -/
def textAt? (document : Json) (name : String) : Option Text :=
  (document.member? name).bind text?

end Json

namespace Message

/-- The message that an object says, if there are a command and an outcome in it. -/
def ofDocument? (document : Json) : Option Message := do
  let command ← document.textAt? "command"
  let status ← (document.textAt? "status").bind Status.ofText?
  return ⟨command, document.textAt? "context", document.textAt? "source", status⟩

/-- **A message is got back from the object that it is written as.** -/
theorem ofDocument?_document (message : Message) :
    ofDocument? message.document = some message := by
  have fields : message.document.textAt? "command" = some message.command
      ∧ message.document.textAt? "context" = message.context
      ∧ message.document.textAt? "source" = message.source
      ∧ message.document.textAt? "status" = some message.status.text := by
    obtain ⟨command, context, source, status⟩ := message
    -- Which of the optional members are there decides where the others stand.
    cases context <;> cases source <;> exact ⟨rfl, rfl, rfl, rfl⟩
  obtain ⟨command, context, source, status⟩ := fields
  rw [ofDocument?, command, context, source, status]
  show (Status.ofText? message.status.text >>= _) = _
  rw [Status.ofText?_text]
  rfl

/-- The bytes of a message are read as the object that it is written as. -/
theorem read_document {message : Message} (clean : message.Clean) :
    Bytes.decode? message.document.render.bytes = some message.document.render
      ∧ Json.read? message.document.render = some message.document := by
  have plain := ((Text.encode_eq_ok_iff _ _).mp (encode_document clean)).1
  exact ⟨Bytes.decode?_bytes _ plain, Json.read?_render message.document⟩

/-- Two messages are written in the same bytes only if they are the same. -/
theorem bytes_inj {message other : Message} (clean : message.Clean) (also : other.Clean) :
    message.document.render.bytes = other.document.render.bytes ↔ message = other := by
  refine ⟨fun same => ?_, fun same => same ▸ rfl⟩
  have first := (read_document clean).1
  rw [same, (read_document also).1] at first
  have written := (read_document clean).2
  rw [← Option.some.inj first, (read_document also).2] at written
  have found := ofDocument?_document message
  rw [← Option.some.inj written, ofDocument?_document other] at found
  exact (Option.some.inj found).symm

end Message

/-! ## What a command tells -/

/-- A field that may be missing holds a text, or it holds nothing. -/
inductive Value.HoldsText : Value → Option Text → Prop where
  | nothing : HoldsText .null none
  | text {field : Value} {content : Text} (found : field.text? = some content) :
      HoldsText field (some content)

namespace Value

variable {depth : Nat} {field : Value} {content key : Text} {text : Option Text}
  {entries : List (Value × Value)} {members : List (Text × Json)}

/-- A text is written as a text. -/
theorem toJsonAt_of_text? (found : field.text? = some content) :
    field.toJsonAt depth = .ok (.string content) := by
  cases field with
  | text text =>
      obtain rfl := Option.some.inj found
      rfl
  | status status =>
      obtain rfl := Option.some.inj found
      rfl
  | _ => cases found

/-- An entry for a text becomes a member in front of the others. -/
theorem entriesToJson_cons_text (found : field.text? = some content)
    (others : entriesToJson depth entries = .ok members) :
    entriesToJson depth ((.text key, field) :: entries)
      = .ok ((key, .string content) :: members) := by
  rw [entriesToJson, toJsonAt_of_text? found, others]
  rfl

/-- The entry for a field that may be missing becomes the member for what it holds. -/
theorem entriesToJson_optionalEntry (holds : field.HoldsText text) (key : String)
    (others : entriesToJson depth entries = .ok members) :
    entriesToJson depth (Command.optionalEntry key field ++ entries)
      = .ok (Message.member key text ++ members) := by
  cases holds with
  | nothing => exact others
  | text found =>
      have given : field.isNull = false := by
        cases field with
        | null => cases found
        | _ => rfl
      rw [Command.optionalEntry, given]
      exact entriesToJson_cons_text found others

end Value

namespace Command

/-- The fields of a command are texts, two of which may be missing, and its outcome is one or
names one.  So the command tells a message. -/
structure Tells (command : Command) (message : Message) : Prop where
  name : command.name.text? = some message.command
  context : command.context.HoldsText message.context
  source : command.source.HoldsText message.source
  status : command.status.status? = some message.status

/-- The names under which the fields of a command are written, in their order. -/
def fieldNames (command : Command) : List Text :=
  [Text.ofString "command"]
    ++ (if command.context.isNull then [] else [Text.ofString "context"])
    ++ (if command.source.isNull then [] else [Text.ofString "source"])
    ++ [Text.ofString "status"]

theorem nodup_fieldNames (command : Command) : command.fieldNames.Nodup := by
  rw [fieldNames]
  cases command.context.isNull <;> cases command.source.isNull <;> decide

variable {command : Command} {message : Message}

/-- A command is written as the object of the message that it tells. -/
theorem Tells.toJson (tells : command.Tells message) :
    (Record.command command).toJson = .ok message.document := by
  have described : (Record.command command).payload
      = .ok (.dict ([(.text "command", command.name)]
        ++ optionalEntry "context" command.context ++ optionalEntry "source" command.source
        ++ [(.text "status", .text message.status.text)])) := by
    rw [Record.payload, entries, statusOf, tells.status]
    rfl
  have members : Value.entriesToJson 1 ([(.text "command", command.name)]
        ++ optionalEntry "context" command.context ++ optionalEntry "source" command.source
        ++ [(.text "status", .text message.status.text)])
      = .ok (Message.member "command" (some message.command)
        ++ Message.member "context" message.context ++ Message.member "source" message.source
        ++ Message.member "status" (some message.status.text)) := by
    simp only [List.append_assoc, List.singleton_append]
    apply Value.entriesToJson_cons_text tells.name
    apply Value.entriesToJson_optionalEntry tells.context
    apply Value.entriesToJson_optionalEntry tells.source
    rfl
  rw [Record.toJson_of_payload described, Value.toJson, Value.toJsonAt, if_pos (by decide), members]
  rfl

/-- The object has a member for each field that was given. -/
theorem Tells.names (tells : command.Tells message) :
    ∃ members, message.document = .object members
      ∧ members.map Prod.fst = command.fieldNames := by
  refine ⟨_, rfl, ?_⟩
  have named : ∀ {field : Value} {text : Option Text}, field.HoldsText text → ∀ name : String,
      (Message.member name text).map Prod.fst
        = if field.isNull then [] else [Text.ofString name] := by
    intro field text holds name
    cases holds with
    | nothing => rfl
    | text found =>
        cases field with
        | null => cases found
        | _ => rfl
  simp only [List.map_append, named tells.context, named tells.source]
  rfl

theorem Tells.encode (tells : command.Tells message) (clean : message.Clean) :
    (Record.command command).encode = .ok message.document.render.bytes :=
  (Record.encode_eq_ok_iff _ _).mpr ⟨_, tells.toJson, Message.encode_document clean⟩

/-- A command whose outcome is none is not written. -/
theorem encode_ne_ok_of_status (other : command.status.status? = none) (bytes : Bytes) :
    (Record.command command).encode ≠ .ok bytes := by
  have refused : ∃ cause, (Record.command command).payload = .error cause := by
    rw [Record.payload, entries, statusOf, other]
    cases command.status.shown with
    | ok shown => exact ⟨_, rfl⟩
    | error failure => exact ⟨_, rfl⟩
  obtain ⟨cause, refused⟩ := refused
  rw [Record.encode_of_payload_error refused]
  intro impossible
  cases impossible

/-- **Heartbeats can be decoded.**  A command that tells a message without surrogates has a
canonical form.  Read strictly it is an object with the names of the fields that were given,
in their order and each once, from which the message is got back.  Hence two such commands
have the same bytes if and only if they tell the same, a missing text not being an empty
one.  A command whose outcome is none has no canonical form. -/
theorem encode_decodable :
    (∀ (command : Command) (message : Message), command.Tells message → message.Clean →
      ∃ bytes text members, (Record.command command).encode = .ok bytes
        ∧ Bytes.decode? bytes = some text ∧ Json.read? text = some (.object members)
        ∧ members.map Prod.fst = command.fieldNames ∧ command.fieldNames.Nodup
        ∧ Message.ofDocument? (.object members) = some message)
      ∧ (∀ (command other : Command) (message also : Message), command.Tells message →
        message.Clean → other.Tells also → also.Clean →
        ((Record.command command).encode = (Record.command other).encode ↔ message = also))
      ∧ ∀ command : Command, command.status.status? = none →
        ∀ bytes, (Record.command command).encode ≠ .ok bytes := by
  refine ⟨?_, ?_, fun command other => encode_ne_ok_of_status other⟩
  · intro command message tells clean
    obtain ⟨decoded, read⟩ := Message.read_document clean
    obtain ⟨members, is_object, named⟩ := tells.names
    refine ⟨_, _, members, tells.encode clean, decoded, is_object ▸ read, named,
      command.nodup_fieldNames, ?_⟩
    rw [← is_object]
    exact message.ofDocument?_document
  · intro command other message also tells clean retells cleanly
    rw [tells.encode clean, retells.encode cleanly, Except.ok.injEq]
    exact Message.bytes_inj clean cleanly

/-- A command whose name imitates the member of a context is not taken for a command with
that context, and an empty context is not taken for none. -/
theorem encode_decodable_imitation :
    let imitation : Command := ⟨.text "a\",\"context\":\"b", .null, .null, .text "failure"⟩
    let genuine : Command := ⟨.text "a", .text "b", .null, .status .failure⟩
    let vague : Command := ⟨.text "a", .text [], .null, .status .failure⟩
    let silent : Command := ⟨.text "a", .null, .null, .status .failure⟩
    (∃ bytes text members, (Record.command imitation).encode = .ok bytes
        ∧ Bytes.decode? bytes = some text ∧ Json.read? text = some (.object members)
        ∧ members.map Prod.fst = imitation.fieldNames ∧ imitation.fieldNames.Nodup
        ∧ Message.ofDocument? (.object members)
          = some ⟨"a\",\"context\":\"b", none, none, .failure⟩)
      ∧ (Record.command imitation).encode ≠ (Record.command genuine).encode
      ∧ (Record.command vague).encode ≠ (Record.command silent).encode
      ∧ ∀ bytes, (Record.command ⟨.text "a", .null, .null, .text "done"⟩).encode ≠ .ok bytes := by
  intro imitation genuine vague silent
  obtain ⟨decodable, injective, refused⟩ := encode_decodable
  have imitates : imitation.Tells ⟨"a\",\"context\":\"b", none, none, .failure⟩ :=
    ⟨rfl, .nothing, .nothing, by decide⟩
  have is_genuine : genuine.Tells ⟨"a", some "b", none, .failure⟩ :=
    ⟨rfl, .text rfl, .nothing, rfl⟩
  have is_vague : vague.Tells ⟨"a", some [], none, .failure⟩ := ⟨rfl, .text rfl, .nothing, rfl⟩
  have is_silent : silent.Tells ⟨"a", none, none, .failure⟩ := ⟨rfl, .nothing, .nothing, rfl⟩
  refine ⟨decodable imitation _ imitates (by decide), ?_, ?_, refused _ (by decide)⟩
  · rw [ne_eq, injective _ _ _ _ imitates (by decide) is_genuine (by decide)]
    exact nofun
  · rw [ne_eq, injective _ _ _ _ is_vague (by decide) is_silent (by decide)]
    exact nofun

end Command

end Heartbeat
