import Heartbeat.Record
import Heartbeat.Json

/-!
# The canonical form of a record

The canonical form is compact JSON in UTF-8.  A value is turned into a document
first, and only this step can find an offence: values of a class that the format
does not know, keys that are no names, numbers that are not finite, integers that
are too long, containers inside themselves and containers nested too deeply.  The
first offence in the order of writing is reported.  Writing the document cannot
fail.

A record that cannot be encoded is reported as one kind of failure, whatever
stood in the way, with the cause in its message.  A request to stop that is
raised while a record describes itself is not wrapped.  Surrogates are found only
when the text becomes bytes, and are reported as what they are.
-/

namespace Heartbeat

set_option autoImplicit false

namespace Value

/-! ## Keys -/

/-- The name that a key stands for in an object. -/
def keyName : Value → Except Offence Text
  | .text content => .ok content
  | .status outcome => .ok outcome.text
  | .double (.finite number) => .ok number.render
  | .double _ => .error .nonFinite
  | .bool value => .ok (Json.renderBool value)
  | .null => .ok "null"
  | .int number => if isWritable number then .ok (Text.ofInt number) else .error .longInteger
  | value => .error (.badKey value.className)

/-! ## Values -/

mutual
/-- The document of a value that stands inside `depth` containers. -/
def toJsonAt (depth : Nat) : Value → Except Offence Json
  | .null => .ok .null
  | .bool value => .ok (.bool value)
  | .int number => if isWritable number then .ok (.int number) else .error .longInteger
  | .double (.finite number) => .ok (.double number)
  | .double _ => .error .nonFinite
  | .text content => .ok (.string content)
  | .status outcome => .ok (.string outcome.text)
  | .list items =>
    if depth < depthBound then do return .array (← itemsToJson (depth + 1) items)
    else .error .tooDeep
  | .tuple items =>
    if depth < depthBound then do return .array (← itemsToJson (depth + 1) items)
    else .error .tooDeep
  | .dict entries =>
    if depth < depthBound then do return .object (← entriesToJson (depth + 1) entries)
    else .error .tooDeep
  | .enclosing _ => if depth < depthBound then .error .circular else .error .tooDeep
  | .command .. => .error (.unserializable "Command")
  | .foreign name => .error (.unserializable name)

/-- The documents of the items of a container, from left to right. -/
def itemsToJson (depth : Nat) : List Value → Except Offence (List Json)
  | [] => .ok []
  | item :: items => do
    let document ← toJsonAt depth item
    let documents ← itemsToJson depth items
    return document :: documents

/-- The members for the entries of a dictionary.  A key is looked at before its
value. -/
def entriesToJson (depth : Nat) : List (Value × Value) → Except Offence (List (Text × Json))
  | [] => .ok []
  | (key, value) :: entries => do
    let name ← keyName key
    let document ← toJsonAt depth value
    let members ← entriesToJson depth entries
    return (name, document) :: members
end

/-- The document of a value. -/
def toJson (value : Value) : Except Offence Json := toJsonAt 0 value

end Value

namespace Record

/-- The document of a record's description. -/
def toJson (record : Record) : Except Failure Json := do
  match (← record.payload).toJson with
  | .ok document => return document
  | .error offence => throw (.unwritable offence)

/-- How a failure to describe a record is reported.  Where its wording cannot be shown,
it is reported what stands in the way. -/
def reported (failure : Failure) : Failure :=
  if failure.isOrdinary then
    match failure.words with
    | .ok message => .encoding failure.kind message
    | .error obstacle => obstacle
  else failure

/-- The canonical form of a record. -/
def encode (record : Record) : Except Failure Bytes :=
  match record.toJson with
  | .error failure => .error (reported failure)
  | .ok document =>
    match document.render.encode with
    | .ok bytes => .ok bytes
    | .error run => .error (.surrogates run)

end Record

end Heartbeat
