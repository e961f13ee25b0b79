import Heartbeat.Number.Shortest

/-!
# JSON

The documents of the JSON format, with whole numbers apart from numbers with a
fraction or an exponent, and with objects as ordered lists of members.  Writing a
document is compact: no blank stands between tokens.  In a text only the double
quote, the backslash and the controls below `U+0020` are escaped.
-/

namespace Heartbeat

set_option autoImplicit false

/-- A JSON document. -/
inductive Json where
  | null
  | bool (value : Bool)
  | int (value : Int)
  | double (value : FiniteDouble)
  | string (value : Text)
  | array (items : List Json)
  /-- An object.  Members keep their order, and a name may occur again. -/
  | object (members : List (Text × Json))

namespace Json

/-! ## Texts -/

/-- The form of one code point in a text. -/
def escape (point : CodePoint) : Text :=
  if point = CodePoint.doubleQuote then "\\\""
  else if point = CodePoint.backslash then "\\\\"
  else if point = 0x08 then "\\b"
  else if point = 0x0C then "\\f"
  else if point = 0x0A then "\\n"
  else if point = 0x0D then "\\r"
  else if point = 0x09 then "\\t"
  else if point.val < 0x20 then ("\\u" : Text) ++ Text.hexadecimal 4 point.val
  else [point]

/-- A text between double quotes. -/
def renderText (text : Text) : Text :=
  [CodePoint.doubleQuote] ++ text.flatMap escape ++ [CodePoint.doubleQuote]

/-! ## Documents -/

/-- The words for the truth values. -/
def renderBool (value : Bool) : Text := if value then "true" else "false"

mutual
/-- The text of a document. -/
def render : Json → Text
  | .null => "null"
  | .bool value => renderBool value
  | .int value => Text.ofInt value
  | .double value => value.render
  | .string value => renderText value
  | .array items => [0x5B] ++ renderItems items ++ [0x5D]
  | .object members => [0x7B] ++ renderMembers members ++ [0x7D]

/-- The items of an array, with a comma between neighbours. -/
def renderItems : List Json → Text
  | [] => []
  | item :: items => item.render ++ renderMoreItems items

/-- The items after the first, each behind its comma. -/
def renderMoreItems : List Json → Text
  | [] => []
  | item :: items => [0x2C] ++ item.render ++ renderMoreItems items

/-- The members of an object, with a comma between neighbours. -/
def renderMembers : List (Text × Json) → Text
  | [] => []
  | (name, value) :: members =>
    renderText name ++ [0x3A] ++ value.render ++ renderMoreMembers members

/-- The members after the first, each behind its comma. -/
def renderMoreMembers : List (Text × Json) → Text
  | [] => []
  | (name, value) :: members =>
    [0x2C] ++ renderText name ++ [0x3A] ++ value.render ++ renderMoreMembers members
end

/-! ## Members -/

/-- The value of the first member with a name. -/
def member? (document : Json) (name : String) : Option Json :=
  match document with
  | .object members =>
    (members.find? fun (candidate, _) => candidate.is name).map Prod.snd
  | _ => none

end Json

end Heartbeat
