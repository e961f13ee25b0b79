import Heartbeat.Value
import Heartbeat.Failure

/-!
# Values in messages

A message that complains about a value shows it: texts between quotes, containers
with their brackets and their contents, an outcome with its class.  A container
that would be shown inside itself is shown as three dots between its brackets.

Showing a value may fail in its turn, since an integer can be too long to be
written and containers can be nested too deeply.
-/

namespace Heartbeat

set_option autoImplicit false

/-- The brackets of a container that can be referred to from inside. -/
inductive Brackets where
  | square
  | curly
deriving DecidableEq

namespace Brackets

/-- The opening bracket. -/
def opening : Brackets → CodePoint
  | .square => 0x5B
  | .curly => 0x7B

/-- The closing bracket. -/
def closing : Brackets → CodePoint
  | .square => 0x5D
  | .curly => 0x7D

/-- A text between brackets. -/
def around (brackets : Brackets) (text : Text) : Text :=
  [brackets.opening] ++ text ++ [brackets.closing]

end Brackets

namespace Value

/-- An integer in decimal, if it is short enough. -/
def shownInt (number : Int) : Except Failure Text :=
  if isWritable number then .ok (Text.ofInt number) else .error .longInteger

/-- The form of an outcome that names its class. -/
def shownStatus (outcome : Status) : Text :=
  ("<CommandStatus." : Text) ++ outcome.text ++ ": '" ++ outcome.text ++ "'>"

/-- The separator between the items of a container. -/
def comma : Text := ", "

mutual
/-- A value inside a message.  `around` lists the brackets of the enclosing lists
and dictionaries from the inside, and `depth` counts everything that encloses. -/
def shownWithin (around : List Brackets) (depth : Nat) : Value → Except Failure Text
  | .null => .ok "None"
  | .bool true => .ok "True"
  | .bool false => .ok "False"
  | .int number => shownInt number
  | .double number => .ok number.render
  | .text content => .ok content.quoted
  | .status outcome => .ok (shownStatus outcome)
  | .list items =>
    if depth < depthBound then do
      return Brackets.square.around (← shownItems (.square :: around) (depth + 1) items)
    else .error .tooDeepToShow
  | .tuple items =>
    if depth < depthBound then do
      let shown ← shownItems around (depth + 1) items
      return ("(" : Text) ++ shown ++ (if items.length = 1 then ",)" else ")" : Text)
    else .error .tooDeepToShow
  | .dict entries =>
    if depth < depthBound then do
      return Brackets.curly.around (← shownEntries (.curly :: around) (depth + 1) entries)
    else .error .tooDeepToShow
  | .command name context source outcome =>
    if depth < depthBound then do
      return ("Command(command=" : Text) ++ (← shownWithin around (depth + 1) name)
        ++ ", context=" ++ (← shownWithin around (depth + 1) context)
        ++ ", source=" ++ (← shownWithin around (depth + 1) source)
        ++ ", status=" ++ (← shownWithin around (depth + 1) outcome) ++ ")"
    else .error .tooDeepToShow
  | .foreign name => .ok (("<" : Text) ++ name ++ " object>")
  | .enclosing level => .ok ((around.getD level .square).around "...")

/-- The items of a container, with separators. -/
def shownItems (around : List Brackets) (depth : Nat) : List Value → Except Failure Text
  | [] => .ok []
  | item :: items => do
    let shown ← shownWithin around depth item
    let others ← shownItems around depth items
    return if items.isEmpty then shown else shown ++ comma ++ others

/-- The entries of a dictionary, with separators. -/
def shownEntries (around : List Brackets) (depth : Nat) :
    List (Value × Value) → Except Failure Text
  | [] => .ok []
  | (key, value) :: entries => do
    let shownKey ← shownWithin around depth key
    let shownValue ← shownWithin around depth value
    let others ← shownEntries around depth entries
    let shown := shownKey ++ ": " ++ shownValue
    return if entries.isEmpty then shown else shown ++ comma ++ others
end

/-- A value in the form that shows what it is. -/
def shown (value : Value) : Except Failure Text := shownWithin [] 0 value

/-- A value in the form for a reader: a text is itself, an outcome is named by its
class, and everything else is shown. -/
def plain : Value → Except Failure Text
  | .text content => .ok content
  | .status outcome => .ok (("CommandStatus." : Text) ++ outcome.text)
  | value => value.shown

end Value

namespace Failure

/-- The failure of a collaborator that was raised with one argument or none.  The
message is the argument in plain form; only a missing key is shown as what it is.
The argument may be such that it cannot be shown. -/
def raised (kind : FailureKind) (argument : Option Value) : Failure :=
  match argument with
  | none => .external kind []
  | some value =>
    match (if kind = .key then value.shown else value.plain) with
    | .ok message => .external kind message
    | .error obstacle => .unshowable kind obstacle

end Failure

end Heartbeat
