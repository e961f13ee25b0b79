import Heartbeat.Number.Shortest
import Heartbeat.Status

/-!
# Values

Records are put together by callers whom nobody checks, so a record is made of
values of any class: the ones that the JSON format knows, an outcome, a command,
or an object of some foreign class of which nothing is known but the class's name.

Containers may contain themselves.  A value is nevertheless a finite tree,
because a place where a container would be met again inside itself is written as
a reference to an enclosing container.  References count the lists and the
dictionaries around them, from the inside; tuples and commands are passed over.
A container that is merely shared stands in the tree once for each place.
-/

namespace Heartbeat

set_option autoImplicit false

/-- A value. -/
inductive Value where
  /-- Nothing. -/
  | null
  | bool (value : Bool)
  | int (value : Int)
  | double (value : Double)
  | text (value : Text)
  | status (value : Status)
  | list (items : List Value)
  | tuple (items : List Value)
  /-- A dictionary, with its entries in the order of insertion. -/
  | dict (entries : List (Value × Value))
  /-- A command: what was run, in which context, on whose behalf, and how it
  ended.  The fields are not checked. -/
  | command (command context source status : Value)
  /-- An object of a class that the library does not know. -/
  | foreign (className : Text)
  /-- The list or dictionary that many levels out, the innermost having level
  zero. -/
  | enclosing (level : Nat)

namespace Value

/-- The name of the class of a value. -/
def className : Value → Text
  | .null => "NoneType"
  | .bool _ => "bool"
  | .int _ => "int"
  | .double _ => "float"
  | .text _ => "str"
  | .status _ => "CommandStatus"
  | .list _ => "list"
  | .tuple _ => "tuple"
  | .dict _ => "dict"
  | .command .. => "Command"
  | .foreign name => name
  | .enclosing _ => "list"

/-- Whether a value is nothing. -/
def isNull : Value → Bool
  | .null => true
  | _ => false

/-- Whether a value counts as true where a truth value is wanted. -/
def isTruthy : Value → Bool
  | .null => false
  | .bool value => value
  | .int value => decide (value ≠ 0)
  | .double (.finite number) => !number.isZero
  | .double _ => true
  | .text value => !value.isEmpty
  | .status _ => true
  | .list items => !items.isEmpty
  | .tuple items => !items.isEmpty
  | .dict entries => !entries.isEmpty
  | .command .. => true
  | .foreign _ => true
  | .enclosing _ => true

/-- The text of a value that is a text or an outcome. -/
def text? : Value → Option Text
  | .text value => some value
  | .status value => some value.text
  | _ => none

/-- A text that may be missing, as a value. -/
def ofText? : Option Text → Value
  | some content => .text content
  | none => .null

/-- The outcome that a value is or names. -/
def status? : Value → Option Status
  | .status value => some value
  | .text value => Status.ofText? value
  | _ => none

end Value

/-! ## Limits -/

/-- The first magnitude with more than 4300 digits. -/
def digitBound : Nat := Nat.pow 10 4300

/-- How many containers may stand inside each other. -/
def depthBound : Nat := 1000

/-- Whether an integer is short enough to be written. -/
def isWritable (number : Int) : Bool := decide (number.natAbs < digitBound)

end Heartbeat
