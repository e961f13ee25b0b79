import Heartbeat.Value.Display

/-!
# Records

A record is what is handed to a sink.  Most records are commands, and a command
describes itself by a dictionary: what was run, then the context and the source
as far as they are given, then the outcome.  Other objects may describe
themselves too, and whatever they answer or raise is taken as it comes.  A value
that does not describe itself is its own description.

Describing is done once, at the root of a record, and never for the values
inside it.
-/

namespace Heartbeat

set_option autoImplicit false

/-! ## Commands -/

/-- One run of a command as it is reported.  The fields are not checked when a
command is put together. -/
structure Command where
  name : Value
  context : Value
  source : Value
  status : Value

namespace Command

/-- The dictionary entry of a field that may be missing. -/
def optionalEntry (key : String) (value : Value) : List (Value × Value) :=
  if value.isNull then [] else [(.text key, value)]

/-- The outcome that a value has to be or to name. -/
def statusOf (value : Value) : Except Failure Status :=
  match value.status? with
  | some status => .ok status
  | none => do
    let shown ← value.shown
    .error (.invalidStatus shown)

/-- The entries of the dictionary that describes a command. -/
def entries (command : Command) : Except Failure (List (Value × Value)) := do
  let status ← statusOf command.status
  return [(.text "command", command.name)]
    ++ optionalEntry "context" command.context
    ++ optionalEntry "source" command.source
    ++ [(.text "status", .text status.text)]

/-- A command as a value among others. -/
def toValue (command : Command) : Value :=
  .command command.name command.context command.source command.status

end Command

/-! ## Records -/

/-- What is handed to a sink. -/
inductive Record where
  /-- A command, which describes itself. -/
  | command (command : Command)
  /-- An object that describes itself by a value. -/
  | describing (className : Text) (description : Value)
  /-- An object that fails to describe itself. -/
  | failing (className : Text) (failure : Failure)
  /-- A value that does not describe itself. -/
  | plain (value : Value)

namespace Record

/-- The record that a value is. -/
def ofValue : Value → Record
  | .command name context source status => .command ⟨name, context, source, status⟩
  | value => .plain value

/-- The description of a record. -/
def payload : Record → Except Failure Value
  | .command subject => do return .dict (← subject.entries)
  | .describing _ description => .ok description
  | .failing _ failure => .error failure
  | .plain value => .ok value

/-- The name of the class of a record. -/
def className : Record → Text
  | .command _ => "Command"
  | .describing className _ => className
  | .failing className _ => className
  | .plain value => value.className

end Record

end Heartbeat
