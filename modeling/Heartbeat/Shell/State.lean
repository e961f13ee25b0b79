import Heartbeat.Files.Change
import Heartbeat.Shell.Script

/-!
# The state of a shell

A running script has variables and functions, parameters, a working directory in a
tree of files, and descriptors that say where output goes.  What nobody looks at, the
output of a whole script above all, goes nowhere.

A command ends with a code, or it ends more than itself: a loop, a function, or the
whole shell, by a code or by a signal.
-/

namespace Heartbeat

set_option autoImplicit false

namespace Shell

/-- Where the output of a descriptor goes. -/
inductive Target where
  /-- Nowhere. -/
  | unseen
  /-- To the end of what is at a location. -/
  | file (location : Location)
  /-- To whoever reads the output. -/
  | captured
  /-- The descriptor is not open. -/
  | closed
deriving DecidableEq

/-- A variable. -/
structure Binding where
  name : Text
  value : Text
  exported : Bool
  fixed : Bool

/-- What a command ends beside itself. -/
inductive Halt where
  /-- The shell, with a code. -/
  | exit (code : Nat)
  /-- The shell, by a signal. -/
  | killed (signal : Nat)
  /-- Some loops, or the current round of the outermost of them. -/
  | leave (loops : Nat) (again : Bool)
  /-- A function. -/
  | returned (code : Nat)
deriving DecidableEq

/-- The state of a shell. -/
structure State where
  bindings : List Binding
  functions : List (Text × Command)
  /-- The name by which the script was called. -/
  name : Text
  parameters : List Text
  /-- The code of the last command. -/
  last : Nat
  /-- The code of the last script whose output was put in, if there was one. -/
  inserted : Option Nat
  files : FileTree
  targets : List (Nat × Target)
  input : Bytes
  captured : Bytes
  /-- What is to be run on a signal; zero is the end of the shell. -/
  traps : List (Nat × Text)
  /-- The codes of the commands that were run in the background, the latest first. -/
  jobs : List (Nat × Nat)
  /-- Whether a failing command ends the shell. -/
  strict : Bool
  /-- Whether a variable without a value is a mistake. -/
  complete : Bool
  /-- Whether patterns stand for themselves. -/
  literal : Bool
  /-- Whether a file that is there must not be written anew. -/
  guarded : Bool
  /-- Whether commands are read and not run. -/
  idle : Bool
  /-- Whether a function is being run. -/
  inFunction : Bool
  /-- How many loops are being run. -/
  loops : Nat

/-- A computation in a shell. -/
abbrev Run (result : Type) := ExceptT Halt (StateM State) result

namespace State

/-- The number of the shell's process. -/
def process : Nat := 4242

/-- The number of a process in the background. -/
def jobProcess (index : Nat) : Nat := process + 1 + index

/-- The state in which a script begins. -/
def initial (environment : List (Text × Text)) (files : FileTree) (name : Text)
    (parameters : List Text) (input : Bytes) : State where
  bindings := environment.map fun (name, value) => ⟨name, value, true, false⟩
  functions := []
  name := name
  parameters := parameters
  last := 0
  inserted := none
  files := files
  targets := []
  input := input
  captured := []
  traps := []
  jobs := []
  strict := false
  complete := false
  literal := false
  guarded := false
  idle := false
  inFunction := false
  loops := 0

/-! ## Variables -/

/-- The variable with a name. -/
def binding? (state : State) (name : Text) : Option Binding :=
  state.bindings.find? fun binding => decide (binding.name = name)

/-- The value of a variable. -/
def value? (state : State) (name : Text) : Option Text := (state.binding? name).map Binding.value

/-- The state with a variable in place of one of the same name. -/
def bind (state : State) (binding : Binding) : State :=
  { state with bindings :=
      state.bindings.filter (fun other => decide (other.name ≠ binding.name)) ++ [binding] }

/-- The state without a variable. -/
def unbind (state : State) (name : Text) : State :=
  { state with bindings := state.bindings.filter fun binding => decide (binding.name ≠ name) }

/-- The environment that children get. -/
def environment (state : State) : List (Text × Text) :=
  (state.bindings.filter Binding.exported).map fun binding => (binding.name, binding.value)

/-! ## Output -/

/-- Where the output of a descriptor goes. -/
def target (state : State) (descriptor : Nat) : Target :=
  match state.targets.find? fun (number, _) => decide (number = descriptor) with
  | some (_, target) => target
  | none => if descriptor ≤ 2 then .unseen else .closed

/-- The state with a descriptor going elsewhere. -/
def setTarget (state : State) (descriptor : Nat) (target : Target) : State :=
  { state with targets := (descriptor, target) :: state.targets }

/-- Output of a descriptor; the answer says whether it was taken. -/
def emit (state : State) (descriptor : Nat) (data : Bytes) : Bool × State :=
  match state.target descriptor with
  | .unseen => (true, state)
  | .captured => (true, { state with captured := state.captured ++ data })
  | .closed => (data.isEmpty, state)
  | .file location =>
    match state.files.lookup? location with
    | some (.device .full) => (data.isEmpty, state)
    | _ => (true, { state with files := state.files.appendTo location data })

end State

/-- Changes the state. -/
def change (update : State → State) : Run Unit := modify update

/-- Sets the code of the last command. -/
def finish (code : Nat) : Run Unit := change fun state => { state with last := code }

/-- Output of a descriptor; the answer says whether it was taken. -/
def emit (descriptor : Nat) (data : Bytes) : Run Bool :=
  fun state => let (taken, state) := state.emit descriptor data; (.ok taken, state)

/-- Gives a value to a variable; one that is fixed ends the shell. -/
def assign (name value : Text) : Run Unit := do
  let former := (← get).binding? name
  match former with
  | some former =>
    if former.fixed then throw (.exit 2)
    else change fun state => state.bind { former with value }
  | none => change fun state => state.bind ⟨name, value, false, false⟩

end Shell

end Heartbeat
