import Heartbeat.Value
import Heartbeat.Failure

/-!
# Exit codes

A child that was killed by signal `n` has the code `-n`, which is told to the
caller as `128 + n`.  The outcome of a command follows from its code: zero is
success, the code of an interrupt is a cancellation, and everything else is a
failure.

A runner that is not the usual one may hand back any value as a code.  Truth
values and doubles are ordered with the whole numbers and keep their class;
values without that order have no outcome.
-/

namespace Heartbeat

set_option autoImplicit false

namespace ExitCode

/-- The code of a command that was interrupted. -/
def interrupted : Nat := 130

/-- What is added to the number of a signal. -/
def signalBase : Nat := 128

/-- The code of a command that could not be started. -/
def notStarted : Nat := 127

/-- A code as it is told to the caller. -/
def normalize : Value → Except Failure Value
  | .int code => .ok (.int (if code < 0 then signalBase - code else code))
  | .bool code => .ok (.bool code)
  | .double code =>
    .ok (.double (if code.isNegative then Double.subtractFrom signalBase code else code))
  | value => .error (.unordered "<" value.className "int")

/-- The number of a code. -/
def number : Value → Int
  | .int code => code
  | .bool code => code.toNat
  | _ => 0

/-- Whether a code equals a natural number. -/
def equals (code : Value) (number : Nat) : Bool :=
  match code with
  | .int value => decide (value = number)
  | .bool value => decide (value.toNat = number)
  | .double value => value.equalsNat number
  | _ => false

/-- The outcome that a code says. -/
def outcome (code : Value) : Except Failure Status := do
  let code ← normalize code
  if equals code 0 then return .success
  else if equals code interrupted then return .canceled
  else return .failure

end ExitCode

end Heartbeat
