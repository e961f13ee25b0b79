import Heartbeat.Address
import Heartbeat.Delivery.Sink
import Heartbeat.Text.Upper
import Heartbeat.Value.Display

/-!
# Sessions

A session to the collector is built with a timeout that every request has unless
it brings its own.  The timeout has to be a number that is not zero or less.
Requests are never repeated: one call makes one request, unless there is something
wrong with the address, and then there is no request at all.
-/

namespace Heartbeat

set_option autoImplicit false

namespace Client

/-- The timeout that a session has unless another is wanted, two seconds. -/
def defaultTimeout : Value := .double (Double.ofRatio false 2 1)

/-- Whether a value is zero or less.  Only numbers have an answer. -/
def isAtMostZero : Value → Except Failure Bool
  | .int number => .ok (decide (number ≤ 0))
  | .bool flag => .ok (!flag)
  | .double number => .ok number.isAtMostZero
  | value => .error (.unordered "<=" value.className "int")

/-- Checks a timeout. -/
def checkTimeout (timeout : Value) : Except Failure Unit := do
  if (← isAtMostZero timeout) then do
    let shown ← timeout.plain
    throw (.nonPositiveTimeout shown)

/-- A new session over a network. -/
def build (timeout : Value) (network : Network) : Except Failure Client := do
  checkTimeout timeout
  return .session timeout network 0

/-- Whatever session is built has the timeout that was asked for, and has sent nothing. -/
theorem eq_of_build {timeout : Value} {network : Network} {client : Client}
    (built : build timeout network = .ok client) : client = .session timeout network 0 := by
  rw [build] at built
  cases checked : checkTimeout timeout with
  | error failure =>
      rw [checked] at built
      cases built
  | ok passed =>
      rw [checked] at built
      exact (Except.ok.inj built).symm

/-- How often a failed request is repeated. -/
def retries : Nat := 0

end Client

namespace Delivery

/-- The status of an answer. -/
def statusOf : Response → Value
  | .network status => .int status
  | _ => .null

/-- The address that a request goes to. -/
def addressOf (url : Text) : Delivery Text :=
  ofExcept ((Address.canonical url).mapError Failure.address)

/-- One call on a session; its value is the status of the answer.  The method is sent in
capitals, and the address in its canonical form. -/
def call (label : Label) (method url : Text) (body : Option Bytes) (timeout : Option Value) :
    Delivery Value := do
  let address ← addressOf url
  return statusOf (← send label method.toUpper address body none timeout)

end Delivery

end Heartbeat
