import Heartbeat.Proofs.Delivery.Requests

/-!
# Timeouts

A session is built for any positive timeout.  It is refused for every other number, with
one exception: what is not a number is not at most zero either, and is let through
(`Client.build_isOk_iff`).

Whatever is called on a session, a call that can be sent makes one request.  The request
has the timeout that the call brings, be it nothing, and that of the session if the call
brings none.  So the timeout of a session lasts for all its calls
(`Client.requested_calls`).
-/

namespace Heartbeat

set_option autoImplicit false

open Delivery

/-! ## Which timeouts are accepted -/

/-- A value is greater than zero.  Only numbers are, and a truth value is one or zero. -/
def Value.IsPositive : Value → Prop
  | .int number => 0 < number
  | .bool flag => flag = true
  | .double number => number.isPositive = true
  | _ => False

namespace Client

/-- What is checked is whether a timeout is at most zero. -/
theorem checkTimeout_eq_ok_iff (timeout : Value) :
    checkTimeout timeout = .ok () ↔ isAtMostZero timeout = .ok false := by
  rw [checkTimeout]
  cases isAtMostZero timeout with
  | error failure => exact ⟨nofun, nofun⟩
  | ok small =>
      cases small with
      | false => exact ⟨fun _ => rfl, fun _ => rfl⟩
      | true =>
          refine ⟨fun passed => ?_, nofun⟩
          have refused : (do
            let shown ← timeout.plain
            throw (.nonPositiveTimeout shown) : Except Failure Unit) = .ok () := passed
          obtain ⟨shown, _, thrown⟩ := eq_ok_of_bind refused
          cases thrown

/-- A double that is not at most zero is positive, unless it is not a number. -/
theorem isAtMostZero_eq_false_iff (number : Double) :
    number.isAtMostZero = false ↔ number.isPositive = true ∨ number = .nan := by
  constructor
  · intro large
    by_cases unordered : number = .nan
    · exact .inr unordered
    · exact .inl (Double.isPositive_of_not_isAtMostZero unordered large)
  · rintro (positive | rfl)
    · rw [← Bool.not_eq_true]
      intro small
      rw [Double.isPositive_eq_false_of_isAtMostZero small] at positive
      cases positive
    · rfl

/-- **A session is built for positive timeouts, and for the one that is not a number.** -/
theorem build_isOk_iff (timeout : Value) (network : Network) :
    (∃ session, build timeout network = .ok session)
      ↔ timeout.IsPositive ∨ timeout = .double .nan := by
  have built : (∃ session, build timeout network = .ok session)
      ↔ checkTimeout timeout = .ok () := by
    rw [build]
    cases checkTimeout timeout with
    | error failure =>
        constructor
        · rintro ⟨session, ⟨⟩⟩
        · rintro ⟨⟩
    | ok passed => exact ⟨fun _ => rfl, fun _ => ⟨_, rfl⟩⟩
  rw [built, checkTimeout_eq_ok_iff]
  cases timeout with
  | int number => simp [isAtMostZero, Value.IsPositive]
  | bool flag => simp [isAtMostZero, Value.IsPositive]
  | double number => simp [isAtMostZero, Value.IsPositive, isAtMostZero_eq_false_iff]
  | _ => simp [isAtMostZero, Value.IsPositive]

/-! ## Calls -/

/-- A call on a session, by whatever method. -/
structure Call where
  method : Text
  url : Text
  body : Option Bytes
  /-- The timeout that the call brings, if it brings one; nothing is a timeout as well. -/
  timeout : Option Value

namespace Call

/-- Makes a call. -/
def make (client : Label) (call : Call) : Delivery Value :=
  Delivery.call client call.method call.url call.body call.timeout

/-- The world after calls one after the other, whether they fail or not. -/
def makeAll (client : Label) : List Call → World → World
  | [], world => world
  | call :: calls, world => makeAll client calls ((call.make client).run.run world).2

/-- The request that a call makes on a session with a timeout.  There is none if nothing can
be sent to its address. -/
def request? (timeout : Value) (call : Call) : Option Request :=
  match Address.canonical call.url with
  | .ok address =>
    some ⟨call.method.toUpper, address, call.body, none, call.timeout.getD timeout⟩
  | .error _ => none

end Call

end Client

namespace Delivery

/-- What sending does on a session: one request is made, however it ends. -/
theorem run_send {label : Label} {world : World} {default : Value} {network : Network}
    {sends : Nat} (held : world.client label = .session default network sends)
    (method url : Text) (body : Option Bytes) (contentType : Option Text)
    (timeout : Option Value) :
    (send label method url body contentType timeout).run.run world
      = (match scripted network.failures sends with
          | none => .ok (.network (network.status sends))
          | some failure => .error failure,
        (world.note (.request ⟨method, url, body, contentType, timeout.getD default⟩)).setClient
          label (.session default network (sends + 1))) := by
  rw [send, run_get_bind, held]
  dsimp only
  cases scripted network.failures sends <;> rfl

end Delivery

namespace Client

/-- A call makes its request and no other, and leaves the session what it was. -/
theorem requested_call {client : Label} {world : World} {timeout : Value} {network : Network}
    {sends : Nat} (held : world.client client = .session timeout network sends) (call : Call) :
    World.Requested (call.request? timeout).toList world ((call.make client).run.run world).2
      ∧ ∃ sent, ((call.make client).run.run world).2.client client
        = .session timeout network sent := by
  rw [Call.make, Delivery.call, addressOf, run_ofExcept_bind, Call.request?]
  cases Address.canonical call.url with
  | error fault => exact ⟨⟨[], (List.append_nil _).symm, rfl⟩, sends, held⟩
  | ok address =>
      simp only [Except.mapError]
      rw [run_bind, run_send held]
      cases scripted network.failures sends with
      | none => exact ⟨⟨[_], rfl, rfl⟩, sends + 1, World.setClient_self _ _ _⟩
      | some failure => exact ⟨⟨[_], rfl, rfl⟩, sends + 1, World.setClient_self _ _ _⟩

/-- Calls make their requests in their order. -/
theorem requested_makeAll {client : Label} {timeout : Value} {network : Network}
    (calls : List Call) {world : World} {sends : Nat}
    (held : world.client client = .session timeout network sends) :
    World.Requested (calls.filterMap (Call.request? timeout)) world
      (Call.makeAll client calls world) := by
  induction calls generalizing world sends with
  | nil => exact ⟨[], (List.append_nil _).symm, rfl⟩
  | cons call calls hypothesis =>
      obtain ⟨first, sent, still⟩ := requested_call held call
      rw [List.filterMap_eq_flatMap_toList, List.flatMap_cons,
        ← List.filterMap_eq_flatMap_toList]
      exact first.trans (hypothesis still)

/-- **The timeout of a session is positive or not a number, and lasts for all its calls.**
A session is built if and only if the timeout is of this kind.  Then any calls by any
methods make one request each, in their order, if something can be sent to their address,
and every request has the timeout that its call brings, or that of the session if the call
brings none. -/
theorem requested_calls (timeout : Value) (network : Network) :
    ((∃ session, build timeout network = .ok session)
        ↔ timeout.IsPositive ∨ timeout = .double .nan)
      ∧ ∀ session, build timeout network = .ok session →
        ∀ (client : Label) (start : World), start.client client = session →
        ∀ calls : List Call,
          World.Requested (calls.filterMap (Call.request? timeout)) start
            (Call.makeAll client calls start) := by
  refine ⟨build_isOk_iff timeout network, ?_⟩
  intro session built client start lent calls
  exact requested_makeAll calls (lent.trans (eq_of_build built))

/-- A session whose timeout is not a number sends with it, and with nothing where a call
says so. -/
theorem requested_calls_nan :
    let session : Client := .session (.double .nan) ⟨[], 200⟩ 0
    let start := (World.initial ⟨[], [], []⟩ []).setClient (.given "client") session
    let calls : List Call :=
      [⟨"post", usageEndpoint, none, none⟩, ⟨"get", usageEndpoint, none, some .null⟩]
    build (.double .nan) ⟨[], 200⟩ = .ok session
      ∧ start.client (.given "client") = session
      ∧ ¬ (Value.double .nan).IsPositive
      ∧ World.Requested
        [⟨"POST", usageEndpoint, none, none, .double .nan⟩,
          ⟨"GET", usageEndpoint, none, none, .null⟩]
        start (Call.makeAll (.given "client") calls start) := by
  intro session start calls
  have lent : start.client (.given "client") = session := World.setClient_self _ _ _
  have requested := (requested_calls (.double .nan) ⟨[], 200⟩).2 session rfl (.given "client")
    start lent calls
  refine ⟨rfl, lent, nofun, ?_⟩
  have requests : calls.filterMap (Call.request? (.double .nan))
      = [⟨"POST", usageEndpoint, none, none, .double .nan⟩,
        ⟨"GET", usageEndpoint, none, none, .null⟩] := rfl
  rwa [requests] at requested

end Client

end Heartbeat
