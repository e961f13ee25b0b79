import Heartbeat.Delivery.World

/-!
# Sinks

A sink takes a record and attempts to deliver it.  A stream sink writes it as one
line to a destination, a collector sink posts it to the usage endpoint, and a
fan-out hands it to its members in their order.  What goes wrong on the way is
logged and absorbed where it happens; a fan-out absorbs in addition whatever
ordinary failure a member lets through.

A sink is a tree.  The state of destinations and collectors is in the world, so a
member that occurs twice, or two members with one destination, share it.
-/

namespace Heartbeat

set_option autoImplicit false

/-- A sink. -/
inductive Sink where
  /-- Writes lines to a destination. -/
  | stream (destination : Label) (logger : LoggerName)
  /-- Posts to the collector through a client. -/
  | http (client : Label) (logger : LoggerName)
  /-- Hands over to members. -/
  | fanout (members : List Sink) (logger : LoggerName)
  /-- Notes what it is given. -/
  | recorder (label : Label)
  /-- Fails. -/
  | broken (label : Label) (failure : Failure)
  /-- Is no sink at all. -/
  | empty

namespace Sink

/-- The name of the class of a sink. -/
def className : Sink → String
  | .stream .. => "StreamSink"
  | .http .. => "HttpSink"
  | .fanout .. => "FanoutSink"
  | .recorder _ => "Recorder"
  | .broken .. => "Broken"
  | .empty => "Empty"

/-- The members of a fan-out; no other sink has any. -/
def members : Sink → Except Failure (List Sink)
  | .fanout members _ => .ok members
  | other => .error (.missingAttribute other.className "sinks")

end Sink

/-! ## Destinations -/

namespace Delivery

/-- The line feed that ends every line. -/
def lineFeed : UInt8 := 10

/-- Writes bytes to a destination.  Buffers and writers note the attempt before it
can fail. -/
def write (label : Label) (data : Bytes) : Delivery Unit := do
  match (← get).destination label with
  | .buffer content closed =>
    note (.write label data)
    if closed then throw .closedBuffer
    else modify fun world => world.setDestination label (.buffer (content ++ data) closed)
  | .writer failures flush writes =>
    note (.write label data)
    modify fun world => world.setDestination label (.writer failures flush (writes + 1))
    failIf (scripted failures writes)
  | .file handle =>
    failOn Troubles.fileWrite
    let (result, handle, files) := handle.write (← get).files data
    modify fun world => { world.setDestination label (.file handle) with files }
    ofExcept result
  | .console =>
    failOn Troubles.consoleWrite
    modify fun world => { world with output := world.output ++ data }

/-- Uses an optional operation: it is left alone if it is missing or no operation,
and its use is noted before it can fail.  An object that says it lacks the
operation when it is looked for lacks it. -/
def use (offer : Offer) (event : Event) : Delivery Unit := do
  match offer with
  | .missing => return ()
  | .inert => return ()
  | .working => note event
  | .failing failure =>
    note event
    throw failure
  | .unreadable failure =>
    if failure.kind = .missingAttribute then return () else throw failure

/-- Flushes a destination as far as it can be flushed. -/
def flush (label : Label) : Delivery Unit := do
  match (← get).destination label with
  | .buffer .. => note (.flush label)
  | .writer _ offer _ => use offer (.flush label)
  | .file handle =>
    failOn Troubles.fileFlush
    let (result, handle, files) := handle.flush (← get).files
    modify fun world => { world.setDestination label (.file handle) with files }
    ofExcept result
  | .console => failOn Troubles.consoleFlush

/-! ## The collector -/

/-- Where heartbeats are posted to, in the canonical form of addresses. -/
def usageEndpoint : Text := "http://localhost/usage"

/-- The content type of a heartbeat. -/
def jsonContent : Text := "application/json"

/-- Sends a request through a session; the request's own timeout, if it brings
one, goes before the session's. -/
def send (label : Label) (method url : Text) (body : Option Bytes) (contentType : Option Text)
    (timeout : Option Value) : Delivery Response := do
  match (← get).client label with
  | .session default network sends =>
    note (.request ⟨method, url, body, contentType, timeout.getD default⟩)
    modify fun world => world.setClient label (.session default network (sends + 1))
    failIf (scripted network.failures sends)
    return .network (network.status sends)
  | .stub .. => return .nothing

/-- Posts bytes to a URL through a client, saying that they are JSON. -/
def post (label : Label) (url : Text) (body : Bytes) : Delivery Response := do
  match (← get).client label with
  | .stub failures close posts =>
    note (@Event.post jsonContent label url body)
    modify fun world => world.setClient label (.stub failures close (posts + 1))
    failIf (scripted failures posts)
    return match close with
      | some offer => .stub label offer
      | none => .nothing
  | .session .. => send label "POST" url (some body) (some jsonContent) none

/-- Looks for the operation that closes an answer; there may be none.  What is found is the
stub whose answer it is, if it is one, and how closing fails. -/
def closeOffer (response : Response) : Delivery (Option (Option Label × Option Failure)) := do
  match response with
  | .stub _ .missing => return none
  | .stub _ .inert => return none
  | .stub label .working => return some (some label, none)
  | .stub label (.failing failure) => return some (some label, some failure)
  | .stub _ (.unreadable failure) =>
    if failure.kind = .missingAttribute then return none else throw failure
  | .nothing => return none
  | .network _ => return some (none, (← get).troubles.answerClose)

/-- Notes that the answer of a stub is closed. -/
def noteClose : Option Label → Delivery Unit
  | some label => note (.responseClose label)
  | none => return ()

/-- Closes an answer as far as it can be closed. -/
def release (logger : LoggerName) (response : Response) : Delivery Unit := do
  match (← closeOffer response) with
  | none => return ()
  | some (label, failure) =>
    absorbing
      (do
        noteClose label
        failIf failure)
      fun failure => log logger (.responseCloseFailed failure)

end Delivery

/-! ## Reporting -/

namespace Sink

open Delivery

/-- Hands the canonical form of a record to a continuation.  A record that cannot
be encoded is logged and that is all. -/
def withEntry (logger : LoggerName) (record : Record) (deliver : Bytes → Delivery Unit) :
    Delivery Unit :=
  match record.encode with
  | .ok entry => deliver entry
  | .error failure =>
    if failure.isEncoding then log logger (.encodeFailed failure) else throw failure

/-- Writes a record as one line and flushes the destination. -/
def reportToStream (destination : Label) (logger : LoggerName) (record : Record) :
    Delivery Unit :=
  withEntry logger record fun entry =>
    absorbing
      (do
        write destination (entry ++ [lineFeed])
        flush destination)
      fun failure => log logger (.writeFailed failure)

/-- Posts a record once and closes the answer. -/
def reportToCollector (client : Label) (logger : LoggerName) (record : Record) :
    Delivery Unit :=
  withEntry logger record fun entry => do
    let response ← absorbing (some <$> post client usageEndpoint entry) fun failure => do
      log logger (.postFailed usageEndpoint failure)
      return none
    match response with
    | some response => release logger response
    | none => return ()

/-- What a recorder notes of a record. -/
def noteOf : Record → Note
  | .command command => .command command
  | record => .className record.className

mutual
/-- Delivers a record to a sink. -/
def report : Sink → Record → Delivery Unit
  | .stream destination logger, record => reportToStream destination logger record
  | .http client logger, record => reportToCollector client logger record
  | .fanout members logger, record => reportToMembers logger members 0 record
  | .recorder label, record => note (.record label (noteOf record))
  | .broken label failure, _ => do
    note (.record label .raising)
    throw failure
  | .empty, _ => throw (.missingAttribute "Empty" "report")

/-- Delivers a record to members, one after the other, the first having the given
index.  An ordinary failure of a member does not keep the rest from it. -/
def reportToMembers (logger : LoggerName) : List Sink → Nat → Record → Delivery Unit
  | [], _, _ => return ()
  | member :: members, index, record => do
    absorbing (report member record) fun failure =>
      log logger (.memberFailed index member.className failure)
    reportToMembers logger members (index + 1) record
end

end Sink

end Heartbeat
