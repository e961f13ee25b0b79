import Heartbeat.Delivery.Sink

/-!
# Recipients

A fan-out hands records to whatever can be handed one.  Beside the sinks of this library
that may be a stranger, which returns or fails as it likes, and which may change the world,
itself and the records that it gets to see.

A record in turn is more than one description.  It is asked to describe itself each time it
is encoded, what it answers depends on what has become of it, and being asked may change it
and everything else.

Reporting to a sink is the case in which a record is its description and no member is a
stranger but those that come with the library.
-/

namespace Heartbeat

set_option autoImplicit false

/-! ## Records and strangers -/

/-- The world, together with the state of the records and of the strangers in it. -/
structure Situation (State : Type) where
  world : World
  state : State

/-- A record as the object that is handed over. -/
structure Subject (State : Type) where
  /-- What it answers when it is asked to describe itself, and what is left then. -/
  describe : Situation State → Record × Situation State
  /-- What a recorder notes of it. -/
  noted : Situation State → Note

namespace Subject

variable {State : Type}

/-- A record that is its description and stays it. -/
def ofRecord (record : Record) : Subject State where
  describe situation := (record, situation)
  noted _ := Sink.noteOf record

/-- Has a leaf deliver a record, which the leaf asks for its description first. -/
def deliver (subject : Subject State) (leaf : Sink) (situation : Situation State) :
    Except Failure Unit × Situation State :=
  let asked := subject.describe situation
  let done := (leaf.report asked.1).run.run asked.2.world
  (done.1, ⟨done.2, asked.2.state⟩)

end Subject

/-- A member of a kind that a fan-out knows nothing about. -/
structure Stranger (State : Type) where
  className : String
  report : Subject State → Situation State → Except Failure Unit × Situation State

namespace Stranger

variable {State : Type}

/-- Notes what it is given. -/
def recorder (label : Label) : Stranger State where
  className := (Sink.recorder label).className
  report subject situation :=
    (.ok (), { situation with
      world := situation.world.note (.record label (subject.noted situation)) })

/-- Fails. -/
def broken (label : Label) (failure : Failure) : Stranger State where
  className := (Sink.broken label failure).className
  report _ situation :=
    (.error failure, { situation with world := situation.world.note (.record label .raising) })

/-- Is no sink at all. -/
def empty : Stranger State where
  className := Sink.empty.className
  report _ situation := (.error (.missingAttribute "Empty" "report"), situation)

end Stranger

/-! ## Recipients -/

/-- Who is handed a record in the end. -/
inductive Party (State : Type) where
  /-- Writes lines to a destination. -/
  | stream (destination : Label) (logger : LoggerName)
  /-- Posts to the collector through a client. -/
  | http (client : Label) (logger : LoggerName)
  | stranger (other : Stranger State)

namespace Party

variable {State : Type}

/-- The leaf that a party is, unless it is a stranger. -/
def leaf? : Party State → Option Sink
  | .stream destination logger => some (.stream destination logger)
  | .http client logger => some (.http client logger)
  | .stranger _ => none

/-- The name of the class of a party. -/
def className : Party State → String
  | .stream destination logger => (Sink.stream destination logger).className
  | .http client logger => (Sink.http client logger).className
  | .stranger other => other.className

/-- Hands a record to a party. -/
def report : Party State → Subject State → Situation State →
    Except Failure Unit × Situation State
  | .stream destination logger, subject, situation =>
    subject.deliver (.stream destination logger) situation
  | .http client logger, subject, situation => subject.deliver (.http client logger) situation
  | .stranger other, subject, situation => other.report subject situation

end Party

/-- Whatever can be handed a record. -/
inductive Recipient (State : Type) where
  /-- One party. -/
  | single (party : Party State)
  /-- Hands over to members. -/
  | fanout (members : List (Recipient State)) (logger : LoggerName)

namespace Recipient

variable {State : Type}

/-- The name of the class of a recipient. -/
def className : Recipient State → String
  | .single party => party.className
  | .fanout _ logger => (Sink.fanout [] logger).className

/-- How a fan-out goes on after a member.  An ordinary failure of the member is logged. -/
def absorb (logger : LoggerName) (event : Failure → LogEvent)
    (done : Except Failure Unit × Situation State) : Except Failure Unit × Situation State :=
  match done.1 with
  | .ok _ => done
  | .error failure =>
    if failure.isOrdinary then
      (.ok (), { done.2 with world := done.2.world.logged ⟨logger, event failure⟩ })
    else done

mutual
/-- Hands a record to a recipient. -/
def report : Recipient State → Subject State → Situation State →
    Except Failure Unit × Situation State
  | .single party, subject, situation => party.report subject situation
  | .fanout members logger, subject, situation =>
    reportToMembers logger members 0 subject situation

/-- Hands a record to members, one after the other, the first having the given index. -/
def reportToMembers (logger : LoggerName) : List (Recipient State) → Nat → Subject State →
    Situation State → Except Failure Unit × Situation State
  | [], _, _, situation => (.ok (), situation)
  | member :: members, index, subject, situation =>
    let done := absorb logger (.memberFailed index member.className)
      (report member subject situation)
    match done.1 with
    | .ok _ => reportToMembers logger members (index + 1) subject done.2
    | .error _ => done
end

mutual
/-- A sink as a recipient. -/
def ofSink : Sink → Recipient State
  | .stream destination logger => .single (.stream destination logger)
  | .http client logger => .single (.http client logger)
  | .fanout members logger => .fanout (ofSinks members) logger
  | .recorder label => .single (.stranger (.recorder label))
  | .broken label failure => .single (.stranger (.broken label failure))
  | .empty => .single (.stranger .empty)

/-- Sinks as recipients. -/
def ofSinks : List Sink → List (Recipient State)
  | [] => []
  | member :: members => ofSink member :: ofSinks members
end

end Recipient

end Heartbeat
