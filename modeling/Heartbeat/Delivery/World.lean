import Heartbeat.Files.Append
import Heartbeat.Log
import Heartbeat.Record.Encode

/-!
# What delivery acts on

Delivering a heartbeat changes things outside: destinations grow, collectors are
posted to, files are written, entries are logged.  All of it is kept in one
value, the world, together with the trace of what was done, so that a delivery is
a function from worlds to worlds that also returns or fails.  A failure does not
undo what was done before it.

Destinations and collectors behave as they are described: which of their calls
fail, and how, is part of the description.
-/

namespace Heartbeat

set_option autoImplicit false

/-- The name by which a destination, a client or a recorder is known. -/
inductive Label where
  /-- One that a caller brought along. -/
  | given (name : String)
  /-- The metrics file. -/
  | metricsFile
  /-- The standard output. -/
  | console
  /-- The session to the collector. -/
  | session
deriving DecidableEq

/-! ## Collaborators -/

/-- How an object offers an operation that is optional. -/
inductive Offer where
  /-- It does not have it. -/
  | missing
  /-- It has it, and it works. -/
  | working
  /-- It has something of that name that is no operation. -/
  | inert
  /-- It has it, and it fails. -/
  | failing (failure : Failure)
  /-- Looking for it fails. -/
  | unreadable (failure : Failure)

/-- Where entries are written to. -/
inductive Destination where
  /-- A buffer in memory. -/
  | buffer (content : Bytes) (closed : Bool)
  /-- A writer whose calls fail as listed, by their number. -/
  | writer (failures : List (Option Failure)) (flush : Offer) (writes : Nat)
  /-- A file opened for appending. -/
  | file (handle : FileHandle)
  /-- The standard output. -/
  | console

/-- A request that reaches the network. -/
structure Request where
  method : Text
  url : Text
  body : Option Bytes
  contentType : Option Text
  timeout : Value

/-- What a collector answers. -/
inductive Response where
  /-- No answer at all. -/
  | nothing
  /-- An answer of a stub, with the way it offers to be closed. -/
  | stub (client : Label) (close : Offer)
  /-- An answer from the network. -/
  | network (status : Int)

/-- The statuses of answers, by the number of the send that is answered. -/
def Statuses : Type := Nat → Int

namespace Statuses

/-- Every answer has the same status. -/
def always (status : Int) : Statuses := fun _ => status

instance : Coe Int Statuses := ⟨always⟩

instance (status : Nat) : OfNat Statuses status := ⟨always status⟩

end Statuses

/-- How the network treats requests: sends fail as listed, by their number, and what is
answered otherwise has a status. -/
structure Network where
  failures : List (Option Failure)
  status : Statuses

/-- A client of the collector. -/
inductive Client where
  /-- A stub whose posts fail as listed, by their number, and answer with
  something that offers to be closed, or with nothing. -/
  | stub (failures : List (Option Failure)) (close : Option Offer) (posts : Nat)
  /-- A session over the network with a timeout for every request that does not
  bring its own. -/
  | session (timeout : Value) (network : Network) (sends : Nat)

/-- What was opened and has to be closed. -/
inductive Resource where
  /-- A file. -/
  | file (destination : Label)
  /-- A session to the collector. -/
  | session (client : Label)

/-- What keeps the metrics file, the standard output and the network from working: for
each of their operations the failure that it ends with, if it fails. -/
structure Troubles where
  fileWrite : Option Failure := none
  fileFlush : Option Failure := none
  fileClose : Option Failure := none
  consoleWrite : Option Failure := none
  consoleFlush : Option Failure := none
  /-- Closing an answer from the network. -/
  answerClose : Option Failure := none
  /-- Closing a session to the collector. -/
  sessionClose : Option Failure := none

/-! ## The trace -/

/-- What a recording sink notes of a record. -/
inductive Note where
  /-- All fields of a command. -/
  | command (command : Command)
  /-- The class of any other record. -/
  | className (name : Text)
  /-- That the sink is about to fail. -/
  | raising

/-- One thing that was done. -/
inductive Event where
  | write (destination : Label) (data : Bytes)
  | flush (destination : Label)
  | post {contentType : Text} (client : Label) (url : Text) (body : Bytes)
  | responseClose (client : Label)
  | clientClose (client : Label)
  | clientBuilt (timeout : Value)
  | request (request : Request)
  | transportClose
  | record (sink : Label) (note : Note)
  | run (arguments : List Value)
  | log (entry : LogEntry)

namespace Event

/-- Whether an event is an entry in the log. -/
def isLog : Event → Bool
  | .log _ => true
  | _ => false

end Event

/-! ## Worlds -/

/-- Everything that delivery acts on. -/
structure World where
  destination : Label → Destination
  client : Label → Client
  files : FileTree
  /-- What was written to the standard output. -/
  output : Bytes
  levels : LoggerLevels
  /-- What has to be closed, the latest first. -/
  resources : List Resource
  trace : List Event
  troubles : Troubles := {}

/-- A delivery: it returns or fails, and leaves a world behind. -/
abbrev Delivery (result : Type) := ExceptT Failure (StateM World) result

namespace World

/-- The world before anything was delivered. -/
def initial (files : FileTree) (levels : LoggerLevels) : World where
  destination := fun _ => .console
  client := fun _ => .stub [] none 0
  files := files
  output := []
  levels := levels
  resources := []
  trace := []

/-- The world after one more event. -/
def note (world : World) (event : Event) : World := { world with trace := world.trace ++ [event] }

/-- The world with a destination in a new state. -/
def setDestination (world : World) (label : Label) (state : Destination) : World :=
  { world with
    destination := fun other => if other = label then state else world.destination other }

/-- The world with a client in a new state. -/
def setClient (world : World) (label : Label) (state : Client) : World :=
  { world with client := fun other => if other = label then state else world.client other }

/-- The world after an entry was offered to the log. -/
def logged (world : World) (entry : LogEntry) : World :=
  if world.levels.lets entry.logger entry.event.severity then world.note (.log entry) else world

end World

/-! ## Elementary deliveries -/

namespace Delivery

/-- Notes an event. -/
def note (event : Event) : Delivery Unit := modify fun world => world.note event

/-- Offers an event to the log. -/
def log (logger : LoggerName) (event : LogEvent) : Delivery Unit :=
  modify fun world => world.logged ⟨logger, event⟩

/-- Fails if a failure is given. -/
def failIf (failure : Option Failure) : Delivery Unit :=
  match failure with
  | some failure => throw failure
  | none => return ()

/-- Fails if the troubles have a failure for an operation. -/
def failOn (operation : Troubles → Option Failure) : Delivery Unit := do
  failIf (operation (← get).troubles)

/-- Runs a delivery and hands an ordinary failure to a handler.  A request to stop
passes. -/
def absorbing {result : Type} (delivery : Delivery result)
    (handler : Failure → Delivery result) : Delivery result :=
  tryCatch delivery fun failure =>
    if failure.isOrdinary then handler failure else throw failure

/-- Runs a delivery and returns how it ended. -/
def attempt {result : Type} (delivery : Delivery result) : Delivery (Except Failure result) :=
  fun world => let (outcome, world) := delivery.run world; (.ok outcome, world)

/-- The failure listed for a call with a given number. -/
def scripted (failures : List (Option Failure)) (number : Nat) : Option Failure :=
  (failures[number]?).join

end Delivery

end Heartbeat
