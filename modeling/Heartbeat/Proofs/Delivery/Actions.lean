import Mathlib.Logic.Relation
import Heartbeat.Proofs.Delivery.Visits
import Heartbeat.Proofs.Files.Handles

/-!
# What a leaf can do

What a visit of a leaf does to the world is put together from a few elementary actions:
something is noted that is no run of a child and neither begins nor ends the life of a
client, a destination gets another state of the same kind, a file is used, bytes are
printed, or a client gets another state of the same kind (`Sink.Acts`).  A leaf acts on its
own destination or client only.  So whatever these actions keep is kept by every visit
(`Sink.moves_of_acts`).

In particular a destination stays what it is: nothing that is delivered closes a
destination or opens it again (`Sink.sameKinds_report`).
-/

namespace Heartbeat

set_option autoImplicit false

/-! ## What stays -/

/-- What a destination is, apart from what was written to it. -/
inductive Destination.Kind where
  | buffer (closed : Bool)
  | writer
  | file (location : Location) (closed : Bool)
  | console
deriving DecidableEq

/-- What a destination is, apart from what was written to it. -/
def Destination.kind : Destination → Destination.Kind
  | .buffer _ closed => .buffer closed
  | .writer .. => .writer
  | .file handle => .file handle.location handle.closed
  | .console => .console

/-- Whether a destination was closed. -/
def Destination.Kind.isClosed : Destination.Kind → Bool
  | .buffer closed => closed
  | .file _ closed => closed
  | _ => false

/-- The timeout of a client that is a session. -/
def Client.timeout? : Client → Option Value
  | .session timeout _ _ => some timeout
  | .stub .. => none

/-- Destinations are of the kinds that they were of, sessions have the timeouts that they
had, and there are the same troubles. -/
structure World.SameKinds (world later : World) : Prop where
  destination : ∀ label, (later.destination label).kind = (world.destination label).kind
  client : ∀ label, (later.client label).timeout? = (world.client label).timeout?
  troubles : later.troubles = world.troubles

namespace World

instance : IsPreorder World SameKinds where
  refl _ := ⟨fun _ => rfl, fun _ => rfl, rfl⟩
  trans first second third := by
    intro before after
    refine ⟨?_, ?_, after.troubles.trans before.troubles⟩
    · intro label
      rw [after.destination, before.destination]
    · intro label
      rw [after.client, before.client]

@[simp] theorem destination_note (world : World) (event : Event) :
    (world.note event).destination = world.destination := rfl

@[simp] theorem client_note (world : World) (event : Event) :
    (world.note event).client = world.client := rfl

@[simp] theorem setDestination_self (world : World) (label : Label) (state : Destination) :
    (world.setDestination label state).destination label = state := if_pos rfl

theorem setDestination_of_ne (world : World) {label other : Label} (apart : other ≠ label)
    (state : Destination) :
    (world.setDestination label state).destination other = world.destination other :=
  if_neg apart

@[simp] theorem setClient_self (world : World) (label : Label) (state : Client) :
    (world.setClient label state).client label = state := if_pos rfl

theorem setClient_of_ne (world : World) {label other : Label} (apart : other ≠ label)
    (state : Client) : (world.setClient label state).client other = world.client other :=
  if_neg apart

end World

namespace Event

/-- Whether an event begins or ends the life of a client. -/
def isLifetime : Event → Bool
  | .clientBuilt _ | .clientClose _ | .transportClose => true
  | _ => false

/-- The arguments that a child was run with, if an event says that one was run. -/
def run? : Event → Option (List Value)
  | .run arguments => some arguments
  | _ => none

end Event

/-! ## Elementary deliveries -/

namespace Delivery

/-- What writing does, by the state of the destination. -/
theorem run_write (label : Label) (data : Bytes) (world : World) :
    (write label data).run.run world = match world.destination label with
      | .buffer content closed =>
        if closed then (.error .closedBuffer, world.note (.write label data))
        else (.ok (), (world.note (.write label data)).setDestination label
          (.buffer (content ++ data) closed))
      | .writer failures offer writes =>
        (match scripted failures writes with
          | none => .ok ()
          | some failure => .error failure,
          (world.note (.write label data)).setDestination label
            (.writer failures offer (writes + 1)))
      | .file handle =>
        match world.troubles.fileWrite with
        | some failure => (.error failure, world)
        | none =>
          ((handle.write world.files data).1,
            { world.setDestination label (.file (handle.write world.files data).2.1) with
              files := (handle.write world.files data).2.2 })
      | .console =>
        match world.troubles.consoleWrite with
        | some failure => (.error failure, world)
        | none => (.ok (), { world with output := world.output ++ data }) := by
  rw [write, run_get_bind]
  cases world.destination label with
  | buffer content closed => cases closed <;> rfl
  | writer failures offer writes =>
      dsimp only
      cases scripted failures writes <;> rfl
  | file handle =>
      dsimp only [failOn]
      rw [run_bind, run_get_bind]
      cases world.troubles.fileWrite with
      | some failure => rfl
      | none =>
          show (ofExcept _ : Delivery Unit).run.run _ = _
          rw [run_ofExcept]
  | console =>
      dsimp only [failOn]
      rw [run_bind, run_get_bind]
      cases world.troubles.consoleWrite <;> rfl

/-- What using an operation that is optional does. -/
theorem run_use (offer : Offer) (event : Event) (world : World) :
    (use offer event).run.run world = match offer with
      | .missing => (.ok (), world)
      | .inert => (.ok (), world)
      | .working => (.ok (), world.note event)
      | .failing failure => (.error failure, world.note event)
      | .unreadable failure =>
        (if failure.kind = .missingAttribute then .ok () else .error failure, world) := by
  cases offer with
  | unreadable failure =>
      dsimp only [use]
      split <;> rfl
  | _ => rfl

/-- What flushing does, by the state of the destination. -/
theorem run_flush (label : Label) (world : World) :
    (flush label).run.run world = match world.destination label with
      | .buffer .. => (.ok (), world.note (.flush label))
      | .writer _ offer _ => (use offer (.flush label)).run.run world
      | .file handle =>
        match world.troubles.fileFlush with
        | some failure => (.error failure, world)
        | none =>
          ((handle.flush world.files).1,
            { world.setDestination label (.file (handle.flush world.files).2.1) with
              files := (handle.flush world.files).2.2 })
      | .console =>
        match world.troubles.consoleFlush with
        | some failure => (.error failure, world)
        | none => (.ok (), world) := by
  rw [flush, run_get_bind]
  cases world.destination label with
  | buffer content closed => rfl
  | writer failures offer writes => rfl
  | file handle =>
      dsimp only [failOn]
      rw [run_bind, run_get_bind]
      cases world.troubles.fileFlush with
      | some failure => rfl
      | none =>
          show (ofExcept _ : Delivery Unit).run.run _ = _
          rw [run_ofExcept]
  | console =>
      dsimp only [failOn]
      rw [run_get_bind]
      cases world.troubles.consoleFlush <;> rfl

/-- What posting does, by the state of the client. -/
theorem run_post (label : Label) (url : Text) (body : Bytes) (world : World) :
    (post label url body).run.run world = match world.client label with
      | .stub failures close posts =>
        (match scripted failures posts with
          | none => .ok (match close with
            | some offer => .stub label offer
            | none => .nothing)
          | some failure => .error failure,
          (world.note (@Event.post jsonContent label url body)).setClient label
            (.stub failures close (posts + 1)))
      | .session timeout network sends =>
        (match scripted network.failures sends with
          | none => .ok (.network (network.status sends))
          | some failure => .error failure,
          (world.note (.request ⟨"POST", url, some body, some jsonContent, timeout⟩)).setClient
            label (.session timeout network (sends + 1))) := by
  rw [post, run_get_bind]
  cases found : world.client label with
  | stub failures close posts =>
      dsimp only
      cases scripted failures posts <;> rfl
  | session timeout network sends =>
      dsimp only
      rw [send, run_get_bind, found]
      dsimp only
      cases scripted network.failures sends <;> rfl

end Delivery

/-! ## Actions -/

namespace Sink

open Delivery Relation

/-- One thing that a leaf does to the world. -/
inductive Acts : Sink → World → World → Prop where
  | note (leaf : Sink) (world : World) {event : Event} (passing : event.isLifetime = false)
      (own : event.run? = none) : Acts leaf world (world.note event)
  | destination {label : Label} {logger : LoggerName} {world : World} {state : Destination}
      (same : state.kind = (world.destination label).kind) :
      Acts (.stream label logger) world (world.setDestination label state)
  | file {label : Label} {logger : LoggerName} {world : World} {handle : FileHandle}
      {used : FileHandle × FileTree} (found : world.destination label = .file handle)
      (uses : handle.Uses world.files used) :
      Acts (.stream label logger) world
        { world.setDestination label (.file used.1) with files := used.2 }
  | print {label : Label} {logger : LoggerName} {world : World}
      (found : world.destination label = .console) (data : Bytes) :
      Acts (.stream label logger) world { world with output := world.output ++ data }
  | client {label : Label} {logger : LoggerName} {world : World} {state : Client}
      (same : state.timeout? = (world.client label).timeout?) :
      Acts (.http label logger) world (world.setClient label state)

/-- Any number of them, one after the other. -/
abbrev Does (leaf : Sink) : World → World → Prop := ReflTransGen (Acts leaf)

instance (leaf : Sink) : IsPreorder World leaf.Does where
  refl _ := .refl
  trans _ _ _ := .trans

variable {label : Label} {logger : LoggerName} {leaf : Sink}

theorem does_log (library : LoggerName) (event : LogEvent) :
    Moves leaf.Does (log library event) := by
  apply Moves.modify
  intro world
  rw [World.logged]
  split
  · exact .single (.note leaf world rfl rfl)
  · exact .refl

theorem does_note {event : Event} (passing : event.isLifetime = false)
    (own : event.run? = none) : Moves leaf.Does (note event) :=
  .modify fun world => .single (.note leaf world passing own)

theorem does_write (data : Bytes) : Moves (Does (.stream label logger)) (write label data) := by
  intro world
  rw [run_write]
  cases found : world.destination label with
  | buffer content closed =>
      cases closed with
      | true => exact .single (.note _ _ rfl rfl)
      | false =>
          refine .tail (.single (.note _ world rfl rfl)) (.destination ?_)
          rw [World.destination_note, found]
          rfl
  | writer failures offer writes =>
      refine .tail (.single (.note _ world rfl rfl)) (.destination ?_)
      rw [World.destination_note, found]
      rfl
  | file handle =>
      cases world.troubles.fileWrite with
      | some failure => exact .refl
      | none => exact .single (.file found (handle.uses_write world.files data))
  | console =>
      cases world.troubles.consoleWrite with
      | some failure => exact .refl
      | none => exact .single (.print found data)

theorem does_use (offer : Offer) {event : Event} (passing : event.isLifetime = false)
    (own : event.run? = none) : Moves leaf.Does (use offer event) := by
  intro world
  rw [run_use]
  cases offer with
  | working => exact .single (.note _ _ passing own)
  | failing failure => exact .single (.note _ _ passing own)
  | _ => exact .refl

theorem does_flush : Moves (Does (.stream label logger)) (flush label) := by
  intro world
  rw [run_flush]
  cases found : world.destination label with
  | buffer content closed => exact .single (.note _ _ rfl rfl)
  | writer failures offer writes => exact does_use offer rfl rfl world
  | file handle =>
      cases world.troubles.fileFlush with
      | some failure => exact .refl
      | none => exact .single (.file found (handle.uses_flush world.files))
  | console => cases world.troubles.consoleFlush <;> exact .refl

theorem does_post (url : Text) (body : Bytes) :
    Moves (Does (.http label logger)) (post label url body) := by
  intro world
  rw [run_post]
  cases found : world.client label with
  | stub failures close posts =>
      refine .tail (.single (.note _ world rfl rfl)) (.client ?_)
      rw [World.client_note, found]
      rfl
  | session timeout network sends =>
      refine .tail (.single (.note _ world rfl rfl)) (.client ?_)
      rw [World.client_note, found]
      rfl

theorem does_closeOffer (response : Response) : Moves leaf.Does (closeOffer response) := by
  cases response with
  | nothing => exact .pure none
  | network status => exact .get_bind fun _ => .pure _
  | stub client offer =>
      cases offer with
      | unreadable failure =>
          rw [closeOffer]
          split
          · exact .pure none
          · exact .throw failure
      | _ => exact .pure _

theorem does_release (library : LoggerName) (response : Response) :
    Moves leaf.Does (release library response) := by
  apply Moves.bind (does_closeOffer response)
  intro found
  cases found with
  | none => exact .pure ()
  | some found =>
      apply Moves.absorbing
      · apply Moves.bind
        · cases found.1 with
          | none => exact .pure ()
          | some client => exact does_note rfl rfl
        · intro _
          exact .failIf _
      · intro failure
        exact does_log _ _

theorem does_withEntry (library : LoggerName) (record : Record) {deliver : Bytes → Delivery Unit}
    (delivers : ∀ entry, Moves leaf.Does (deliver entry)) :
    Moves leaf.Does (withEntry library record deliver) := by
  rw [withEntry]
  split
  · exact delivers _
  · split
    · exact does_log _ _
    · exact .throw _

/-- **A visit of a leaf is made up of its actions.** -/
theorem does_report (isLeaf : leaf.isLeaf = true) (record : Record) :
    Moves leaf.Does (leaf.report record) := by
  cases leaf with
  | stream label logger =>
      apply does_withEntry
      intro entry
      apply Moves.absorbing
      · exact .bind (does_write _) fun _ => does_flush
      · intro failure
        exact does_log _ _
  | http label logger =>
      apply does_withEntry
      intro entry
      apply Moves.bind
      · apply Moves.absorbing
        · exact .bind (does_post _ _) fun _ => .pure _
        · intro failure
          exact .bind (does_log _ _) fun _ => .pure _
      · intro response
        cases response with
        | none => exact .pure ()
        | some response => exact does_release _ response
  | fanout members logger => cases isLeaf
  | recorder label => exact does_note rfl rfl
  | broken label failure => exact .bind (does_note rfl rfl) fun _ => .throw failure
  | empty => exact .throw _

/-! ## What actions keep -/

/-- What every action of a leaf keeps is kept by its visits. -/
theorem moves_of_acts {relation : World → World → Prop} [IsPreorder World relation]
    (keeps : ∀ world later, leaf.Acts world later → relation world later)
    (isLeaf : leaf.isLeaf = true) (record : Record) : Moves relation (leaf.report record) := by
  intro world
  have does := does_report isLeaf record world
  generalize ((leaf.report record).run.run world).2 = later at does ⊢
  induction does with
  | refl => exact refl_of relation world
  | tail _ step hypothesis => exact trans_of relation hypothesis (keeps _ _ step)

/-- No action makes anything else of a destination or of a client. -/
theorem Acts.sameKinds {world later : World} (acts : leaf.Acts world later) :
    world.SameKinds later := by
  cases acts with
  | note => exact ⟨fun _ => rfl, fun _ => rfl, rfl⟩
  | @destination label logger world state same =>
      refine ⟨?_, fun _ => rfl, rfl⟩
      intro other
      by_cases here : other = label
      · rw [here, World.setDestination_self, same]
      · rw [World.setDestination_of_ne _ here]
  | @file label logger world handle used found uses =>
      refine ⟨?_, fun _ => rfl, rfl⟩
      intro other
      show ((world.setDestination label (.file used.1)).destination other).kind = _
      by_cases here : other = label
      · rw [here, World.setDestination_self, found, Destination.kind, uses.location, uses.closed,
          Destination.kind]
      · rw [World.setDestination_of_ne _ here]
  | print => exact ⟨fun _ => rfl, fun _ => rfl, rfl⟩
  | @client label logger world state same =>
      refine ⟨fun _ => rfl, ?_, rfl⟩
      intro other
      by_cases here : other = label
      · rw [here, World.setClient_self, same]
      · rw [World.setClient_of_ne _ here]

end Sink

/-! ## Whole reports -/

namespace World

theorem LogsOnly.sameKinds {world later : World} (logs : world.LogsOnly later) :
    world.SameKinds later := by
  obtain ⟨entries, rfl⟩ := logs
  exact ⟨fun _ => rfl, fun _ => rfl, rfl⟩

end World

namespace Sink

open Delivery

/-- What is kept by every action of every leaf, and by entries in the log, is kept by whole
reports. -/
theorem moves_report {relation : World → World → Prop} [IsPreorder World relation]
    (logs : ∀ world later, world.LogsOnly later → relation world later)
    (keeps : ∀ (leaf : Sink) world later, leaf.Acts world later → relation world later)
    (sink : Sink) (record : Record) : Moves relation (sink.report record) := by
  intro world
  apply (sink.linked_visits record world).related logs
  apply forall_visits (fun visit => relation visit.before visit.after)
  intro leaf isLeaf found
  exact moves_of_acts (keeps leaf) isLeaf record found

/-- **Nothing that is delivered makes anything else of a destination**: a destination that
is open stays open, and one that was closed stays closed. -/
theorem sameKinds_report (sink : Sink) (record : Record) :
    Moves World.SameKinds (sink.report record) :=
  moves_report (fun _ _ => World.LogsOnly.sameKinds) (fun _ _ _ => Acts.sameKinds) sink record

end Sink

/-- A visit opens and closes nothing. -/
theorem Visit.sameKinds (visit : Visit) : visit.before.SameKinds visit.after :=
  visit.leaf.sameKinds_report visit.record visit.before

end Heartbeat
