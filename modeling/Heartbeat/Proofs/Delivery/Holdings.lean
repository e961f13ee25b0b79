import Heartbeat.Proofs.Delivery.Actions
import Heartbeat.Proofs.Delivery.Flat

/-!
# What a leaf works on

A stream sink works on its destination: on a buffer or a writer, on a file, or on the
standard output.  A collector sink works on its client.  This is the leaf's medium
(`World.medium?`), and the state of the medium is all that the leaf holds of the world
(`World.holding`).

* A leaf that works on another medium leaves the holding as it is
  (`Sink.holding_of_does`).
* Two worlds with the same holding make no difference to the leaf: it does the same in
  both, and it comes to the same holding (`Sink.matched_report`).
-/

namespace Heartbeat

set_option autoImplicit false

open Delivery

/-! ## Media and holdings -/

/-- What is worked on. -/
inductive Medium where
  /-- A buffer or a writer. -/
  | destination (label : Label)
  | file (location : Location)
  | console
  | client (label : Label)
deriving DecidableEq

/-- What is held of the world by what works on a medium. -/
inductive Holding where
  /-- A buffer or a writer. -/
  | destination (state : Destination)
  /-- A handle, and what is at its location. -/
  | file (handle : FileHandle) (entry : Option FileEntry)
  | console (output : Bytes)
  | client (state : Client)
  | nothing

/-- The destination that is held. -/
def Holding.destination? : Holding → Option Destination
  | .destination state => some state
  | .file handle _ => some (.file handle)
  | .console _ => some .console
  | _ => none

namespace World

/-- What a leaf works on, if it works on anything. -/
def medium? (world : World) : Sink → Option Medium
  | .stream destination _ =>
    match (world.destination destination).kind with
    | .buffer _ | .writer => some (.destination destination)
    | .file location _ => some (.file location)
    | .console => some .console
  | .http client _ => some (.client client)
  | _ => none

/-- The state of what a leaf works on. -/
def holding (world : World) : Sink → Holding
  | .stream destination _ =>
    match world.destination destination with
    | .file handle => .file handle (world.files.lookup? handle.location)
    | .console => .console world.output
    | state => .destination state
  | .http client _ => .client (world.client client)
  | _ => .nothing

variable {world later : World} {leaf other : Sink}

theorem SameKinds.medium?_eq (same : world.SameKinds later) : later.medium? = world.medium? := by
  funext leaf
  cases leaf with
  | stream destination logger => rw [medium?, medium?, same.destination]
  | _ => rfl

@[simp] theorem holding_note (world : World) (event : Event) (leaf : Sink) :
    (world.note event).holding leaf = world.holding leaf := by
  cases leaf <;> rfl

@[simp] theorem holding_logged (world : World) (entry : LogEntry) (leaf : Sink) :
    (world.logged entry).holding leaf = world.holding leaf := by
  rw [logged]
  split
  · exact world.holding_note _ leaf
  · rfl

theorem LogsOnly.holding_eq (logs : world.LogsOnly later) (leaf : Sink) :
    later.holding leaf = world.holding leaf := by
  obtain ⟨entries, rfl⟩ := logs
  cases leaf <;> rfl

theorem destination?_holding (world : World) (label : Label) (logger : LoggerName) :
    (world.holding (.stream label logger)).destination? = some (world.destination label) := by
  rw [holding]
  cases world.destination label <;> rfl

theorem holding_of_destination {label : Label} {logger : LoggerName}
    (destination : later.destination label = world.destination label)
    (files : later.files = world.files) (output : later.output = world.output) :
    later.holding (.stream label logger) = world.holding (.stream label logger) := by
  rw [holding, holding, destination, files, output]

end World

/-! ## Other leaves -/

namespace Sink

variable {world later : World} {leaf other : Sink}

/-- An action on one medium leaves what is held of another one as it is. -/
theorem Acts.holding_eq (acts : other.Acts world later)
    (apart : world.medium? other ≠ world.medium? leaf) :
    later.holding leaf = world.holding leaf := by
  cases acts with
  | note => exact world.holding_note _ leaf
  | @destination label logger world state same =>
      cases leaf with
      | stream destination library =>
          have differs : destination ≠ label := by
            rintro rfl
            exact apart rfl
          exact World.holding_of_destination (World.setDestination_of_ne _ differs _) rfl rfl
      | _ => rfl
  | @file label logger world handle used found uses =>
      cases leaf with
      | stream destination library =>
          have differs : destination ≠ label := by
            rintro rfl
            exact apart rfl
          have stays : (world.setDestination label (.file used.1)).destination destination
              = world.destination destination := World.setDestination_of_ne _ differs _
          rw [World.holding, World.holding]
          dsimp only
          rw [stays]
          cases state : world.destination destination with
          | file opened =>
              have elsewhere : opened.location ≠ handle.location := by
                intro here
                apply apart
                rw [World.medium?, World.medium?, found, state, Destination.kind, Destination.kind,
                  here]
              dsimp only
              rw [uses.files.elsewhere _ elsewhere]
          | _ => rfl
      | _ => rfl
  | @print label logger world found data =>
      cases leaf with
      | stream destination library =>
          rw [World.holding, World.holding]
          dsimp only
          cases state : world.destination destination with
          | console =>
              exact absurd (by simp [World.medium?, found, state, Destination.kind]) apart
          | _ => rfl
      | _ => rfl
  | @client label logger world state same =>
      cases leaf with
      | http client library =>
          have differs : client ≠ label := by
            rintro rfl
            exact apart rfl
          rw [World.holding, World.holding, World.setClient_of_ne _ differs]
      | _ => rfl

/-- Actions on one medium leave what is held of another one as it is. -/
theorem holding_of_does (does : other.Does world later)
    (apart : world.medium? other ≠ world.medium? leaf) :
    world.SameKinds later ∧ later.holding leaf = world.holding leaf := by
  induction does with
  | refl => exact ⟨refl_of World.SameKinds world, rfl⟩
  | tail _ acts hypothesis =>
      obtain ⟨kinds, same⟩ := hypothesis
      have still := apart
      rw [← kinds.medium?_eq] at still
      exact ⟨trans_of World.SameKinds kinds acts.sameKinds, (acts.holding_eq still).trans same⟩

end Sink

/-! ## The same leaf -/

namespace World

/-- The calls since an earlier world: all that was noted, apart from the log. -/
def callsSince (start world : World) : List Event :=
  world.unlogged.trace.drop start.unlogged.trace.length

/-- A leaf holds the same of two worlds, and the calls since a world before the one are
the calls since a world before the other. -/
structure Matches (leaf : Sink) (start origin : World) (first second : World) : Prop where
  holding : first.holding leaf = second.holding leaf
  troubles : first.troubles = second.troubles
  trace : ∃ calls, first.unlogged.trace = start.unlogged.trace ++ calls
    ∧ second.unlogged.trace = origin.unlogged.trace ++ calls

namespace Matches

variable {leaf : Sink} {start origin first second : World}

theorem refl (held : start.holding leaf = origin.holding leaf)
    (troubles : start.troubles = origin.troubles) : Matches leaf start origin start origin :=
  ⟨held, troubles, [], (List.append_nil _).symm, (List.append_nil _).symm⟩

theorem calls_eq (same : Matches leaf start origin first second) :
    start.callsSince first = origin.callsSince second := by
  obtain ⟨calls, trace, also⟩ := same.trace
  rw [callsSince, callsSince, trace, also, List.drop_left, List.drop_left]

/-- What changes neither the log nor what was called. -/
theorem of_trace (same : Matches leaf start origin first second) {left right : World}
    (held : left.holding leaf = right.holding leaf) (troubles : left.troubles = right.troubles)
    (trace : left.unlogged.trace = first.unlogged.trace)
    (also : right.unlogged.trace = second.unlogged.trace) :
    Matches leaf start origin left right := by
  obtain ⟨calls, first_calls, second_calls⟩ := same.trace
  exact ⟨held, troubles, calls, trace.trans first_calls, also.trans second_calls⟩

theorem note (same : Matches leaf start origin first second) (event : Event) :
    Matches leaf start origin (first.note event) (second.note event) := by
  obtain ⟨calls, trace, also⟩ := same.trace
  refine ⟨?_, same.troubles, ?_⟩
  · rw [holding_note, holding_note, same.holding]
  · rw [unlogged_note, unlogged_note]
    cases event.isLog with
    | true => exact ⟨calls, trace, also⟩
    | false =>
        refine ⟨calls ++ [event], ?_, ?_⟩
        · show first.unlogged.trace ++ [event] = _
          rw [trace, List.append_assoc]
        · show second.unlogged.trace ++ [event] = _
          rw [also, List.append_assoc]

/-- Whether the log takes an entry makes no difference. -/
theorem logged (same : Matches leaf start origin first second) (entry : LogEntry) :
    Matches leaf start origin (first.logged entry) (second.logged entry) := by
  apply same.of_trace
  · rw [holding_logged, holding_logged, same.holding]
  · have unmoved : ∀ world : World, (world.logged entry).troubles = world.troubles := by
      intro world
      rw [World.logged]
      split <;> rfl
    rw [unmoved, unmoved, same.troubles]
  · rw [unlogged_logged]
  · rw [unlogged_logged]

section Streams

variable {label : Label} {logger : LoggerName}

/-- A stream sink finds the same destination. -/
theorem destination_eq (same : Matches (.stream label logger) start origin first second) :
    first.destination label = second.destination label := by
  have held := congrArg Holding.destination? same.holding
  rw [destination?_holding, destination?_holding] at held
  exact Option.some.inj held

/-- It finds the same at the location of a file. -/
theorem entry_eq (same : Matches (.stream label logger) start origin first second)
    {handle : FileHandle} (found : second.destination label = .file handle) :
    first.files.lookup? handle.location = second.files.lookup? handle.location := by
  have held := same.holding
  have also := same.destination_eq
  rw [found] at also
  simp only [World.holding, also, found, Holding.file.injEq, true_and] at held
  exact held

/-- It finds the same on the standard output. -/
theorem output_eq (same : Matches (.stream label logger) start origin first second)
    (found : second.destination label = .console) : first.output = second.output := by
  have held := same.holding
  have also := same.destination_eq
  rw [found] at also
  simp only [World.holding, also, found, Holding.console.injEq] at held
  exact held

/-- A collector sink finds the same client. -/
theorem client_eq (same : Matches (.http label logger) start origin first second) :
    first.client label = second.client label := Holding.client.inj same.holding

/-- Buffers and writers in the same new state. -/
theorem setDestination (same : Matches (.stream label logger) start origin first second)
    {state : Destination} (plain : ∀ world : World, world.destination label = state →
      world.holding (.stream label logger) = .destination state) :
    Matches (.stream label logger) start origin (first.setDestination label state)
      (second.setDestination label state) := by
  apply same.of_trace
  · rw [plain _ (first.setDestination_self label state),
      plain _ (second.setDestination_self label state)]
  · exact same.troubles
  · rfl
  · rfl

/-- Files that were used in the same way. -/
theorem setFile (same : Matches (.stream label logger) start origin first second)
    {location : Location}
    {left right : Except Failure Unit × FileHandle × FileTree}
    (alike : FileHandle.Alike location left right) (placed : left.2.1.location = location) :
    Matches (.stream label logger) start origin
      { first.setDestination label (.file left.2.1) with files := left.2.2 }
      { second.setDestination label (.file right.2.1) with files := right.2.2 } := by
  obtain ⟨_, handle, entry⟩ := alike
  apply same.of_trace
  · rw [← placed] at entry
    simp only [World.holding, World.setDestination, if_true, ← handle, entry]
  · exact same.troubles
  · rfl
  · rfl

theorem setClient (same : Matches (.http label logger) start origin first second)
    (state : Client) :
    Matches (.http label logger) start origin (first.setClient label state)
      (second.setClient label state) := by
  apply same.of_trace
  · rw [World.holding, World.holding, World.setClient_self, World.setClient_self]
  · exact same.troubles
  · rfl
  · rfl

end Streams

end Matches

end World

namespace Sink

variable {leaf : Sink} {start origin : World} {label : Label} {logger : LoggerName}

theorem matched_note (event : Event) :
    Coupled (World.Matches leaf start origin) (note event) (note event) :=
  .modify fun _ _ same => same.note event

theorem matched_log (library : LoggerName) (event : LogEvent) :
    Coupled (World.Matches leaf start origin) (log library event) (log library event) :=
  .modify fun _ _ same => same.logged _

theorem matched_write (data : Bytes) :
    Coupled (World.Matches (.stream label logger) start origin) (write label data)
      (write label data) := by
  intro first second same
  rw [run_write, run_write, same.destination_eq, same.troubles]
  have noted := same.note (.write label data)
  cases found : second.destination label with
  | buffer content closed =>
      cases closed with
      | true => exact ⟨rfl, noted⟩
      | false =>
          refine ⟨rfl, noted.setDestination ?_⟩
          intro world state
          rw [World.holding, state]
  | writer failures offer writes =>
      refine ⟨rfl, noted.setDestination ?_⟩
      intro world state
      rw [World.holding, state]
  | file handle =>
      cases second.troubles.fileWrite with
      | some failure => exact ⟨rfl, same⟩
      | none =>
          have alike := handle.write_alike data (same.entry_eq found)
          exact ⟨alike.1, same.setFile alike (handle.uses_write first.files data).location⟩
  | console =>
      cases second.troubles.consoleWrite with
      | some failure => exact ⟨rfl, same⟩
      | none =>
          refine ⟨rfl, same.of_trace ?_ rfl rfl rfl⟩
          have also := same.destination_eq
          simp only [World.holding, also, found, same.output_eq found]

theorem matched_use (offer : Offer) (event : Event) :
    Coupled (World.Matches leaf start origin) (use offer event) (use offer event) := by
  intro first second same
  rw [run_use, run_use]
  cases offer with
  | working => exact ⟨rfl, same.note event⟩
  | failing failure => exact ⟨rfl, same.note event⟩
  | _ => exact ⟨rfl, same⟩

theorem matched_flush :
    Coupled (World.Matches (.stream label logger) start origin) (flush label) (flush label) := by
  intro first second same
  rw [run_flush, run_flush, same.destination_eq, same.troubles]
  cases found : second.destination label with
  | buffer content closed => exact ⟨rfl, same.note _⟩
  | writer failures offer writes => exact matched_use offer _ first second same
  | file handle =>
      cases second.troubles.fileFlush with
      | some failure => exact ⟨rfl, same⟩
      | none =>
          have alike := handle.flush_alike (same.entry_eq found)
          exact ⟨alike.1, same.setFile alike (handle.uses_flush first.files).location⟩
  | console =>
      cases second.troubles.consoleFlush with
      | some failure => exact ⟨rfl, same⟩
      | none => exact ⟨rfl, same⟩

theorem matched_post (url : Text) (body : Bytes) :
    Coupled (World.Matches (.http label logger) start origin) (post label url body)
      (post label url body) := by
  intro first second same
  rw [run_post, run_post, same.client_eq]
  cases second.client label with
  | stub failures close posts => exact ⟨rfl, (same.note _).setClient _⟩
  | session timeout network sends => exact ⟨rfl, (same.note _).setClient _⟩

theorem matched_closeOffer (response : Response) :
    Coupled (World.Matches leaf start origin) (closeOffer response) (closeOffer response) := by
  cases response with
  | nothing => exact .pure none
  | network status =>
      apply Coupled.get_bind
      intro first second same
      rw [same.troubles]
      exact .pure _
  | stub client offer =>
      cases offer with
      | unreadable failure =>
          rw [closeOffer]
          split
          · exact .pure none
          · exact .throw failure
      | _ => exact .pure _

theorem matched_release (library : LoggerName) (response : Response) :
    Coupled (World.Matches leaf start origin) (release library response)
      (release library response) := by
  apply Coupled.bind (matched_closeOffer response)
  intro found
  cases found with
  | none => exact .pure ()
  | some found =>
      apply Coupled.absorbing
      · apply Coupled.bind
        · cases found.1 with
          | none => exact .pure ()
          | some client => exact matched_note _
        · intro _
          exact .failIf _
      · intro failure
        exact matched_log library _

theorem matched_withEntry (library : LoggerName) (record : Record)
    {deliver : Bytes → Delivery Unit}
    (delivers : ∀ entry,
      Coupled (World.Matches leaf start origin) (deliver entry) (deliver entry)) :
    Coupled (World.Matches leaf start origin) (withEntry library record deliver)
      (withEntry library record deliver) := by
  rw [withEntry]
  split
  · exact delivers _
  · split
    · exact matched_log library _
    · exact .throw _

/-- **What a leaf does depends on what it holds of the world and on nothing else.** -/
theorem matched_report (isLeaf : leaf.isLeaf = true) (record : Record) :
    Coupled (World.Matches leaf start origin) (leaf.report record) (leaf.report record) := by
  cases leaf with
  | stream label logger =>
      apply matched_withEntry
      intro entry
      apply Coupled.absorbing
      · exact .bind (matched_write _) fun _ => matched_flush
      · intro failure
        exact matched_log logger _
  | http label logger =>
      apply matched_withEntry
      intro entry
      apply Coupled.bind
      · apply Coupled.absorbing
        · exact .bind (matched_post _ _) fun _ => .pure _
        · intro failure
          exact .bind (matched_log logger _) fun _ => .pure _
      · intro response
        cases response with
        | none => exact .pure ()
        | some response => exact matched_release logger response
  | fanout members logger => cases isLeaf
  | recorder label => exact matched_note _
  | broken label failure => exact .bind (matched_note _) fun _ => .throw failure
  | empty => exact .throw _

end Sink

end Heartbeat
