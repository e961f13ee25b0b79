import Mathlib.Data.List.Basic
import Heartbeat.Proofs.Delivery.Visits
import Heartbeat.Proofs.Files.Devices
import Heartbeat.Proofs.Record.Failure

/-!
# Deliveries among ordinary failures

Collaborators may raise requests to stop, and those go through everything.  A world is
quiet if none of its collaborators does: whatever destinations, collectors and the
network fail with is ordinary.  In a quiet world sinks raise ordinary failures only,
and the world stays quiet; beside that nothing changes that closing depends on
(`World.Calm`, `Sink.calm_report`).  A fan-out, which absorbs these failures, always
returns there (`Sink.returns_of_quiet`).
-/

namespace Heartbeat

set_option autoImplicit false

/-! ## Quiet collaborators -/

/-- All failures among outcomes are ordinary. -/
def Ordinary (outcomes : List (Option Failure)) : Prop :=
  ∀ failure, some failure ∈ outcomes → failure.isOrdinary = true

theorem Ordinary.of_scripted {failures : List (Option Failure)} (ordinary : Ordinary failures)
    {number : Nat} {failure : Failure} (listed : Delivery.scripted failures number = some failure) :
    failure.isOrdinary = true :=
  ordinary failure (List.mem_of_getElem? (Option.join_eq_some_iff.mp listed))

/-- What is offered fails ordinarily if it fails. -/
def Offer.Quiet : Offer → Prop
  | .failing failure | .unreadable failure => failure.isOrdinary = true
  | _ => True

/-- A destination fails ordinarily if it fails. -/
def Destination.Quiet : Destination → Prop
  | .writer failures flush _ => Ordinary failures ∧ flush.Quiet
  | _ => True

/-- A client fails ordinarily if it fails, and so do its answers when they are closed. -/
def Client.Quiet : Client → Prop
  | .stub failures close _ => Ordinary failures ∧ ∀ offer ∈ close, offer.Quiet
  | .session _ network _ => Ordinary network.failures

/-- An answer fails ordinarily if closing it fails. -/
def Response.Quiet : Response → Prop
  | .stub _ offer => offer.Quiet
  | _ => True

/-- What each operation ends with, the operations being in the order of their fields. -/
def Troubles.outcomes (troubles : Troubles) : List (Option Failure) :=
  [troubles.fileWrite, troubles.fileFlush, troubles.fileClose, troubles.consoleWrite,
    troubles.consoleFlush, troubles.answerClose, troubles.sessionClose]

namespace World

/-- No collaborator raises a request to stop. -/
structure Quiet (world : World) : Prop where
  destination : ∀ label, (world.destination label).Quiet
  client : ∀ label, (world.client label).Quiet
  troubles : Ordinary world.troubles.outcomes

namespace Quiet

variable {world later : World}

/-- What concerns neither destinations nor clients keeps a world quiet. -/
theorem of_same (quiet : world.Quiet) (destination : later.destination = world.destination)
    (client : later.client = world.client) (troubles : later.troubles = world.troubles) :
    later.Quiet := by
  refine ⟨?_, ?_, ?_⟩
  · rw [destination]
    exact quiet.destination
  · rw [client]
    exact quiet.client
  · rw [troubles]
    exact quiet.troubles

theorem setDestination (quiet : world.Quiet) (label : Label) {state : Destination}
    (fine : state.Quiet) : (world.setDestination label state).Quiet := by
  refine ⟨fun other => ?_, quiet.client, quiet.troubles⟩
  rw [World.setDestination]
  dsimp only
  split
  · exact fine
  · exact quiet.destination other

theorem setClient (quiet : world.Quiet) (label : Label) {state : Client} (fine : state.Quiet) :
    (world.setClient label state).Quiet := by
  refine ⟨quiet.destination, fun other => ?_, quiet.troubles⟩
  rw [World.setClient]
  dsimp only
  split
  · exact fine
  · exact quiet.client other

end Quiet

end World

/-- The location of the file that a destination is. -/
def Destination.place? : Destination → Option Location
  | .file handle => some handle.location
  | _ => none

/-- Whether a client is a session. -/
def Client.isSession : Client → Bool
  | .session .. => true
  | .stub .. => false

namespace World

/-- A quiet world in which everything that matters to closing is as it was: the troubles
and the resources are the same, files are where they were, and so are sessions and full
devices. -/
structure Calm (start world : World) : Prop where
  quiet : world.Quiet
  troubles : world.troubles = start.troubles
  resources : world.resources = start.resources
  places : ∀ label, (world.destination label).place? = (start.destination label).place?
  sessions : ∀ label, (world.client label).isSession = (start.client label).isSession
  devices : ∀ place, world.files.isFull place = start.files.isFull place

namespace Calm

variable {start world : World}

theorem refl (quiet : world.Quiet) : Calm world world :=
  ⟨quiet, rfl, rfl, fun _ => rfl, fun _ => rfl, fun _ => rfl⟩

theorem note (calm : Calm start world) (event : Event) : Calm start (world.note event) :=
  { calm with quiet := calm.quiet.of_same rfl rfl rfl }

theorem logged (calm : Calm start world) (entry : LogEntry) : Calm start (world.logged entry) := by
  rw [World.logged]
  split
  · exact calm.note _
  · exact calm

theorem output (calm : Calm start world) (output : Bytes) : Calm start { world with output } :=
  { calm with quiet := calm.quiet.of_same rfl rfl rfl }

theorem setDestination (calm : Calm start world) {label : Label} {state : Destination}
    (fine : state.Quiet) (placed : state.place? = (start.destination label).place?) :
    Calm start (world.setDestination label state) := by
  refine { calm with quiet := calm.quiet.setDestination label fine, places := fun other => ?_ }
  rw [World.setDestination]
  dsimp only
  split
  · next here => exact here ▸ placed
  · exact calm.places other

/-- A file that was used in an earlier world is where it was, and no other device is
full. -/
theorem setFile {earlier : World} (before : Calm start earlier) (calm : Calm start world)
    {label : Label} {handle : FileHandle}
    (placed : (Destination.file handle).place? = (start.destination label).place?)
    {used : FileHandle × FileTree} (keeps : handle.Keeps earlier.files used) :
    Calm start { world.setDestination label (.file used.1) with files := used.2 } := by
  have moved : Calm start (world.setDestination label (.file used.1)) :=
    calm.setDestination trivial ((congrArg some keeps.location).trans placed)
  exact { moved with
    quiet := moved.quiet.of_same rfl rfl rfl
    devices := fun place => (keeps.devices place).trans (before.devices place) }

theorem setClient (calm : Calm start world) {label : Label} {state : Client}
    (fine : state.Quiet) (same : state.isSession = (start.client label).isSession) :
    Calm start (world.setClient label state) := by
  refine { calm with quiet := calm.quiet.setClient label fine, sessions := fun other => ?_ }
  rw [World.setClient]
  dsimp only
  split
  · next here => exact here ▸ same
  · exact calm.sessions other

end Calm

end World

/-! ## Calm deliveries -/

namespace Delivery

variable {result other : Type} {start : World}

/-- From a calm world a delivery leads to a calm world, returns what it should, and fails
ordinarily if it fails. -/
def Calm (start : World) (returns : result → Prop) (delivery : Delivery result) : Prop :=
  ∀ world, World.Calm start world → World.Calm start (delivery.run.run world).2
    ∧ (∀ value, (delivery.run.run world).1 = .ok value → returns value)
    ∧ ∀ failure, (delivery.run.run world).1 = .error failure → failure.isOrdinary = true

namespace Calm

variable {returns : result → Prop} {answers : other → Prop}

theorem pure {value : result} (fine : returns value) : Calm start returns (pure value) :=
  fun _ calm => ⟨calm, fun _ same => Except.ok.inj same ▸ fine, nofun⟩

theorem throw {failure : Failure} (ordinary : failure.isOrdinary = true) :
    Calm start returns (throw failure : Delivery result) :=
  fun _ calm => ⟨calm, nofun, fun _ same => Except.error.inj same ▸ ordinary⟩

theorem bind {first : Delivery result} {next : result → Delivery other}
    (begins : Calm start returns first)
    (goes : ∀ value, returns value → Calm start answers (next value)) :
    Calm start answers (first >>= next) := by
  intro world calm
  obtain ⟨kept, fine, ordinary⟩ := begins world calm
  rw [run_bind]
  generalize first.run.run world = done at kept fine ordinary ⊢
  rcases done with ⟨failure | value, later⟩
  · exact ⟨kept, nofun, fun _ same => ordinary _ (congrArg _ (Except.error.inj same))⟩
  · exact goes value (fine value rfl) later kept

theorem get_bind {next : World → Delivery result}
    (goes : ∀ world, World.Calm start world → Calm start returns (next world)) :
    Calm start returns ((get : Delivery World) >>= next) :=
  fun world calm => goes world calm world calm

theorem modify {change : World → World}
    (changes : ∀ world, World.Calm start world → World.Calm start (change world)) :
    Calm start (fun _ => True) (modify change) :=
  fun world calm => ⟨changes world calm, fun _ _ => trivial, nofun⟩

theorem ofExcept {outcome : Except Failure result}
    (fine : ∀ value, outcome = .ok value → returns value)
    (ordinary : ∀ failure, outcome = .error failure → failure.isOrdinary = true) :
    Calm start returns (ofExcept outcome : Delivery result) := by
  intro world calm
  rw [run_ofExcept]
  exact ⟨calm, fine, ordinary⟩

theorem failIf {failure : Option Failure}
    (ordinary : ∀ cause, failure = some cause → cause.isOrdinary = true) :
    Calm start (fun _ => True) (failIf failure) := by
  cases failure with
  | none => exact .pure trivial
  | some failure => exact .throw (ordinary failure rfl)

/-- A trouble is ordinary in a calm world. -/
theorem failOn {operation : Troubles → Option Failure}
    (listed : ∀ troubles : Troubles, operation troubles ∈ troubles.outcomes) :
    Calm start (fun _ => True) (failOn operation) :=
  .get_bind fun world calm => .failIf fun failure is_trouble =>
    calm.quiet.troubles failure (is_trouble ▸ listed world.troubles)

/-- What is absorbed is all that can come. -/
theorem absorbing {delivery : Delivery result} {handler : Failure → Delivery result}
    (begins : Calm start returns delivery)
    (handles : ∀ failure, Calm start returns (handler failure)) :
    Calm start returns (absorbing delivery handler) := by
  intro world calm
  obtain ⟨kept, fine, ordinary⟩ := begins world calm
  rw [run_absorbing]
  generalize delivery.run.run world = done at kept fine ordinary ⊢
  rcases done with ⟨failure | value, later⟩
  · dsimp only
    rw [if_pos (ordinary failure rfl)]
    exact handles failure later kept
  · exact ⟨kept, fine, ordinary⟩

end Calm

end Delivery

/-! ## Destinations and collectors -/

namespace Delivery

variable {start : World}

theorem calm_note (event : Event) : Calm start (fun _ => True) (note event) :=
  .modify fun _ calm => calm.note event

theorem calm_log (logger : LoggerName) (event : LogEvent) :
    Calm start (fun _ => True) (log logger event) :=
  .modify fun _ calm => calm.logged _

theorem calm_scripted {failures : List (Option Failure)} (ordinary : Ordinary failures)
    (number : Nat) : Calm start (fun _ => True) (failIf (scripted failures number)) :=
  .failIf fun _ listed => ordinary.of_scripted listed

theorem calm_write (label : Label) (data : Bytes) :
    Calm start (fun _ => True) (write label data) := by
  refine .get_bind fun world calm => ?_
  have quiet := calm.quiet.destination label
  have placed := calm.places label
  generalize world.destination label = destination at quiet placed ⊢
  cases destination with
  | buffer content closed =>
      refine .bind (calm_note _) fun _ _ => ?_
      split
      · exact .throw rfl
      · exact .modify fun _ calm => calm.setDestination trivial placed
  | writer failures flush writes =>
      refine .bind (calm_note _) fun _ _ => .bind (.modify fun _ calm => ?_) fun _ _ => ?_
      · exact calm.setDestination quiet placed
      · exact calm_scripted quiet.1 writes
  | file handle =>
      refine .bind (.failOn fun _ => ?_) fun _ _ => .get_bind fun world before => ?_
      · exact List.mem_cons_self ..
      · refine .bind (.modify fun _ calm => ?_) fun _ _ => .ofExcept (fun _ _ => trivial) ?_
        · exact before.setFile calm placed (handle.keeps_write world.files data)
        · intro failure failed
          rcases FileHandle.write_error failed with rfl | rfl <;> rfl
  | console =>
      refine .bind (.failOn fun _ => ?_) fun _ _ => .modify fun _ calm => ?_
      · simp [Troubles.outcomes]
      · exact calm.output _

theorem calm_use {offer : Offer} (quiet : offer.Quiet) (event : Event) :
    Calm start (fun _ => True) (use offer event) := by
  cases offer with
  | missing => exact .pure trivial
  | inert => exact .pure trivial
  | working => exact calm_note event
  | failing failure => exact .bind (calm_note event) fun _ _ => .throw quiet
  | unreadable failure =>
      rw [use]
      split
      · exact .pure trivial
      · exact .throw quiet

theorem calm_flush (label : Label) : Calm start (fun _ => True) (flush label) := by
  refine .get_bind fun world calm => ?_
  have quiet := calm.quiet.destination label
  have placed := calm.places label
  generalize world.destination label = destination at quiet placed ⊢
  cases destination with
  | buffer content closed => exact calm_note _
  | writer failures offer writes => exact calm_use quiet.2 _
  | file handle =>
      refine .bind (.failOn fun _ => ?_) fun _ _ => .get_bind fun world before => ?_
      · simp [Troubles.outcomes]
      · refine .bind (.modify fun _ calm => ?_) fun _ _ => .ofExcept (fun _ _ => trivial) ?_
        · exact before.setFile calm placed (handle.keeps_flush world.files)
        · intro failure failed
          rw [FileHandle.flush_error failed]
          rfl
  | console =>
      refine .failOn fun _ => ?_
      simp [Troubles.outcomes]

theorem calm_send (label : Label) (method url : Text) (body : Option Bytes)
    (contentType : Option Text) (timeout : Option Value) :
    Calm start Response.Quiet (send label method url body contentType timeout) := by
  refine .get_bind fun world calm => ?_
  have quiet := calm.quiet.client label
  have same := calm.sessions label
  generalize world.client label = client at quiet same ⊢
  cases client with
  | stub failures close posts => exact .pure trivial
  | session default network sends =>
      refine .bind (calm_note _) fun _ _ => .bind (.modify fun _ calm => ?_) fun _ _ => ?_
      · exact calm.setClient quiet same
      · exact .bind (calm_scripted quiet sends) fun _ _ => .pure trivial

theorem calm_post (label : Label) (url : Text) (body : Bytes) :
    Calm start Response.Quiet (post label url body) := by
  refine .get_bind fun world calm => ?_
  have quiet := calm.quiet.client label
  have same := calm.sessions label
  generalize world.client label = client at quiet same ⊢
  cases client with
  | stub failures close posts =>
      refine .bind (calm_note _) fun _ _ => .bind (.modify fun _ calm => ?_) fun _ _ => ?_
      · exact calm.setClient quiet same
      · refine .bind (calm_scripted quiet.1 posts) fun _ _ => .pure ?_
        cases close with
        | none => trivial
        | some offer => exact quiet.2 offer rfl
  | session default network sends => exact calm_send _ _ _ _ _ _

theorem calm_closeOffer {response : Response} (quiet : response.Quiet) :
    Calm start (fun found => ∀ label failure, found = some (label, some failure) →
      failure.isOrdinary = true) (closeOffer response) := by
  cases response with
  | nothing => exact .pure nofun
  | network status =>
      refine .get_bind fun world calm => .pure fun label failure found => ?_
      obtain ⟨_, is_trouble⟩ := Prod.mk.inj (Option.some.inj found)
      refine calm.quiet.troubles failure (is_trouble ▸ ?_)
      simp [Troubles.outcomes]
  | stub label offer =>
      cases offer with
      | missing => exact .pure nofun
      | inert => exact .pure nofun
      | working =>
          refine .pure fun label failure found => ?_
          cases (Prod.mk.inj (Option.some.inj found)).2
      | failing failure =>
          refine .pure fun label other found => ?_
          obtain rfl := Option.some.inj (Prod.mk.inj (Option.some.inj found)).2
          exact quiet
      | unreadable failure =>
          rw [closeOffer]
          split
          · exact .pure nofun
          · exact .throw quiet

theorem calm_noteClose (label : Option Label) : Calm start (fun _ => True) (noteClose label) := by
  cases label with
  | none => exact .pure trivial
  | some label => exact calm_note _

theorem calm_release (logger : LoggerName) {response : Response} (quiet : response.Quiet) :
    Calm start (fun _ => True) (release logger response) := by
  refine .bind (calm_closeOffer quiet) fun found ordinary => ?_
  match found with
  | none => exact .pure trivial
  | some (label, failure) =>
      refine .absorbing (.bind (calm_noteClose label) fun _ _ => .failIf fun cause is_failure => ?_)
        fun failure => calm_log logger _
      exact ordinary label cause (is_failure ▸ rfl)

end Delivery

/-! ## Sinks -/

/-- A record fails ordinarily if it cannot be encoded. -/
def Record.Quiet (record : Record) : Prop :=
  ∀ failure, record.encode = .error failure → failure.isOrdinary = true

/-- The leaves of a sink that fail by themselves do so ordinarily. -/
def Sink.Quiet (sink : Sink) : Prop :=
  ∀ label failure, .broken label failure ∈ sink.leaves → failure.isOrdinary = true

namespace Sink

open Delivery

variable {start : World}

theorem calm_withEntry (logger : LoggerName) {record : Record} (quiet : record.Quiet)
    {deliver : Bytes → Delivery Unit} (delivers : ∀ entry, Calm start (fun _ => True) (deliver entry)) :
    Calm start (fun _ => True) (withEntry logger record deliver) := by
  rw [withEntry]
  split
  · exact delivers _
  · next failure failed =>
      split
      · exact calm_log logger _
      · exact .throw (quiet failure failed)

theorem calm_reportToStream (destination : Label) (logger : LoggerName) {record : Record}
    (quiet : record.Quiet) :
    Calm start (fun _ => True) (reportToStream destination logger record) :=
  calm_withEntry logger quiet fun _ =>
    .absorbing (.bind (calm_write _ _) fun _ _ => calm_flush destination) fun _ => calm_log logger _

theorem calm_reportToCollector (client : Label) (logger : LoggerName) {record : Record}
    (quiet : record.Quiet) :
    Calm start (fun _ => True) (reportToCollector client logger record) := by
  refine calm_withEntry logger quiet fun entry => ?_
  have posted : Calm start (fun answer => ∀ response ∈ answer, response.Quiet)
      (absorbing (some <$> post client usageEndpoint entry) fun failure => do
        log logger (.postFailed usageEndpoint failure)
        return none) := by
    refine .absorbing ?_ fun failure => .bind (calm_log logger _) fun _ _ => .pure nofun
    refine .bind (calm_post _ _ _) fun response quiet => .pure fun other same => ?_
    exact Option.some.inj same ▸ quiet
  refine .bind posted fun answer quiet => ?_
  cases answer with
  | none => exact .pure trivial
  | some response => exact calm_release logger (quiet response rfl)

theorem calm_reportToMembers (logger : LoggerName) {record : Record} {members : List Sink}
    (each : ∀ member ∈ members, Calm start (fun _ => True) (member.report record)) (index : Nat) :
    Calm start (fun _ => True) (reportToMembers logger members index record) := by
  induction members generalizing index with
  | nil => exact .pure trivial
  | cons member members hypothesis =>
      rw [reportToMembers]
      refine .bind (.absorbing (each member (List.mem_cons_self ..)) fun _ => calm_log logger _)
        fun _ _ => ?_
      exact hypothesis (fun other inside => each other (List.mem_cons_of_mem _ inside)) (index + 1)

theorem mem_leavesOf_iff (leaf : Sink) (members : List Sink) :
    leaf ∈ leavesOf members ↔ ∃ member ∈ members, leaf ∈ member.leaves := by
  induction members with
  | nil => exact ⟨nofun, nofun⟩
  | cons member members hypothesis =>
      rw [leavesOf, List.mem_append, hypothesis, List.exists_mem_cons_iff]

/-- **In a quiet world a sink raises ordinary failures only, and the world stays quiet.** -/
theorem calm_report {record : Record} (quiet : record.Quiet) {sink : Sink}
    (harmless : sink.Quiet) : Calm start (fun _ => True) (sink.report record) := by
  induction sink using treeInduction with
  | leaf sink leaf =>
      cases sink with
      | stream destination logger => exact calm_reportToStream destination logger quiet
      | http client logger => exact calm_reportToCollector client logger quiet
      | fanout members logger => cases leaf
      | recorder label => exact calm_note _
      | broken label failure =>
          exact .bind (calm_note _) fun _ _ => .throw (harmless label failure (List.mem_cons_self ..))
      | empty => exact .throw rfl
  | fanout members logger each =>
      refine calm_reportToMembers logger (fun member among => each member among ?_) 0
      intro label failure inside
      exact harmless label failure ((mem_leavesOf_iff _ _).mpr ⟨member, among, inside⟩)

/-- **In a quiet world a fan-out returns.** -/
theorem returns_of_quiet {record : Record} (quiet : record.Quiet) {members : List Sink}
    {logger : LoggerName} (harmless : (Sink.fanout members logger).Quiet) {world : World}
    (calm : World.Calm start world) :
    ∃ later, ((Sink.fanout members logger).report record).run.run world = (.ok (), later)
      ∧ World.Calm start later := by
  obtain ⟨kept, _, ordinary⟩ := calm_report quiet harmless world calm
  generalize done : ((Sink.fanout members logger).report record).run.run world = ending at kept ordinary
  obtain ⟨outcome, later⟩ := ending
  cases outcome with
  | ok _ => exact ⟨later, rfl, kept⟩
  | error failure =>
      have stops := stops_of_reportToMembers (congrArg Prod.fst done)
      rw [ordinary failure rfl] at stops
      cases stops

end Sink

end Heartbeat
