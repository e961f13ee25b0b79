import Heartbeat.Proofs.Delivery.Actions

/-!
# What a report attempts

Whether a record can be encoded is decided by each leaf for itself.  If it can be encoded,
a stream sink attempts to write the entry once as a line, and flushes if that returns, and
a collector sink attempts one post of the entry (`Sink.attempts_report`).  If it cannot,
nothing is attempted at all (`Sink.idle_report`).  Nothing else is done with a destination
or a client.  An attempt shows once in the trace, whether it fails or not
(`Sink.Attempts.attempted`).
-/

namespace Heartbeat

set_option autoImplicit false

open Delivery

/-! ## Idling -/

namespace Event

/-- Whether an event hands a heartbeat over. -/
def isAttempt : Event → Bool
  | .write .. | .post .. | .request _ => true
  | _ => false

/-- Whether an event is a call of a destination or of a client. -/
def isCall : Event → Bool
  | .write .. | .flush _ | .post .. | .request _ | .clientClose _ | .transportClose => true
  | _ => false

theorem isAttempt_of_not_isCall {event : Event} (other : event.isCall = false) :
    event.isAttempt = false := by
  cases event with
  | write | post | request => cases other
  | _ => rfl

end Event

namespace World

/-- Neither a destination nor a client was called in between, and all of them are as they
were, and so are the files and the standard output. -/
structure Idle (world later : World) : Prop where
  destination : later.destination = world.destination
  client : later.client = world.client
  files : later.files = world.files
  output : later.output = world.output
  trace : ∃ events, later.trace = world.trace ++ events ∧ ∀ event ∈ events, event.isCall = false

namespace Idle

variable {world later : World}

theorem note (world : World) {event : Event} (other : event.isCall = false) :
    Idle world (world.note event) := by
  refine ⟨rfl, rfl, rfl, rfl, [event], rfl, ?_⟩
  intro found member
  rwa [List.mem_singleton.mp member]

theorem of_logsOnly (logs : world.LogsOnly later) : Idle world later := by
  obtain ⟨entries, rfl⟩ := logs
  refine ⟨rfl, rfl, rfl, rfl, entries.map Event.log, rfl, ?_⟩
  intro event member
  obtain ⟨entry, _, rfl⟩ := List.mem_map.mp member
  rfl

end Idle

instance : IsPreorder World Idle where
  refl _ := ⟨rfl, rfl, rfl, rfl, [], (List.append_nil _).symm, by simp⟩
  trans first second third := by
    intro before after
    obtain ⟨events, trace, others⟩ := before.trace
    obtain ⟨events', trace', others'⟩ := after.trace
    refine ⟨after.destination.trans before.destination, after.client.trans before.client,
      after.files.trans before.files, after.output.trans before.output, events ++ events', ?_, ?_⟩
    · rw [trace', trace, List.append_assoc]
    · intro event member
      exact (List.mem_append.mp member).elim (others event) (others' event)

end World

namespace Delivery

theorem idle_log (logger : LoggerName) (event : LogEvent) : Moves World.Idle (log logger event) :=
  .modify fun world => .of_logsOnly (.logged world _)

theorem idle_note {event : Event} (other : event.isCall = false) : Moves World.Idle (note event) :=
  .modify fun world => .note world other

theorem idle_closeOffer (response : Response) : Moves World.Idle (closeOffer response) := by
  cases response with
  | nothing => exact .pure none
  | network status => exact .get_bind fun _ => .pure _
  | stub client offer =>
      cases offer with
      | unreadable failure =>
          rw [closeOffer]
          split
          · exact .pure none
          · exact .throw failure
      | _ => exact .pure _

/-- Closing an answer calls neither the client nor a destination. -/
theorem idle_release (logger : LoggerName) (response : Response) :
    Moves World.Idle (release logger response) := by
  apply Moves.bind (idle_closeOffer response)
  intro found
  cases found with
  | none => exact .pure ()
  | some found =>
      apply Moves.absorbing
      · apply Moves.bind
        · cases found.1 with
          | none => exact .pure ()
          | some client => exact idle_note rfl
        · intro _
          exact .failIf _
      · intro failure
        exact idle_log _ _

end Delivery

/-! ## Attempts -/

namespace Sink

/-- What a leaf does with an entry.  A stream sink writes it once as a line, and flushes
if that returns; a collector sink posts it once; and there is nothing that any leaf does
beside that with destinations and clients. -/
def Attempts (entry : Bytes) : Sink → World → World → Prop
  | .stream destination _, world, later =>
    match (write destination (entry ++ [lineFeed])).run.run world with
    | (.ok _, written) => World.Idle ((flush destination).run.run written).2 later
    | (.error _, written) => World.Idle written later
  | .http client _, world, later =>
    World.Idle ((post client usageEndpoint entry).run.run world).2 later
  | _, world, later => World.Idle world later

theorem withEntry_of_ok {record : Record} {entry : Bytes} (encoded : record.encode = .ok entry)
    (logger : LoggerName) (deliver : Bytes → Delivery Unit) :
    withEntry logger record deliver = deliver entry := by
  rw [withEntry, encoded]

/-- What a collector sink does with a record that can be encoded, by how the post ends. -/
theorem run_reportToCollector {record : Record} {entry : Bytes}
    (encoded : record.encode = .ok entry) (client : Label) (logger : LoggerName) (world : World) :
    (reportToCollector client logger record).run.run world
      = match (post client usageEndpoint entry).run.run world with
        | (.ok response, later) => (release logger response).run.run later
        | (.error failure, later) =>
          if failure.isOrdinary then
            (.ok (), later.logged ⟨logger, .postFailed usageEndpoint failure⟩)
          else (.error failure, later) := by
  rw [reportToCollector, withEntry_of_ok encoded, run_bind, run_absorbing, map_eq_pure_bind,
    run_bind]
  rcases (post client usageEndpoint entry).run.run world with ⟨failure | response, later⟩
  · by_cases ordinary : failure.isOrdinary = true
    · simp only [if_pos ordinary]
      rfl
    · simp only [if_neg ordinary]
  · rfl

theorem attempts_reportToStream {record : Record} {entry : Bytes}
    (encoded : record.encode = .ok entry) (destination : Label) (logger : LoggerName)
    (world : World) :
    Attempts entry (.stream destination logger) world
      ((reportToStream destination logger record).run.run world).2 := by
  rw [reportToStream, withEntry_of_ok encoded, run_absorbing, run_bind, Attempts]
  rcases (write destination (entry ++ [lineFeed])).run.run world with ⟨failure | _, written⟩
  · dsimp only
    split
    · exact idle_log logger _ written
    · exact refl_of World.Idle written
  · dsimp only
    rcases (flush destination).run.run written with ⟨failure | _, flushed⟩
    · dsimp only
      split
      · exact idle_log logger _ flushed
      · exact refl_of World.Idle flushed
    · exact refl_of World.Idle flushed

theorem attempts_reportToCollector {record : Record} {entry : Bytes}
    (encoded : record.encode = .ok entry) (client : Label) (logger : LoggerName)
    (world : World) :
    Attempts entry (.http client logger) world
      ((reportToCollector client logger record).run.run world).2 := by
  rw [run_reportToCollector encoded, Attempts]
  rcases (post client usageEndpoint entry).run.run world with ⟨failure | response, posted⟩
  · dsimp only
    split
    · exact idle_log logger _ posted
    · exact refl_of World.Idle posted
  · exact idle_release logger response posted

/-- A leaf that has something to deliver attempts to deliver it once. -/
theorem attempts_report {record : Record} {entry : Bytes} (encoded : record.encode = .ok entry)
    {leaf : Sink} (isLeaf : leaf.isLeaf = true) (world : World) :
    leaf.Attempts entry world ((leaf.report record).run.run world).2 := by
  cases leaf with
  | stream destination logger => exact attempts_reportToStream encoded destination logger world
  | http client logger => exact attempts_reportToCollector encoded client logger world
  | fanout members logger => cases isLeaf
  | recorder label => exact idle_note rfl world
  | broken label failure => exact Moves.bind (idle_note rfl) (fun _ => .throw failure) world
  | empty => exact refl_of World.Idle world

/-- A leaf that has nothing to deliver idles. -/
theorem idle_report {record : Record} {failure : Failure} (failed : record.encode = .error failure)
    {leaf : Sink} (isLeaf : leaf.isLeaf = true) : Moves World.Idle (leaf.report record) := by
  have idle : ∀ logger deliver, Moves World.Idle (withEntry logger record deliver) := by
    intro logger deliver
    rw [withEntry, failed]
    dsimp only
    split
    · exact idle_log logger _
    · exact .throw failure
  cases leaf with
  | stream destination logger => exact idle _ _
  | http client logger => exact idle _ _
  | fanout members logger => cases isLeaf
  | recorder label => exact idle_note rfl
  | broken label failure => exact .bind (idle_note rfl) fun _ => .throw failure
  | empty => exact .throw _

end Sink

/-! ## Traces -/

namespace World

/-- How an attempt of a leaf shows in the trace.  Files and the standard output leave no
trace. -/
def attempt? (world : World) (entry : Bytes) : Sink → Option Event
  | .stream destination _ =>
    match (world.destination destination).kind with
    | .buffer _ | .writer => some (.write destination (entry ++ [lineFeed]))
    | .file .. | .console => none
  | .http client _ =>
    match (world.client client).timeout? with
    | none => some (@Event.post jsonContent client usageEndpoint entry)
    | some timeout =>
      some (.request ⟨"POST", usageEndpoint, some entry, some jsonContent, timeout⟩)
  | _ => none

/-- The attempts in the trace since an earlier world. -/
def Attempted (attempts : List Event) (world later : World) : Prop :=
  ∃ events, later.trace = world.trace ++ events ∧ events.filter Event.isAttempt = attempts

namespace Attempted

variable {world later final : World} {attempts others : List Event}

theorem of_idle (idle : world.Idle later) : Attempted [] world later := by
  obtain ⟨events, trace, uncalled⟩ := idle.trace
  refine ⟨events, trace, List.filter_eq_nil_iff.mpr ?_⟩
  intro event member
  rw [Event.isAttempt_of_not_isCall (uncalled event member)]
  exact Bool.false_ne_true

theorem trans (first : Attempted attempts world later) (second : Attempted others later final) :
    Attempted (attempts ++ others) world final := by
  obtain ⟨events, trace, attempted⟩ := first
  obtain ⟨events', trace', attempted'⟩ := second
  refine ⟨events ++ events', ?_, ?_⟩
  · rw [trace', trace, List.append_assoc]
  · rw [List.filter_append, attempted, attempted']

end Attempted

end World

namespace Sink

/-- Writing to a destination is one attempt. -/
theorem attempted_write (entry : Bytes) (destination : Label) (logger : LoggerName)
    (world : World) :
    World.Attempted (world.attempt? entry (.stream destination logger)).toList world
      ((write destination (entry ++ [lineFeed])).run.run world).2 := by
  rw [run_write, World.attempt?]
  cases world.destination destination with
  | buffer content closed => cases closed <;> exact ⟨[_], rfl, rfl⟩
  | writer failures offer writes => exact ⟨[_], rfl, rfl⟩
  | file handle =>
      cases world.troubles.fileWrite <;> exact ⟨[], (List.append_nil _).symm, rfl⟩
  | console =>
      cases world.troubles.consoleWrite <;> exact ⟨[], (List.append_nil _).symm, rfl⟩

/-- Flushing is none. -/
theorem attempted_flush (destination : Label) (world : World) :
    World.Attempted [] world ((flush destination).run.run world).2 := by
  have nothing : World.Attempted [] world world := ⟨[], (List.append_nil _).symm, rfl⟩
  rw [run_flush]
  cases world.destination destination with
  | buffer content closed => exact ⟨[_], rfl, rfl⟩
  | writer failures offer writes =>
      dsimp only
      rw [run_use]
      cases offer with
      | working | failing => exact ⟨[_], rfl, rfl⟩
      | _ => exact nothing
  | file handle =>
      cases world.troubles.fileFlush with
      | some failure => exact nothing
      | none => exact ⟨[], (List.append_nil _).symm, rfl⟩
  | console => cases world.troubles.consoleFlush <;> exact nothing

/-- Posting is one attempt. -/
theorem attempted_post (entry : Bytes) (client : Label) (logger : LoggerName) (world : World) :
    World.Attempted (world.attempt? entry (.http client logger)).toList world
      ((post client usageEndpoint entry).run.run world).2 := by
  rw [run_post, World.attempt?]
  cases world.client client with
  | stub failures close posts => exact ⟨[_], rfl, rfl⟩
  | session timeout network sends => exact ⟨[_], rfl, rfl⟩

/-- What a leaf attempts shows once in the trace. -/
theorem Attempts.attempted {entry : Bytes} {leaf : Sink} {world later : World}
    (attempts : leaf.Attempts entry world later) :
    World.Attempted (world.attempt? entry leaf).toList world later := by
  cases leaf with
  | stream destination logger =>
      have written := attempted_write entry destination logger world
      rw [Attempts] at attempts
      generalize (write destination (entry ++ [lineFeed])).run.run world = done at attempts written
      obtain ⟨failure | _, found⟩ := done
      · have ended := written.trans (.of_idle attempts)
        rwa [List.append_nil] at ended
      · have ended := (written.trans (attempted_flush destination found)).trans (.of_idle attempts)
        rwa [List.append_nil, List.append_nil] at ended
  | http client logger =>
      have ended := (attempted_post entry client logger world).trans (.of_idle attempts)
      rwa [List.append_nil] at ended
  | _ => exact .of_idle attempts

end Sink

end Heartbeat
