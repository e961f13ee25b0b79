import Heartbeat.Proofs.Delivery.Moments
import Heartbeat.Proofs.Json.Points
import Heartbeat.Proofs.Record.RoundTrip

/-!
# Lines

A buffer that stream sinks write to grows by whole lines.  At every moment of a run
its content is what it was at the beginning and then, in the order in which the
stream sinks on it were visited, the canonical form of each record that has one and
a line feed behind it (`Moment.whole_lines`).  Only a step that closes the buffer ends
this.  A canonical form holds no line feed, so the lines can be told apart again.

`World.Takes label lines` is what a part of a run does to a buffer: it appends the
lines, unless the buffer is closed, and attempts to write exactly these.  What a
part of a run does is composed of what its parts do (`World.Takes.trans`).
-/

namespace Heartbeat

set_option autoImplicit false

open Delivery

/-! ## Canonical forms and lines -/

/-- **No byte of a canonical form is a control.** -/
theorem Record.printed_of_mem_encode {record : Record} {entry : Bytes}
    (encoded : record.encode = .ok entry) : ∀ byte ∈ entry, 0x20 ≤ byte.toNat := by
  obtain ⟨document, _, written⟩ := (Record.encode_eq_ok_iff record entry).mp encoded
  obtain ⟨_, rfl⟩ := (Text.encode_eq_ok_iff document.render entry).mp written
  intro byte member
  exact Text.le_toNat_of_mem_bytes (fun point => Json.printed_of_mem_render) member

namespace Bytes

/-- An entry as a line. -/
def line (entry : Bytes) : Bytes := entry ++ [lineFeed]

/-- Lines one after the other fall into their entries and an empty rest. -/
theorem splitOn_lines {entries : List Bytes}
    (printed : ∀ entry ∈ entries, ∀ byte ∈ entry, 0x20 ≤ byte.toNat) :
    ((entries.map line).flatten).splitOn lineFeed = entries ++ [[]] := by
  induction entries with
  | nil => exact List.splitOn_nil lineFeed
  | cons entry entries hypothesis =>
      have clean : lineFeed ∉ entry := by
        intro member
        exact absurd (printed entry (List.mem_cons_self ..) lineFeed member) (by decide)
      rw [List.map_cons, List.flatten_cons, line, List.append_assoc, List.singleton_append,
        List.splitOn_append_cons_self_of_not_mem clean,
        hypothesis fun entry inside => printed entry (List.mem_cons_of_mem _ inside),
        List.cons_append]

/-- Bytes that consist of whole lines. -/
def Whole (content : Bytes) : Prop := content = [] ∨ content.getLast? = some lineFeed

/-- Behind whole lines a line of its own begins. -/
theorem splitOn_append_of_whole {content : Bytes} (whole : content.Whole) (rest : Bytes) :
    (content ++ rest).splitOn lineFeed
      = (content.splitOn lineFeed).dropLast ++ rest.splitOn lineFeed := by
  rcases whole with rfl | ends
  · rw [List.nil_append, List.splitOn_nil]
    rfl
  · obtain ⟨front, rfl⟩ := List.getLast?_eq_some_iff.mp ends
    rw [List.append_assoc, List.singleton_append, List.splitOn_append_cons_self,
      List.splitOn_append_cons_self, List.splitOn_nil, List.dropLast_concat]

end Bytes

/-! ## What a part of a run does to a buffer -/

namespace Event

/-- What an event attempts to write to a destination. -/
def writeTo? (label : Label) : Event → Option Bytes
  | .write destination data => if destination = label then some data else none
  | _ => none

end Event

namespace World

/-- If a destination is a buffer, then the later world has lines appended to it, as
long as it is not closed, and it is these lines that have been attempted to write. -/
def Takes (label : Label) (lines : List Bytes) (world later : World) : Prop :=
  ∀ content closed, world.destination label = .buffer content closed →
    later.destination label
        = .buffer (content ++ (if closed then [] else lines).flatten) closed
      ∧ ∃ events, later.trace = world.trace ++ events
        ∧ events.filterMap (Event.writeTo? label) = lines

namespace Takes

variable {label : Label}

theorem trans {first second third : World} {lines others : List Bytes}
    (takes : Takes label lines first second) (more : Takes label others second third) :
    Takes label (lines ++ others) first third := by
  intro content closed buffer
  obtain ⟨grown, events, trace, written⟩ := takes content closed buffer
  obtain ⟨grown', events', trace', written'⟩ := more _ closed grown
  refine ⟨?_, events ++ events', ?_, ?_⟩
  · rw [grown']
    cases closed <;> simp
  · rw [trace', trace, List.append_assoc]
  · rw [List.filterMap_append, written, written']

/-- A buffer that stays as it is takes no lines if none are attempted to write. -/
theorem of_same {world later : World} {events : List Event}
    (destination : later.destination label = world.destination label)
    (trace : later.trace = world.trace ++ events)
    (aside : ∀ event ∈ events, event.writeTo? label = none) : Takes label [] world later := by
  intro content closed buffer
  refine ⟨?_, events, trace, List.filterMap_eq_nil_iff.mpr aside⟩
  rw [destination, buffer]
  cases closed <;> simp

instance : IsPreorder World (Takes label []) where
  refl _ := of_same rfl (List.append_nil _).symm fun _ member => absurd member List.not_mem_nil
  trans _ _ _ first second := first.trans second

/-- What happens beside the destinations leaves a buffer alone. -/
theorem of_beside {world later : World} (beside : World.Beside world later) :
    Takes label [] world later := by
  obtain ⟨destination, _, _, events, trace, quiet⟩ := beside
  refine of_same (congrFun destination label) trace fun event member => ?_
  have own := quiet event member
  cases event with
  | write destination data => cases own
  | _ => rfl

/-- The same where nothing is done that is noted. -/
theorem of_unnoted {world later : World}
    (destination : later.destination label = world.destination label)
    (trace : later.trace = world.trace) : Takes label [] world later :=
  of_same destination (trace.trans (List.append_nil _).symm) fun _ member => absurd member List.not_mem_nil

theorem setDestination (world : World) {other : Label} (apart : other ≠ label)
    (state : Destination) : Takes label [] world (world.setDestination other state) :=
  of_unnoted (if_neg (Ne.symm apart)) rfl

theorem note (world : World) {event : Event} (aside : event.writeTo? label = none) :
    Takes label [] world (world.note event) :=
  of_same rfl rfl fun other member => by rw [List.mem_singleton.mp member, aside]

end Takes

end World

/-! ## Elementary deliveries -/

namespace Delivery

variable {label : Label}

theorem takes_log (logger : LoggerName) (event : LogEvent) :
    Moves (World.Takes label []) (log logger event) :=
  fun world => .of_beside (moves_log logger event world)

theorem takes_note {event : Event} (aside : event.writeTo? label = none) :
    Moves (World.Takes label []) (note event) := .modify fun world => .note world aside

theorem takes_setClient (client : Label) (state : Client) :
    Moves (World.Takes label []) (modify fun world => world.setClient client state) :=
  .modify fun _ => .of_unnoted rfl rfl

/-- Writing to a buffer appends to it. -/
theorem takes_write (data : Bytes) (world : World) :
    World.Takes label [data] world ((write label data).run.run world).2 := by
  intro content closed buffer
  rw [write, run_get_bind, buffer]
  cases closed with
  | true =>
      refine ⟨?_, [.write label data], rfl, by simp [Event.writeTo?]⟩
      show world.destination label = _
      simpa using buffer
  | false =>
      refine ⟨?_, [.write label data], rfl, by simp [Event.writeTo?]⟩
      show (if label = label then Destination.buffer (content ++ data) false else _) = _
      simp

/-- Writing elsewhere leaves a buffer alone. -/
theorem takes_write_of_ne {other : Label} (apart : other ≠ label) (data : Bytes) :
    Moves (World.Takes label []) (write other data) := by
  have aside : (Event.write other data).writeTo? label = none := if_neg apart
  refine .get_bind fun world => ?_
  cases world.destination other with
  | buffer content closed =>
      refine .bind (takes_note aside) fun _ => ?_
      split
      · exact .throw _
      · exact .modify fun world => .setDestination world apart _
  | writer failures offer writes =>
      refine .bind (takes_note aside) fun _ => ?_
      exact .bind (.modify fun world => .setDestination world apart _) fun _ => .failIf _
  | file handle =>
      refine .bind (.failOn _) fun _ => .get_bind fun world => ?_
      refine .bind (.modify fun world => ?_) fun _ => .ofExcept _
      exact .of_unnoted (if_neg (Ne.symm apart)) rfl
  | console => exact .bind (.failOn _) fun _ => .modify fun _ => .of_unnoted rfl rfl

theorem takes_use (offer : Offer) {event : Event} (aside : event.writeTo? label = none) :
    Moves (World.Takes label []) (use offer event) := by
  cases offer with
  | missing => exact .pure ()
  | inert => exact .pure ()
  | working => exact takes_note aside
  | failing failure => exact .bind (takes_note aside) fun _ => .throw failure
  | unreadable failure =>
      rw [use]
      split
      · exact .pure ()
      · exact .throw failure

/-- Flushing leaves a buffer alone. -/
theorem takes_flush (target : Label) : Moves (World.Takes label []) (flush target) := by
  by_cases same : target = label
  · intro world content closed buffer
    rw [flush, run_get_bind, same, buffer]
    exact World.Takes.note world rfl content closed buffer
  · refine .get_bind fun world => ?_
    cases world.destination target with
    | buffer content closed => exact takes_note rfl
    | writer failures offer writes => exact takes_use offer rfl
    | file handle =>
        refine .bind (.failOn _) fun _ => .get_bind fun world => ?_
        refine .bind (.modify fun world => ?_) fun _ => .ofExcept _
        exact .of_unnoted (if_neg (Ne.symm same)) rfl
    | console => exact .failOn _

theorem takes_post (client : Label) (url : Text) (body : Bytes) :
    Moves (World.Takes label []) (post client url body) := by
  refine .get_bind fun world => ?_
  cases world.client client with
  | stub failures close posts =>
      refine .bind (takes_note rfl) fun _ => .bind (takes_setClient _ _) fun _ => ?_
      exact .bind (.failIf _) fun _ => .pure _
  | session default network sends =>
      refine .get_bind fun world => ?_
      cases world.client client with
      | stub failures close posts => exact .pure _
      | session default network sends =>
          refine .bind (takes_note rfl) fun _ => .bind (takes_setClient _ _) fun _ => ?_
          exact .bind (.failIf _) fun _ => .pure _

theorem takes_closeOffer (response : Response) :
    Moves (World.Takes label []) (closeOffer response) := by
  cases response with
  | nothing => exact .pure none
  | network status => exact .get_bind fun _ => .pure _
  | stub client offer =>
      cases offer with
      | unreadable failure =>
          rw [closeOffer]
          split
          · exact .pure none
          · exact .throw failure
      | _ => exact .pure _

theorem takes_noteClose (client : Option Label) :
    Moves (World.Takes label []) (noteClose client) := by
  cases client with
  | none => exact .pure ()
  | some client => exact takes_note rfl

theorem takes_release (logger : LoggerName) (response : Response) :
    Moves (World.Takes label []) (release logger response) := by
  refine .bind (takes_closeOffer response) fun found => ?_
  cases found with
  | none => exact .pure ()
  | some found =>
      exact .absorbing (.bind (takes_noteClose _) fun _ => .failIf _) fun failure => takes_log _ _

end Delivery

/-! ## Visits -/

namespace Visit

/-- The entry that a visit is to add to a destination: the canonical form of the
record, if the leaf is a stream sink on the destination and there is one. -/
def entryTo? (label : Label) (visit : Visit) : Option Bytes :=
  match visit.leaf with
  | .stream destination _ => if destination = label then visit.record.encode.toOption else none
  | _ => none

theorem entryTo?_stream (label destination : Label) (logger : LoggerName) (record : Record)
    (world : World) :
    entryTo? label ⟨.stream destination logger, record, world⟩
      = if destination = label then record.encode.toOption else none := rfl

/-- The entries that visits are to add to a destination, in their order. -/
def entriesTo (label : Label) (visits : List Visit) : List Bytes :=
  visits.filterMap (entryTo? label)

theorem entriesTo_cons (label : Label) (visit : Visit) (visits : List Visit) :
    entriesTo label (visit :: visits) = (visit.entryTo? label).toList ++ entriesTo label visits := by
  simp only [entriesTo, List.filterMap_eq_flatMap_toList, List.flatMap_cons]

theorem entriesTo_append (label : Label) (visits others : List Visit) :
    entriesTo label (visits ++ others) = entriesTo label visits ++ entriesTo label others :=
  List.filterMap_append

theorem entriesTo_concat (label : Label) (visits : List Visit) (visit : Visit) :
    entriesTo label (visits ++ [visit])
      = entriesTo label visits ++ (visit.entryTo? label).toList := by
  rw [entriesTo_append, entriesTo_cons]
  exact congrArg _ (List.append_nil _)

theorem encode_of_mem_entriesTo {label : Label} {visits : List Visit} {entry : Bytes}
    (member : entry ∈ entriesTo label visits) :
    ∃ visit ∈ visits, visit.record.encode = .ok entry := by
  obtain ⟨visit, inside, found⟩ := List.mem_filterMap.mp member
  refine ⟨visit, inside, ?_⟩
  rw [entryTo?] at found
  split at found
  · split at found
    · cases encoded : visit.record.encode with
      | ok entry =>
          rw [encoded] at found
          rw [Option.some.inj found]
      | error failure =>
          rw [encoded] at found
          cases found
    · cases found
  · cases found

end Visit

namespace Sink

variable {label : Label}

/-- A visit of a stream sink adds its entry as a line. -/
theorem takes_reportToStream (destination : Label) (logger : LoggerName) (record : Record)
    (world : World) :
    World.Takes label
      ((Visit.entryTo? label ⟨.stream destination logger, record, world⟩).toList.map Bytes.line)
      world ((reportToStream destination logger record).run.run world).2 := by
  rw [reportToStream, run_withEntry, Visit.entryTo?_stream]
  cases record.encode with
  | error failure =>
      have nothing : (if destination = label then (Except.error failure).toOption else none)
          = (none : Option Bytes) := by
        split <;> rfl
      rw [nothing]
      dsimp only
      split
      · exact takes_log logger _ world
      · exact refl_of (World.Takes label []) world
  | ok entry =>
      have handled : ∀ failure, Moves (World.Takes label []) (log logger (.writeFailed failure)) :=
        fun failure => takes_log logger _
      by_cases same : destination = label
      · subst same
        rw [if_pos rfl]
        have stable : ∀ found later : World,
            World.Takes destination [Bytes.line entry] world found →
            World.Takes destination [] found later →
            World.Takes destination [Bytes.line entry] world later := by
          intro found later takes more
          simpa using takes.trans more
        exact Moves.reach_absorbing _ stable
          (Moves.reach_bind _ stable (takes_write (Bytes.line entry) world)
            fun _ => takes_flush destination) handled
      · rw [if_neg same]
        exact Moves.absorbing (.bind (takes_write_of_ne same _) fun _ => takes_flush destination)
          handled world

theorem takes_reportToCollector (client : Label) (logger : LoggerName) (record : Record) :
    Moves (World.Takes label []) (reportToCollector client logger record) := by
  rw [reportToCollector, withEntry]
  split
  · refine .bind (.absorbing ?_ fun failure => ?_) fun response => ?_
    · exact .bind (takes_post _ _ _) fun _ => .pure _
    · exact .bind (takes_log _ _) fun _ => .pure _
    · cases response with
      | none => exact .pure ()
      | some response => exact takes_release logger response
  · split
    · exact takes_log _ _
    · exact .throw _

/-- **A visit adds its entry to a buffer, if it has one for it, and nothing else.** -/
theorem takes_visit {visit : Visit} (leaf : visit.leaf.isLeaf = true) :
    World.Takes label ((visit.entryTo? label).toList.map Bytes.line) visit.before
      visit.after := by
  obtain ⟨sink, record, world⟩ := visit
  cases sink with
  | stream destination logger => exact takes_reportToStream destination logger record world
  | http client logger => exact takes_reportToCollector client logger record world
  | fanout members logger => cases leaf
  | recorder target => exact takes_note rfl world
  | broken target failure => exact Moves.bind (takes_note rfl) (fun _ => .throw failure) world
  | empty => exact refl_of (World.Takes label []) world

/-- Linked visits add their entries one after the other. -/
theorem takes_linked {world later : World} {visits : List Visit}
    (linked : Linked World.Beside world visits later)
    (leaves : ∀ visit ∈ visits, visit.leaf.isLeaf = true) :
    World.Takes label ((Visit.entriesTo label visits).map Bytes.line) world later := by
  induction linked with
  | nil moves => exact .of_beside moves
  | @cons world later visit visits moves rest hypothesis =>
      have aside : World.Takes label [] world visit.before := .of_beside moves
      have first := aside.trans (takes_visit (leaves visit (List.mem_cons_self ..)))
      have others := hypothesis fun visit inside => leaves visit (List.mem_cons_of_mem _ inside)
      have both := first.trans others
      rw [Visit.entriesTo_cons, List.map_append]
      exact both

end Sink

/-! ## Runs -/

/-- What holds of a buffer at a moment of a run: its content is the initial one and
then lines for the first of the entries, for all of them as long as it is not
closed, and lines for all of them have been attempted to write. -/
structure Lined (label : Label) (initial : Bytes) (start : World) (done : List Step)
    (entries : List Bytes) (now : World) : Prop where
  content : ∃ kept closed, kept <+: entries
    ∧ now.destination label = .buffer (initial ++ (kept.map Bytes.line).flatten) closed
    ∧ (closed = false → kept = entries) ∧ (closed = true → .closeBuffer label ∈ done)
  trace : ∃ events, now.trace = start.trace ++ events
    ∧ events.filterMap (Event.writeTo? label) = entries.map Bytes.line

namespace Lined

variable {label : Label} {initial : Bytes} {start found later : World} {done : List Step}
  {entries more : List Bytes}

theorem takes (lined : Lined label initial start done entries found)
    (takes : World.Takes label (more.map Bytes.line) found later) :
    Lined label initial start done (entries ++ more) later := by
  obtain ⟨⟨kept, closed, first, buffer, all, closing⟩, events, trace, written⟩ := lined
  obtain ⟨grown, events', trace', written'⟩ := takes _ closed buffer
  refine ⟨?_, events ++ events', ?_, ?_⟩
  · cases closed with
    | true =>
        refine ⟨kept, true, first.trans (List.prefix_append _ _), ?_, nofun, closing⟩
        simpa using grown
    | false =>
        obtain rfl := all rfl
        refine ⟨kept ++ more, false, List.prefix_rfl, ?_, fun _ => rfl, nofun⟩
        rw [grown, List.map_append, List.flatten_append, List.append_assoc]
        rfl
  · rw [trace', trace, List.append_assoc]
  · rw [List.filterMap_append, written, written', List.map_append]

theorem later_step (lined : Lined label initial start done entries found) (step : Step) :
    Lined label initial start (done ++ [step]) entries found := by
  obtain ⟨⟨kept, closed, first, buffer, all, closing⟩, trace⟩ := lined
  exact ⟨⟨kept, closed, first, buffer, all, fun shut => List.mem_append_left _ (closing shut)⟩,
    trace⟩

/-- Closing this buffer or another keeps the lines. -/
theorem close (lined : Lined label initial start done entries found) (target : Label) :
    Lined label initial start (done ++ [.closeBuffer target]) entries
      ((Step.perform (.closeBuffer target)).run.run found).2 := by
  have before := lined.later_step (.closeBuffer target)
  rw [Step.run_closeBuffer]
  dsimp only
  split
  · next content _ found_buffer =>
      obtain ⟨⟨kept, closed, first, buffer, all, closing⟩, trace⟩ := before
      refine ⟨?_, trace⟩
      by_cases same : target = label
      · subst same
        obtain ⟨rfl, _⟩ := Destination.buffer.inj (found_buffer.symm.trans buffer)
        refine ⟨kept, true, first, if_pos rfl, nofun, fun _ => ?_⟩
        exact List.mem_append_right _ (List.mem_singleton_self _)
      · exact ⟨kept, closed, first, (if_neg (Ne.symm same)).trans buffer, all, closing⟩
  · exact before

end Lined

theorem Step.visitsAll_append (first second : List Step) (world : World) :
    visitsAll (first ++ second) world
      = visitsAll first world ++ visitsAll second (performAll first world).2 := by
  induction first generalizing world with
  | nil => rfl
  | cons step steps hypothesis =>
      rw [List.cons_append, visitsAll, visitsAll, hypothesis, List.append_assoc]
      rfl

theorem Step.isLeaf_of_mem_visits {step : Step} {world : World} {visit : Visit}
    (member : visit ∈ step.visits world) : visit.leaf.isLeaf = true := by
  rw [visits] at member
  split at member
  · next sink record found _ =>
      exact Sink.forall_visits (fun visit => visit.leaf.isLeaf = true)
        (fun leaf is_leaf _ => is_leaf) sink found visit member
  · cases member

theorem Step.closes_of_visits {step : Step} {world : World} {visit : Visit}
    (member : visit ∈ step.visits world) : step.closes = false := by
  cases step with
  | closeBuffer label => cases member
  | _ => rfl

/-- One step keeps the lines. -/
theorem Lined.step {label : Label} {initial : Bytes} {start found : World} {done : List Step}
    {entries : List Bytes} (lined : Lined label initial start done entries found) (step : Step) :
    Lined label initial start (done ++ [step])
      (entries ++ Visit.entriesTo label (step.visits found)) (step.perform.run.run found).2 := by
  cases closing : step.closes with
  | false =>
      exact (lined.later_step step).takes (Sink.takes_linked (Step.linked_visits closing found)
        fun visit => Step.isLeaf_of_mem_visits)
  | true =>
      cases step with
      | closeBuffer target =>
          have closed := lined.close target
          rwa [← List.append_nil entries] at closed
      | _ => cases closing

/-- What a stream sink has written before it flushes is its whole entry. -/
theorem Visit.takes_written {label target : Label} {visit : Visit} {logger : LoggerName}
    {entry : Bytes} (stream : visit.leaf = .stream target logger)
    (encoded : visit.record.encode = .ok entry) :
    World.Takes label ((visit.entryTo? label).toList.map Bytes.line) visit.before
      ((write target (entry ++ [lineFeed])).run.run visit.before).2 := by
  rw [entryTo?, stream]
  dsimp only
  rw [encoded]
  by_cases same : target = label
  · subst same
    rw [if_pos rfl]
    exact takes_write _ visit.before
  · rw [if_neg same]
    exact takes_write_of_ne same _ visit.before

section Runs

variable {label : Label} {initial : Bytes} {start : World}
  (buffer : start.destination label = .buffer initial false)

include buffer

/-- Between steps a buffer is lined. -/
theorem lined_between (done : List Step) :
    Lined label initial start done (Visit.entriesTo label (Step.visitsAll done start))
      (Step.performAll done start).2 := by
  induction done using List.reverseRecOn with
  | nil =>
      refine ⟨⟨[], false, List.prefix_rfl, ?_, fun _ => rfl, nofun⟩, [], ?_, rfl⟩
      · show start.destination label = _
        rw [buffer, List.map_nil, List.flatten_nil, List.append_nil]
      · exact (List.append_nil _).symm
  | append_singleton done step hypothesis =>
      rw [Step.visitsAll_append, Step.performAll_append, Visit.entriesTo_append]
      have stepped := hypothesis.step step
      rwa [← List.append_nil (step.visits _)] at stepped

/-- Before a visit of a step a buffer is lined. -/
theorem lined_before {done : List Step} {step : Step} {earlier later : List Visit} {visit : Visit}
    (split : step.visits (Step.performAll done start).2 = earlier ++ visit :: later) :
    Lined label initial start done
      (Visit.entriesTo label (Step.visitsAll done start ++ earlier)) visit.before := by
  have inside : ∀ other ∈ earlier ++ [visit],
      other ∈ step.visits (Step.performAll done start).2 := by
    intro other member
    rw [split, ← List.singleton_append, ← List.append_assoc]
    exact List.mem_append_left _ member
  have closing := Step.closes_of_visits
    (inside visit (List.mem_append_right _ (List.mem_singleton_self _)))
  have linked := Step.linked_visits closing (Step.performAll done start).2
  rw [split] at linked
  rw [Visit.entriesTo_append]
  exact (lined_between buffer done).takes (Sink.takes_linked linked.split.1 fun other member =>
    Step.isLeaf_of_mem_visits (inside other (List.mem_append_left _ member)))

/-- At every moment of a run a buffer is lined. -/
theorem lined_moment {done : List Step} {visits : List Visit} {now : World}
    (moment : Moment start done visits now) :
    Lined label initial start done (Visit.entriesTo label visits) now := by
  cases moment with
  | between => exact lined_between buffer done
  | before split => exact lined_before buffer split
  | written split stream encoded =>
      have lined := (lined_before buffer split).takes (Visit.takes_written stream encoded)
      rwa [← List.append_assoc, Visit.entriesTo_concat]
  | @after step earlier later visit split =>
      have leaf : visit.leaf.isLeaf = true := Step.isLeaf_of_mem_visits (by
        rw [split]
        exact List.mem_append_right _ (List.mem_cons_self ..))
      have lined := (lined_before buffer split).takes (Sink.takes_visit leaf)
      rwa [← List.append_assoc, Visit.entriesTo_concat]

end Runs

/-- **A buffer holds whole lines, and exactly those that it was to get.**  At every
moment of a run its content is the initial one followed by a line for each entry
of the visits so far, in their order, unless a step has closed it; then the lines
are the first ones, and none is added any more.  What has been attempted to write
to it is in every case a line for each entry.  No entry holds a control, and so
the content falls into the initial lines and the entries. -/
theorem Moment.whole_lines {label : Label} {initial : Bytes} {start now : World} {done : List Step}
    {visits : List Visit} (buffer : start.destination label = .buffer initial false)
    (whole : initial.Whole) (moment : Moment start done visits now) :
    ∃ kept closed,
      now.destination label = .buffer (initial ++ (kept.map Bytes.line).flatten) closed
      ∧ kept <+: Visit.entriesTo label visits
      ∧ (closed = false → kept = Visit.entriesTo label visits)
      ∧ (closed = true → Step.closeBuffer label ∈ done)
      ∧ (∃ events, now.trace = start.trace ++ events
        ∧ events.filterMap (Event.writeTo? label)
          = (Visit.entriesTo label visits).map Bytes.line)
      ∧ (∀ entry ∈ Visit.entriesTo label visits, ∀ byte ∈ entry, 0x20 ≤ byte.toNat)
      ∧ ((kept.map Bytes.line).flatten).splitOn lineFeed = kept ++ [[]]
      ∧ (initial ++ (kept.map Bytes.line).flatten).splitOn lineFeed
        = (initial.splitOn lineFeed).dropLast ++ kept ++ [[]] := by
  obtain ⟨⟨kept, closed, first, content, all, closing⟩, trace⟩ := lined_moment buffer moment
  have printed : ∀ entry ∈ Visit.entriesTo label visits, ∀ byte ∈ entry, 0x20 ≤ byte.toNat := by
    intro entry member
    obtain ⟨visit, _, encoded⟩ := Visit.encode_of_mem_entriesTo member
    exact Record.printed_of_mem_encode encoded
  have split := Bytes.splitOn_lines fun entry member => printed entry (first.subset member)
  refine ⟨kept, closed, content, first, all, closing, trace, printed, split, ?_⟩
  rw [Bytes.splitOn_append_of_whole whole, split, List.append_assoc]

/-- A world with a buffer that holds one line. -/
def World.withLine : World :=
  (World.initial ⟨[], [], []⟩ []).setDestination (.given "buffer") (.buffer [0x7D, 0x0A] false)

/-- A report to two stream sinks that share a buffer, with a member between them that
fails. -/
def Step.shared : Step :=
  .report
    (.fanout
      [.stream (.given "buffer") LoggerName.stream, .broken (.given "broken") .noCommand,
        .stream (.given "buffer") LoggerName.stream] LoggerName.fanout)
    (.plain .null)

/-- The shared buffer gets two lines. -/
theorem Moment.whole_lines_shared :
    World.withLine.destination (.given "buffer") = .buffer [0x7D, 0x0A] false
      ∧ Bytes.Whole [0x7D, 0x0A]
      ∧ Moment World.withLine [Step.shared] (Step.visitsAll [Step.shared] World.withLine)
        (Step.performAll [Step.shared] World.withLine).2
      ∧ (Step.performAll [Step.shared] World.withLine).2.destination (.given "buffer")
        = .buffer (Text.bytes "\x7d\nnull\nnull\n") false := by
  have buffer : World.withLine.destination (.given "buffer") = .buffer [0x7D, 0x0A] false := rfl
  have whole : Bytes.Whole [0x7D, 0x0A] := .inr rfl
  have moment : Moment World.withLine [Step.shared] _ _ := .between [Step.shared]
  refine ⟨buffer, whole, moment, ?_⟩
  obtain ⟨kept, closed, content, _, all, closing, _⟩ := Moment.whole_lines buffer whole moment
  have is_open : closed = false := by
    cases closed with
    | false => rfl
    | true => cases List.mem_singleton.mp (closing rfl)
  rw [content, all is_open, is_open]
  rfl

end Heartbeat
