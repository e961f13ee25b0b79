import Heartbeat.Proofs.Delivery.Visits

/-!
# Worlds that deliveries cannot tell apart

Two worlds may differ in something that no sink looks at, such as the entries of
the log.  A relation between worlds is a congruence when related worlds agree in
what sinks look at and stay related under what sinks do.  From related worlds a
leaf then comes to the same outcome and to related worlds (`Sink.coupled_leaf`),
whatever the relation is.  Clients may be left out of this, and then it holds of the
leaves that work on the other ones.

A tree adds nothing but entries in the log, so what holds of leaves holds of trees
(`Sink.coupled_report`), and from there of trackers and of steps of a run
(`Step.coupled_perform`).  `Coupled relation` says it of two deliveries that need not be
the same one.
-/

namespace Heartbeat

set_option autoImplicit false

/-- Related worlds agree in what deliveries look at, and what deliveries do keeps
them related.  Entries of the log are not noted as other events are, but offered to it.  Of
the clients it is said only for those that are given. -/
structure World.Congruence (clients : Label → Prop) (relation : World → World → Prop) : Prop where
  destination : ∀ {left right}, relation left right → left.destination = right.destination
  client : ∀ {left right label}, clients label → relation left right →
    left.client label = right.client label
  files : ∀ {left right}, relation left right → left.files = right.files
  troubles : ∀ {left right}, relation left right → left.troubles = right.troubles
  note : ∀ {left right event}, event.isLog = false → relation left right →
    relation (left.note event) (right.note event)
  logged : ∀ {left right} entry, relation left right →
    relation (left.logged entry) (right.logged entry)
  setDestination : ∀ {left right} label state, relation left right →
    relation (left.setDestination label state) (right.setDestination label state)
  setClient : ∀ {left right label} state, clients label → relation left right →
    relation (left.setClient label state) (right.setClient label state)
  setFiles : ∀ {left right} files, relation left right →
    relation { left with files } { right with files }
  print : ∀ {left right} data, relation left right →
    relation { left with output := left.output ++ data }
      { right with output := right.output ++ data }

namespace Delivery

variable {result other : Type}

/-- From related worlds two deliveries come to the same outcome and to related
worlds. -/
def Coupled (relation : World → World → Prop) (left right : Delivery result) : Prop :=
  ∀ first second, relation first second →
    (left.run.run first).1 = (right.run.run second).1
      ∧ relation (left.run.run first).2 (right.run.run second).2

namespace Coupled

variable {relation : World → World → Prop}

/-! ## Composition -/

theorem pure (value : result) : Coupled relation (pure value) (pure value) :=
  fun _ _ related => ⟨rfl, related⟩

theorem throw (failure : Failure) :
    Coupled relation (throw failure : Delivery result) (throw failure) :=
  fun _ _ related => ⟨rfl, related⟩

theorem bind {left right : Delivery result} {next after : result → Delivery other}
    (start : Coupled relation left right)
    (goes : ∀ value, Coupled relation (next value) (after value)) :
    Coupled relation (left >>= next) (right >>= after) := by
  intro first second related
  have started := start first second related
  rw [run_bind, run_bind]
  generalize left.run.run first = done at started ⊢
  generalize right.run.run second = ended at started ⊢
  obtain ⟨outcome, later⟩ := done
  obtain ⟨same, latter⟩ := ended
  obtain ⟨rfl, related⟩ := started
  cases outcome with
  | error failure => exact ⟨rfl, related⟩
  | ok value => exact goes value later latter related

theorem get_bind {next after : World → Delivery result}
    (goes : ∀ first second, relation first second → Coupled relation (next first) (after second)) :
    Coupled relation ((get : Delivery World) >>= next) ((get : Delivery World) >>= after) :=
  fun first second related => goes first second related first second related

theorem modify {change alter : World → World}
    (changes : ∀ first second, relation first second → relation (change first) (alter second)) :
    Coupled relation (modify change) (modify alter) :=
  fun first second related => ⟨rfl, changes first second related⟩

theorem ofExcept (outcome : Except Failure result) :
    Coupled relation (ofExcept outcome : Delivery result) (ofExcept outcome) := by
  cases outcome with
  | error failure => exact .throw failure
  | ok value => exact .pure value

theorem failIf (failure : Option Failure) : Coupled relation (failIf failure) (failIf failure) := by
  cases failure with
  | none => exact .pure ()
  | some failure => exact .throw failure

theorem tryCatch {left right : Delivery result} {handler treatment : Failure → Delivery result}
    (start : Coupled relation left right)
    (handles : ∀ failure, Coupled relation (handler failure) (treatment failure)) :
    Coupled relation (tryCatch left handler) (tryCatch right treatment) := by
  intro first second related
  have started := start first second related
  rw [run_tryCatch, run_tryCatch]
  generalize left.run.run first = done at started ⊢
  generalize right.run.run second = ended at started ⊢
  obtain ⟨outcome, later⟩ := done
  obtain ⟨same, latter⟩ := ended
  obtain ⟨rfl, related⟩ := started
  cases outcome with
  | error failure => exact handles failure later latter related
  | ok value => exact ⟨rfl, related⟩

/-- A first part that is done under a condition only. -/
theorem ite_bind {condition : Prop} [Decidable condition] {left right : Delivery other}
    {next after : Delivery result} (start : Coupled relation left right)
    (goes : Coupled relation next after) :
    Coupled relation (if condition then left >>= fun _ => next else next)
      (if condition then right >>= fun _ => after else after) := by
  split
  · exact .bind start fun _ => goes
  · exact goes

theorem absorbing {left right : Delivery result} {handler treatment : Failure → Delivery result}
    (start : Coupled relation left right)
    (handles : ∀ failure, Coupled relation (handler failure) (treatment failure)) :
    Coupled relation (absorbing left handler) (absorbing right treatment) := by
  refine start.tryCatch fun failure => ?_
  split
  · exact handles failure
  · exact .throw failure

end Coupled

/-! ## Destinations and collectors -/

section Leaves

variable {clients : Label → Prop} {relation : World → World → Prop}
  (congruence : World.Congruence clients relation)

include congruence

theorem coupled_note {event : Event} (unlogged : event.isLog = false) :
    Coupled relation (note event) (note event) :=
  .modify fun _ _ => congruence.note unlogged

theorem coupled_log (logger : LoggerName) (event : LogEvent) :
    Coupled relation (log logger event) (log logger event) :=
  .modify fun _ _ => congruence.logged ⟨logger, event⟩

/-- A failure that the troubles name comes or does not come in both worlds. -/
theorem coupled_failOn (operation : Troubles → Option Failure) :
    Coupled relation (failOn operation) (failOn operation) := by
  refine .get_bind fun first second related => ?_
  rw [congruence.troubles related]
  exact .failIf _

theorem coupled_write (label : Label) (data : Bytes) :
    Coupled relation (write label data) (write label data) := by
  refine .get_bind fun first second related => ?_
  rw [congruence.destination related]
  cases second.destination label with
  | buffer content closed =>
      refine .bind (coupled_note congruence rfl) fun _ => ?_
      split
      · exact .throw _
      · exact .modify fun _ _ => congruence.setDestination _ _
  | writer failures flush writes =>
      refine .bind (coupled_note congruence rfl) fun _ => ?_
      refine .bind (.modify fun _ _ => congruence.setDestination _ _) fun _ => ?_
      exact .failIf _
  | file handle =>
      refine .bind (coupled_failOn congruence _) fun _ => ?_
      refine .get_bind fun first second related => ?_
      rw [congruence.files related]
      refine .bind (.modify fun _ _ related => ?_) fun _ => .ofExcept _
      exact congruence.setFiles _ (congruence.setDestination _ _ related)
  | console =>
      refine .bind (coupled_failOn congruence _) fun _ => ?_
      exact .modify fun _ _ => congruence.print data

theorem coupled_use (offer : Offer) {event : Event} (unlogged : event.isLog = false) :
    Coupled relation (use offer event) (use offer event) := by
  cases offer with
  | missing => exact .pure ()
  | inert => exact .pure ()
  | working => exact coupled_note congruence unlogged
  | failing failure => exact .bind (coupled_note congruence unlogged) fun _ => .throw failure
  | unreadable failure =>
      rw [use]
      split
      · exact .pure ()
      · exact .throw failure

theorem coupled_flush (label : Label) : Coupled relation (flush label) (flush label) := by
  refine .get_bind fun first second related => ?_
  rw [congruence.destination related]
  cases second.destination label with
  | buffer content closed => exact coupled_note congruence rfl
  | writer failures offer writes => exact coupled_use congruence offer rfl
  | file handle =>
      refine .bind (coupled_failOn congruence _) fun _ => ?_
      refine .get_bind fun first second related => ?_
      rw [congruence.files related]
      refine .bind (.modify fun _ _ related => ?_) fun _ => .ofExcept _
      exact congruence.setFiles _ (congruence.setDestination _ _ related)
  | console => exact coupled_failOn congruence _

theorem coupled_send {label : Label} (given : clients label) (method url : Text)
    (body : Option Bytes) (contentType : Option Text) (timeout : Option Value) :
    Coupled relation (send label method url body contentType timeout)
      (send label method url body contentType timeout) := by
  refine .get_bind fun first second related => ?_
  rw [congruence.client given related]
  cases second.client label with
  | stub failures close posts => exact .pure _
  | session default network sends =>
      refine .bind (coupled_note congruence rfl) fun _ => ?_
      refine .bind (.modify fun _ _ => congruence.setClient _ given) fun _ => ?_
      exact .bind (.failIf _) fun _ => .pure _

theorem coupled_post {label : Label} (given : clients label) (url : Text) (body : Bytes) :
    Coupled relation (post label url body) (post label url body) := by
  refine .get_bind fun first second related => ?_
  rw [congruence.client given related]
  cases second.client label with
  | stub failures close posts =>
      refine .bind (coupled_note congruence rfl) fun _ => ?_
      refine .bind (.modify fun _ _ => congruence.setClient _ given) fun _ => ?_
      refine .bind (.failIf _) fun _ => ?_
      cases close with
      | none => exact .pure _
      | some offer => exact .pure _
  | session default network sends => exact coupled_send congruence given _ _ _ _ _

theorem coupled_closeOffer (response : Response) :
    Coupled relation (closeOffer response) (closeOffer response) := by
  cases response with
  | nothing => exact .pure none
  | network status =>
      refine .get_bind fun first second related => ?_
      rw [congruence.troubles related]
      exact .pure _
  | stub label offer =>
      cases offer with
      | unreadable failure =>
          rw [closeOffer]
          split
          · exact .pure none
          · exact .throw failure
      | _ => exact .pure _

theorem coupled_noteClose (label : Option Label) :
    Coupled relation (noteClose label) (noteClose label) := by
  cases label with
  | none => exact .pure ()
  | some label => exact coupled_note congruence rfl

theorem coupled_release (logger : LoggerName) (response : Response) :
    Coupled relation (release logger response) (release logger response) := by
  refine .bind (coupled_closeOffer congruence response) fun found => ?_
  cases found with
  | none => exact .pure ()
  | some found =>
      refine .absorbing (.bind (coupled_noteClose congruence _) fun _ => .failIf _) fun failure => ?_
      exact coupled_log congruence logger _

end Leaves

end Delivery

/-! ## Sinks -/

namespace Sink

open Delivery

variable {clients : Label → Prop} {relation : World → World → Prop}
  (congruence : World.Congruence clients relation)

section Leaves

include congruence

theorem coupled_withEntry (logger : LoggerName) (record : Record)
    {deliver : Bytes → Delivery Unit}
    (delivers : ∀ entry, Coupled relation (deliver entry) (deliver entry)) :
    Coupled relation (withEntry logger record deliver) (withEntry logger record deliver) := by
  rw [withEntry]
  split
  · exact delivers _
  · split
    · exact coupled_log congruence logger _
    · exact .throw _

theorem coupled_reportToStream (destination : Label) (logger : LoggerName) (record : Record) :
    Coupled relation (reportToStream destination logger record)
      (reportToStream destination logger record) := by
  refine coupled_withEntry congruence logger record fun entry => ?_
  refine .absorbing (.bind (coupled_write congruence _ _) fun _ => ?_) fun failure => ?_
  · exact coupled_flush congruence destination
  · exact coupled_log congruence logger _

theorem coupled_reportToCollector {client : Label} (given : clients client) (logger : LoggerName)
    (record : Record) :
    Coupled relation (reportToCollector client logger record)
      (reportToCollector client logger record) := by
  refine coupled_withEntry congruence logger record fun entry => ?_
  refine .bind (.absorbing ?_ fun failure => ?_) fun response => ?_
  · exact .bind (coupled_post congruence given _ _) fun _ => .pure _
  · exact .bind (coupled_log congruence logger _) fun _ => .pure _
  · cases response with
    | none => exact .pure ()
    | some response => exact coupled_release congruence logger response

/-- **Between worlds that it cannot tell apart a leaf makes no difference.** -/
theorem coupled_leaf {leaf : Sink} (isLeaf : leaf.isLeaf = true)
    (given : ∀ client logger, leaf = .http client logger → clients client) (record : Record) :
    Coupled relation (leaf.report record) (leaf.report record) := by
  cases leaf with
  | stream destination logger => exact coupled_reportToStream congruence destination logger record
  | http client logger =>
      exact coupled_reportToCollector congruence (given client logger rfl) logger record
  | fanout members logger => cases isLeaf
  | recorder label => exact coupled_note congruence rfl
  | broken label failure => exact .bind (coupled_note congruence rfl) fun _ => .throw failure
  | empty => exact .throw _

end Leaves

/-! ## Trees -/

/-- Where no leaf makes a difference, and what is logged makes none, no tree does. -/
theorem coupled_tree {record : Record}
    (logs : ∀ logger event, Coupled relation (log logger event) (log logger event))
    (each : ∀ leaf : Sink, leaf.isLeaf = true →
      Coupled relation (leaf.report record) (leaf.report record)) (sink : Sink) :
    Coupled relation (sink.report record) (sink.report record) := by
  induction sink using treeInduction with
  | leaf sink leaf => exact each sink leaf
  | fanout members logger hypothesis =>
      rw [report]
      generalize 0 = index
      induction members generalizing index with
      | nil => exact .pure ()
      | cons member members further =>
          have first := hypothesis member (List.mem_cons_self ..)
          have others := further fun other inside => hypothesis other (List.mem_cons_of_mem _ inside)
          exact .bind (.absorbing first fun failure => logs logger _) fun _ => others (index + 1)

/-- **Between worlds that it cannot tell apart a sink makes no difference**, if that takes in
all clients. -/
theorem coupled_report (complete : World.Congruence (fun _ => True) relation) (sink : Sink)
    (record : Record) : Coupled relation (sink.report record) (sink.report record) :=
  coupled_tree (coupled_log complete)
    (fun _ isLeaf => coupled_leaf complete isLeaf (fun _ _ _ => trivial) record) sink

end Sink

/-! ## Trackers and steps -/

section Runs

open Delivery

variable {relation : World → World → Prop} (complete : World.Congruence (fun _ => True) relation)

include complete

namespace Tracker

theorem coupled_run (runner : Runner) (line : List Value) :
    Coupled relation (run runner line) (run runner line) := by
  rw [run]
  refine .ite_bind (coupled_note complete rfl) (.get_bind fun first second related => ?_)
  rw [complete.files related]
  generalize runner.start second.files line = started
  obtain ⟨outcome, files⟩ := started
  refine .bind (.modify fun _ _ => complete.setFiles files) fun _ => ?_
  cases outcome with
  | exited code => exact .pure code
  | failed failure => exact .throw failure

theorem coupled_recovered (tracker : Tracker) (line : Value) (failure : Failure) :
    Coupled relation (tracker.recovered line failure) (tracker.recovered line failure) := by
  rw [recovered]
  split
  · exact .pure _
  · split
    · refine .bind (.ofExcept _) fun name => .bind (.ofExcept _) fun words => ?_
      exact .bind (coupled_log complete _ _) fun _ => .pure _
    · exact .throw failure

theorem coupled_code (tracker : Tracker) (runner : Runner) (line : Value) :
    Coupled relation (tracker.code runner line) (tracker.code runner line) := by
  refine .tryCatch (.bind (.ofExcept _) fun arguments => ?_) fun failure => ?_
  · exact .bind (coupled_run complete runner arguments) fun code => .ofExcept _
  · exact coupled_recovered complete tracker line failure

theorem coupled_report (tracker : Tracker) (command status : Value) :
    Coupled relation (tracker.report command status) (tracker.report command status) := by
  refine .bind (Sink.coupled_report complete tracker.sink _) fun _ => ?_
  cases status with
  | status outcome => exact .bind (coupled_log complete _ _) fun _ => .pure _
  | _ => exact .bind (.throw _) fun _ => .pure _

theorem coupled_track (tracker : Tracker) (runner : Runner) (line : Value) :
    Coupled relation (tracker.track runner line) (tracker.track runner line) := by
  refine .ite_bind (.throw _) (.bind (coupled_code complete tracker runner line) fun code => ?_)
  refine .bind (.ofExcept _) fun name => .bind (.ofExcept _) fun outcome => ?_
  exact .bind (coupled_report complete tracker name (.status outcome)) fun _ => .pure code

end Tracker

/-- Closing a buffer changes the same in both worlds. -/
theorem Delivery.coupled_closeBuffer (label : Label) :
    Coupled relation (closeBuffer label) (closeBuffer label) := by
  refine .get_bind fun first second related => ?_
  rw [complete.destination related]
  cases second.destination label with
  | buffer content closed => exact .modify fun _ _ => complete.setDestination _ _
  | _ => exact .pure ()

/-- **Between worlds that it cannot tell apart a step makes no difference**, unless it is
there to change a level. -/
theorem Step.coupled_perform {step : Step} (apart : ∀ level, step ≠ .setLevel level) :
    Coupled relation step.perform step.perform := by
  cases step with
  | report sink record => exact .bind (Sink.coupled_report complete sink record) fun _ => .pure _
  | track tracker runner line =>
      exact .bind (Tracker.coupled_track complete tracker runner line) fun _ => .pure _
  | announce tracker command status =>
      exact .bind (Tracker.coupled_report complete tracker command status) fun _ => .pure _
  | closeBuffer label => exact .bind (coupled_closeBuffer complete label) fun _ => .pure _
  | setLevel level => exact absurd rfl (apart level)

end Runs

end Heartbeat
