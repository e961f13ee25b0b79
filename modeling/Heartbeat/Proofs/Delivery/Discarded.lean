import Heartbeat.Proofs.Delivery.Agreement

/-!
# Discarded failures

No failure is lost without a trace.  A leaf that absorbs a failure logs it to its own
logger, as the failure of encoding, writing, posting or closing that it is
(`Visit.Absorbs`).  A failure that gets out of a leaf is logged by the fan-out directly
around it, with the place of the leaf among the members (`Place.Owes`).

If all loggers of a tree listen and nothing asks to stop, then the entries that a report
adds to the log are these, one for each leaf that fails and none for the others, in the
order of the leaves (`Sink.entries_of_report`).
-/

namespace Heartbeat

set_option autoImplicit false

open Delivery

/-! ## Places -/

/-- Where a leaf stands in a tree: the logger of the fan-out directly around it, and its
index among the members of that fan-out. -/
structure Place where
  leaf : Sink
  logger : LoggerName
  index : Nat

namespace Sink

/-- The logger of a leaf that has one. -/
def ownLogger? : Sink → Option LoggerName
  | .stream _ logger => some logger
  | .http _ logger => some logger
  | _ => none

mutual

/-- All loggers in a tree. -/
def loggers : Sink → List LoggerName
  | .fanout members logger => logger :: loggersOf members
  | leaf => leaf.ownLogger?.toList

/-- All loggers in trees. -/
def loggersOf : List Sink → List LoggerName
  | [] => []
  | member :: members => loggers member ++ loggersOf members

end

mutual

/-- The places of the leaves in a member of a fan-out, from left to right. -/
def placesIn (logger : LoggerName) (index : Nat) : Sink → List Place
  | .fanout members inner => placesAmong inner 0 members
  | leaf => [⟨leaf, logger, index⟩]

/-- The places of the leaves in members of a fan-out, the first having the given index. -/
def placesAmong (logger : LoggerName) (index : Nat) : List Sink → List Place
  | [] => []
  | member :: members => placesIn logger index member ++ placesAmong logger (index + 1) members

end

theorem placesIn_of_isLeaf {sink : Sink} (leaf : sink.isLeaf = true) (logger : LoggerName)
    (index : Nat) : sink.placesIn logger index = [⟨sink, logger, index⟩] := by
  cases sink with
  | fanout members logger => cases leaf
  | _ => rfl

theorem map_leaf_placesAmong {members : List Sink}
    (each : ∀ member ∈ members, ∀ logger index,
      (member.placesIn logger index).map Place.leaf = member.leaves)
    (logger : LoggerName) (index : Nat) :
    (placesAmong logger index members).map Place.leaf = leavesOf members := by
  induction members generalizing index with
  | nil => rfl
  | cons member members hypothesis =>
      rw [placesAmong, leavesOf, List.map_append, each member (List.mem_cons_self ..),
        hypothesis fun other inside => each other (List.mem_cons_of_mem _ inside)]

/-- Every leaf of a tree has its place, in the order of the leaves. -/
theorem map_leaf_placesIn (sink : Sink) (logger : LoggerName) (index : Nat) :
    (sink.placesIn logger index).map Place.leaf = sink.leaves := by
  induction sink using treeInduction generalizing logger index with
  | leaf sink leaf =>
      rw [placesIn_of_isLeaf leaf, leaves_of_isLeaf leaf]
      rfl
  | fanout members inner each => exact map_leaf_placesAmong each inner 0

end Sink

/-! ## Entries owed -/

/-- A visit absorbs a failure, and this is the entry that tells of it. -/
inductive Visit.Absorbs : Visit → LogEntry → Prop where
  | encoding {leaf : Sink} {logger : LoggerName} {record : Record} {before : World}
      {failure : Failure} (own : leaf.ownLogger? = some logger)
      (raised : record.encode = .error failure) (known : failure.isEncoding = true) :
      Absorbs ⟨leaf, record, before⟩ ⟨logger, .encodeFailed failure⟩
  | writing {destination : Label} {logger : LoggerName} {record : Record} {before : World}
      {entry : Bytes} {failure : Failure} (encoded : record.encode = .ok entry)
      (raised : ((write destination (entry ++ [lineFeed])).run.run before).1 = .error failure) :
      Absorbs ⟨.stream destination logger, record, before⟩ ⟨logger, .writeFailed failure⟩
  | flushing {destination : Label} {logger : LoggerName} {record : Record} {before : World}
      {entry : Bytes} {written : World} {failure : Failure} (encoded : record.encode = .ok entry)
      (wrote : (write destination (entry ++ [lineFeed])).run.run before = (.ok (), written))
      (raised : ((flush destination).run.run written).1 = .error failure) :
      Absorbs ⟨.stream destination logger, record, before⟩ ⟨logger, .writeFailed failure⟩
  | posting {client : Label} {logger : LoggerName} {record : Record} {before : World}
      {entry : Bytes} {failure : Failure} (encoded : record.encode = .ok entry)
      (raised : ((post client usageEndpoint entry).run.run before).1 = .error failure) :
      Absorbs ⟨.http client logger, record, before⟩ ⟨logger, .postFailed usageEndpoint failure⟩
  | closing {client : Label} {logger : LoggerName} {record : Record} {before : World}
      {entry : Bytes} {response : Response} {answered : World} {label : Option Label}
      {failure : Failure} (encoded : record.encode = .ok entry)
      (posted : (post client usageEndpoint entry).run.run before = (.ok response, answered))
      (raises : ((closeOffer response).run.run answered).1 = .ok (some (label, some failure))) :
      Absorbs ⟨.http client logger, record, before⟩ ⟨logger, .responseCloseFailed failure⟩

/-- A visit of the leaf at a place owes the log an entry: for a failure that it absorbs, or
for one that gets out of it and is left to the fan-out directly around it. -/
inductive Place.Owes (place : Place) (visit : Visit) : LogEntry → Prop where
  | absorbed {entry : LogEntry} (absorbs : visit.Absorbs entry) : Owes place visit entry
  | escaped {failure : Failure} (escapes : visit.outcome = .error failure) :
      Owes place visit
        ⟨place.logger, .memberFailed place.index place.leaf.className failure⟩

/-- Entries settle what the visits of leaves owe, one after the other: one entry for a visit
that owes one, and none for a visit that owes none. -/
inductive Settled : List Place → List Visit → List LogEntry → Prop where
  | nil : Settled [] [] []
  | cons {place : Place} {visit : Visit} {places : List Place} {visits : List Visit}
      {owed : Option LogEntry} {entries : List LogEntry} (same : visit.leaf = place.leaf)
      (owes : ∀ entry, place.Owes visit entry ↔ owed = some entry)
      (rest : Settled places visits entries) :
      Settled (place :: places) (visit :: visits) (owed.toList ++ entries)

theorem Settled.single {place : Place} {visit : Visit} {owed : Option LogEntry}
    (same : visit.leaf = place.leaf)
    (owes : ∀ entry, place.Owes visit entry ↔ owed = some entry) :
    Settled [place] [visit] owed.toList := by
  simpa using Settled.cons same owes .nil

theorem Settled.append {places others : List Place} {visits further : List Visit}
    {entries added : List LogEntry} (first : Settled places visits entries)
    (second : Settled others further added) :
    Settled (places ++ others) (visits ++ further) (entries ++ added) := by
  induction first with
  | nil => exact second
  | cons same owes _ hypothesis =>
      rw [List.append_assoc]
      exact .cons same owes hypothesis

namespace Place

variable {place : Place} {visit : Visit}

/-- Where no failure gets out there is nothing to log but what was absorbed. -/
theorem owes_of_returned (returned : visit.outcome = .ok ()) (entry : LogEntry) :
    place.Owes visit entry ↔ visit.Absorbs entry := by
  constructor
  · intro owes
    cases owes with
    | absorbed absorbs => exact absorbs
    | escaped escapes => cases returned.symm.trans escapes
  · exact .absorbed

theorem owes_of_escaped {failure : Failure} (escapes : visit.outcome = .error failure)
    (silent : ∀ entry, ¬ visit.Absorbs entry) (entry : LogEntry) :
    place.Owes visit entry
      ↔ some ⟨place.logger, .memberFailed place.index place.leaf.className failure⟩
        = some entry := by
  constructor
  · intro owes
    cases owes with
    | absorbed absorbs => exact absurd absorbs (silent entry)
    | escaped also =>
        cases escapes.symm.trans also
        rfl
  · rintro ⟨⟩
    exact .escaped escapes

end Place

namespace Visit

/-- A visit absorbs one failure at most. -/
theorem Absorbs.unique {visit : Visit} {first second : LogEntry} (absorbs : visit.Absorbs first)
    (also : visit.Absorbs second) : first = second := by
  cases absorbs with
  | encoding own raised known => cases also <;> simp_all [Sink.ownLogger?]
  | writing encoded raised => cases also <;> simp_all
  | posting encoded raised => cases also <;> simp_all
  | flushing encoded wrote raised =>
      cases also with
      | flushing also_encoded also_wrote also_raised =>
          cases encoded.symm.trans also_encoded
          cases wrote.symm.trans also_wrote
          cases raised.symm.trans also_raised
          rfl
      | _ => simp_all
  | closing encoded posted raises =>
      cases also with
      | closing also_encoded also_posted also_raises =>
          cases encoded.symm.trans also_encoded
          cases posted.symm.trans also_posted
          cases raises.symm.trans also_raises
          rfl
      | _ => simp_all

end Visit

/-! ## What is told -/

/-- An event as an entry of the log, if it is one. -/
def Event.entry? : Event → Option LogEntry
  | .log entry => some entry
  | _ => none

namespace World

/-- Between two worlds these entries were added to the log, and the levels are the same. -/
structure Told (entries : List LogEntry) (world later : World) : Prop where
  levels : later.levels = world.levels
  trace : ∃ events, later.trace = world.trace ++ events ∧ events.filterMap Event.entry? = entries

namespace Told

variable {entries others : List LogEntry} {world next later : World}

theorem of_untraced (levels : later.levels = world.levels) (trace : later.trace = world.trace) :
    Told [] world later :=
  ⟨levels, [], by rw [trace, List.append_nil], rfl⟩

theorem of_noted {event : Event} (levels : later.levels = world.levels)
    (trace : later.trace = world.trace ++ [event]) (silent : event.entry? = none) :
    Told [] world later :=
  ⟨levels, [event], trace, by rw [List.filterMap_cons_none silent, List.filterMap_nil]⟩

theorem append (first : Told entries world next) (second : Told others next later) :
    Told (entries ++ others) world later := by
  obtain ⟨events, trace, tells⟩ := first.trace
  obtain ⟨further, continued, adds⟩ := second.trace
  refine ⟨second.levels.trans first.levels, events ++ further, ?_, ?_⟩
  · rw [continued, trace, List.append_assoc]
  · rw [List.filterMap_append, tells, adds]

/-- An entry that its logger lets through is added. -/
theorem logged (told : Told entries world later) {entry : LogEntry}
    (heard : world.levels.lets entry.logger entry.event.severity = true) :
    Told (entries ++ [entry]) world (later.logged entry) := by
  apply told.append
  rw [World.logged, told.levels, if_pos heard]
  exact ⟨rfl, [.log entry], rfl, rfl⟩

end Told

instance : IsPreorder World (Told []) where
  refl _ := .of_untraced rfl rfl
  trans _ _ _ first second := first.append second

end World

namespace Delivery

theorem told_write (label : Label) (data : Bytes) : Moves (World.Told []) (write label data) := by
  intro world
  rw [run_write]
  cases world.destination label with
  | buffer content closed => cases closed <;> exact .of_noted rfl rfl rfl
  | writer failures offer writes => exact .of_noted rfl rfl rfl
  | file handle => cases world.troubles.fileWrite <;> exact .of_untraced rfl rfl
  | console => cases world.troubles.consoleWrite <;> exact .of_untraced rfl rfl

theorem told_flush (label : Label) : Moves (World.Told []) (flush label) := by
  intro world
  rw [run_flush]
  cases world.destination label with
  | buffer content closed => exact .of_noted rfl rfl rfl
  | writer failures offer writes =>
      dsimp only
      rw [run_use]
      cases offer with
      | working => exact .of_noted rfl rfl rfl
      | failing failure => exact .of_noted rfl rfl rfl
      | _ => exact .of_untraced rfl rfl
  | file handle => cases world.troubles.fileFlush <;> exact .of_untraced rfl rfl
  | console => cases world.troubles.consoleFlush <;> exact .of_untraced rfl rfl

theorem told_post (label : Label) (url : Text) (body : Bytes) :
    Moves (World.Told []) (post label url body) := by
  intro world
  rw [run_post]
  cases world.client label with
  | stub failures close posts => exact .of_noted rfl rfl rfl
  | session timeout network sends => exact .of_noted rfl rfl rfl

theorem told_noteClose (label : Option Label) : Moves (World.Told []) (noteClose label) := by
  cases label with
  | none => exact .pure ()
  | some label => exact fun world => .of_noted rfl rfl rfl

/-- Looking for the operation that closes an answer leaves the world as it is. -/
theorem run_closeOffer (response : Response) (world : World) :
    ((closeOffer response).run.run world).2 = world := by
  cases response with
  | nothing => rfl
  | network status => rfl
  | stub client offer =>
      cases offer with
      | unreadable failure =>
          rw [closeOffer]
          split <;> rfl
      | _ => rfl

end Delivery

/-! ## Visits -/

namespace Visit

/-- A visit adds to the log what it absorbs, if it absorbs something, and nothing else; and
if it does then no failure gets out of it. -/
def Discloses (visit : Visit) : Prop :=
  ∃ told : Option LogEntry, World.Told told.toList visit.before visit.after
    ∧ (∀ entry, visit.Absorbs entry ↔ told = some entry)
    ∧ (told.isSome = true → visit.outcome = .ok ())

variable {visit : Visit} {later : World}

theorem discloses_of_absorbs {entry : LogEntry} {quiet : World}
    (ends : (visit.leaf.report visit.record).run.run visit.before = (.ok (), quiet.logged entry))
    (told : World.Told [] visit.before quiet)
    (heard : visit.before.levels.lets entry.logger entry.event.severity = true)
    (absorbs : visit.Absorbs entry) : visit.Discloses := by
  refine ⟨some entry, ?_, ?_, ?_⟩
  · rw [after, ends]
    exact told.logged heard
  · intro other
    rw [Option.some.injEq]
    exact ⟨absorbs.unique, fun same => same ▸ absorbs⟩
  · intro _
    rw [outcome, ends]

theorem discloses_of_not_absorbs (told : World.Told [] visit.before visit.after)
    (silent : ∀ entry, ¬ visit.Absorbs entry) : visit.Discloses :=
  ⟨none, told, fun entry => ⟨fun absorbs => absurd absorbs (silent entry), nofun⟩, nofun⟩

theorem isOrdinary_of_calm (calm : Sink.stops visit.outcome = false) {failure : Failure}
    (ends : (visit.leaf.report visit.record).run.run visit.before = (.error failure, later)) :
    failure.isOrdinary = true := by
  rw [outcome, ends, Sink.stops] at calm
  simpa using calm

/-- A visit that ends with an absorbing delivery discloses what the delivery absorbs, if
that is what the visit absorbs. -/
theorem discloses_absorbing {delivery : Delivery Unit} {logger : LoggerName}
    {event : Failure → LogEvent} {start : World}
    (ends : (visit.leaf.report visit.record).run.run visit.before
      = (absorbing delivery fun failure => log logger (event failure)).run.run start)
    (calm : Sink.stops visit.outcome = false) (told : World.Told [] visit.before start)
    (silent : Moves (World.Told []) delivery)
    (heard : ∀ failure, visit.before.levels.lets logger (event failure).severity = true)
    (raises : ∀ failure, (delivery.run.run start).1 = .error failure →
      visit.Absorbs ⟨logger, event failure⟩)
    (returns : (delivery.run.run start).1 = .ok () → ∀ entry, ¬ visit.Absorbs entry) :
    visit.Discloses := by
  have moved : World.Told [] visit.before (delivery.run.run start).2 := told.append (silent start)
  rw [run_absorbing] at ends
  generalize delivery.run.run start = done at ends moved raises returns
  rcases done with ⟨failure | _, later⟩
  · by_cases ordinary : failure.isOrdinary = true
    · simp only [if_pos ordinary] at ends
      exact discloses_of_absorbs ends moved (heard failure) (raises failure rfl)
    · simp only [if_neg ordinary] at ends
      exact absurd (isOrdinary_of_calm calm ends) ordinary
  · apply discloses_of_not_absorbs _ (returns rfl)
    rwa [after, ends]

end Visit

namespace Sink

variable {record : Record} {world : World} {logger : LoggerName}

/-- A record that cannot be encoded. -/
theorem discloses_encoding {leaf : Sink} {deliver : Bytes → Delivery Unit}
    (own : leaf.ownLogger? = some logger)
    (reports : leaf.report record = withEntry logger record deliver)
    (heard : world.levels.lets logger .debug = true) {failure : Failure}
    (failed : record.encode = .error failure) : Visit.Discloses ⟨leaf, record, world⟩ := by
  have ends := run_withEntry logger record deliver world
  rw [failed, ← reports] at ends
  by_cases known : failure.isEncoding = true
  · simp only [if_pos known] at ends
    exact Visit.discloses_of_absorbs ends (refl_of _ world) heard (.encoding own failed known)
  · simp only [if_neg known] at ends
    apply Visit.discloses_of_not_absorbs
    · rw [Visit.after, ends]
      exact refl_of _ world
    · rintro entry ⟨⟩ <;> simp_all

/-- With a record that can be encoded, a stream sink absorbs what the writing of the line and
the flushing raise together. -/
theorem absorbs_stream_iff {entry : Bytes} (encoded : record.encode = .ok entry)
    (destination : Label) (logger : LoggerName) (world : World) (told : LogEntry) :
    Visit.Absorbs ⟨.stream destination logger, record, world⟩ told
      ↔ ∃ failure, told = ⟨logger, .writeFailed failure⟩
        ∧ ((do write destination (entry ++ [lineFeed]); flush destination : Delivery Unit).run.run
          world).1 = .error failure := by
  rw [run_bind]
  constructor
  · intro absorbs
    cases absorbs with
    | encoding own raised =>
        rw [encoded] at raised
        cases raised
    | writing also raised =>
        cases encoded.symm.trans also
        refine ⟨_, rfl, ?_⟩
        generalize (write destination (entry ++ [lineFeed])).run.run world = done at raised ⊢
        rcases done with ⟨cause | _, written⟩
        · exact raised
        · cases raised
    | flushing also wrote raised =>
        cases encoded.symm.trans also
        refine ⟨_, rfl, ?_⟩
        rw [wrote]
        exact raised
  · rintro ⟨failure, rfl, raised⟩
    rcases wrote : (write destination (entry ++ [lineFeed])).run.run world with ⟨cause | _, written⟩
    · rw [wrote] at raised
      cases raised
      exact .writing encoded (congrArg Prod.fst wrote)
    · rw [wrote] at raised
      exact .flushing encoded wrote raised

/-- With a record that was posted, a collector sink absorbs what closing the answer raises. -/
theorem absorbs_http_iff {entry : Bytes} (encoded : record.encode = .ok entry) {client : Label}
    {response : Response} {answered : World}
    (posted : (post client usageEndpoint entry).run.run world = (.ok response, answered))
    (logger : LoggerName) (told : LogEntry) :
    Visit.Absorbs ⟨.http client logger, record, world⟩ told
      ↔ ∃ label failure, told = ⟨logger, .responseCloseFailed failure⟩
        ∧ ((closeOffer response).run.run answered).1 = .ok (some (label, some failure)) := by
  constructor
  · intro absorbs
    cases absorbs with
    | encoding own raised =>
        rw [encoded] at raised
        cases raised
    | posting also raised =>
        cases encoded.symm.trans also
        rw [posted] at raised
        cases raised
    | closing also also_posted raises =>
        cases encoded.symm.trans also
        cases posted.symm.trans also_posted
        exact ⟨_, _, rfl, raises⟩
  · rintro ⟨label, failure, rfl, raises⟩
    exact .closing encoded posted raises

theorem discloses_stream (destination : Label) (heard : world.levels.lets logger .debug = true)
    (calm : stops (Visit.outcome ⟨.stream destination logger, record, world⟩) = false) :
    Visit.Discloses ⟨.stream destination logger, record, world⟩ := by
  cases encoded : record.encode with
  | error failure => exact discloses_encoding rfl rfl heard encoded
  | ok entry =>
      have absorbs := absorbs_stream_iff encoded destination logger world
      have ends : (Sink.stream destination logger).report record = _ :=
        withEntry_of_ok encoded logger _
      apply Visit.discloses_absorbing (congrArg (fun delivery => delivery.run.run world) ends) calm
        (refl_of _ world)
      · exact .bind (told_write _ _) fun _ => told_flush _
      · exact fun _ => heard
      · exact fun failure raised => (absorbs _).mpr ⟨failure, rfl, raised⟩
      · rintro returned told raises
        obtain ⟨failure, rfl, raised⟩ := (absorbs told).mp raises
        cases raised.symm.trans returned

theorem run_closing (label : Option Label) (trouble : Option Failure) (world : World) :
    ((do noteClose label; failIf trouble : Delivery Unit).run.run world).1
      = match trouble with
        | some failure => .error failure
        | none => .ok () := by
  cases label <;> cases trouble <;> rfl

/-- A collector sink whose post returned. -/
theorem discloses_posted {client : Label} {entry : Bytes} {response : Response} {answered : World}
    (encoded : record.encode = .ok entry)
    (posted : (post client usageEndpoint entry).run.run world = (.ok response, answered))
    (heard : world.levels.lets logger .debug = true)
    (calm : stops (Visit.outcome ⟨.http client logger, record, world⟩) = false) :
    Visit.Discloses ⟨.http client logger, record, world⟩ := by
  have absorbs := absorbs_http_iff encoded posted logger
  have ends : ((Sink.http client logger).report record).run.run world = _ :=
    run_reportToCollector encoded client logger world
  have moved := told_post client usageEndpoint entry world
  have same := run_closeOffer response answered
  rw [posted] at ends moved
  dsimp only at ends moved
  rw [release, run_bind] at ends
  generalize (closeOffer response).run.run answered = looked at ends same absorbs
  have silent (unfailing : ∀ label failure, looked.1 ≠ .ok (some (label, some failure)))
      (told : LogEntry) : ¬ Visit.Absorbs ⟨.http client logger, record, world⟩ told := by
    intro raises
    obtain ⟨label, failure, _, offered⟩ := (absorbs told).mp raises
    exact unfailing label failure offered
  rcases looked with ⟨failure | _ | ⟨label, trouble⟩, found⟩
  · obtain rfl : found = answered := same
    exact Visit.discloses_of_not_absorbs (by rwa [Visit.after, ends]) (silent nofun)
  · obtain rfl : found = answered := same
    exact Visit.discloses_of_not_absorbs (by rwa [Visit.after, ends]) (silent nofun)
  · obtain rfl : found = answered := same
    apply Visit.discloses_absorbing ends calm moved
    · exact .bind (told_noteClose label) fun _ => .failIf trouble
    · exact fun _ => heard
    · intro failure raised
      rw [run_closing] at raised
      cases trouble with
      | none => cases raised
      | some cause =>
          cases raised
          exact (absorbs _).mpr ⟨label, failure, rfl, rfl⟩
    · intro returned
      apply silent
      rintro _ failure ⟨⟩
      rw [run_closing] at returned
      cases returned

theorem discloses_http (client : Label) (heard : world.levels.lets logger .debug = true)
    (calm : stops (Visit.outcome ⟨.http client logger, record, world⟩) = false) :
    Visit.Discloses ⟨.http client logger, record, world⟩ := by
  cases encoded : record.encode with
  | error failure => exact discloses_encoding rfl rfl heard encoded
  | ok entry =>
      rcases posted : (post client usageEndpoint entry).run.run world with
        ⟨failure | response, answered⟩
      · have ends : ((Sink.http client logger).report record).run.run world = _ :=
          run_reportToCollector encoded client logger world
        have moved := told_post client usageEndpoint entry world
        rw [posted] at ends moved
        by_cases ordinary : failure.isOrdinary = true
        · simp only [if_pos ordinary] at ends
          exact Visit.discloses_of_absorbs ends moved heard
            (.posting encoded (congrArg Prod.fst posted))
        · simp only [if_neg ordinary] at ends
          exact absurd (Visit.isOrdinary_of_calm calm ends) ordinary
      · exact discloses_posted encoded posted heard calm

/-- A leaf without a logger absorbs nothing. -/
theorem not_absorbs {leaf : Sink} (unlogged : leaf.ownLogger? = none) (entry : LogEntry) :
    ¬ Visit.Absorbs ⟨leaf, record, world⟩ entry := by
  intro absorbs
  cases absorbs with
  | encoding own raised known => cases unlogged.symm.trans own
  | _ => cases unlogged

/-- **A visit discloses what it absorbs.** -/
theorem discloses_report {leaf : Sink} (isLeaf : leaf.isLeaf = true)
    (heard : ∀ name ∈ leaf.loggers, world.levels.lets name .debug = true)
    (calm : stops (Visit.outcome ⟨leaf, record, world⟩) = false) :
    Visit.Discloses ⟨leaf, record, world⟩ := by
  cases leaf with
  | stream destination logger =>
      exact discloses_stream destination (heard logger (List.mem_singleton_self _)) calm
  | http client logger => exact discloses_http client (heard logger (List.mem_singleton_self _)) calm
  | fanout members logger => cases isLeaf
  | recorder label =>
      exact Visit.discloses_of_not_absorbs (.of_noted rfl rfl rfl) (not_absorbs rfl)
  | broken label failure =>
      exact Visit.discloses_of_not_absorbs (.of_noted rfl rfl rfl) (not_absorbs rfl)
  | empty => exact Visit.discloses_of_not_absorbs (.of_untraced rfl rfl) (not_absorbs rfl)

/-! ## Reports -/

/-- Handing a record to a member settles what the leaves in it owe, whatever fan-out the
member stands in. -/
def Settles (sink : Sink) (record : Record) : Prop :=
  ∀ (logger : LoggerName) (index : Nat) (world : World),
    (∀ name ∈ logger :: sink.loggers, world.levels.lets name .debug = true) →
    (∀ visit ∈ sink.visits record world, stops visit.outcome = false) →
    ∃ entries, World.Told entries world ((handOver logger sink index record).run.run world).2
      ∧ Settled (sink.placesIn logger index) (sink.visits record world) entries

/-- What gets out of a leaf is disclosed by the fan-out around it. -/
theorem settles_leaf {leaf : Sink} (isLeaf : leaf.isLeaf = true) (record : Record) :
    leaf.Settles record := by
  intro logger index world heard calm
  rw [visits_of_isLeaf isLeaf] at calm ⊢
  rw [placesIn_of_isLeaf isLeaf]
  have quiet := calm _ (List.mem_singleton_self _)
  obtain ⟨told, added, absorbs, returned⟩ := discloses_report isLeaf
    (fun name inside => heard name (List.mem_cons_of_mem _ inside)) quiet
  have handed := run_handOver logger leaf index record world
  rcases done : (leaf.report record).run.run world with ⟨failure | _, later⟩
  · have escapes : Visit.outcome ⟨leaf, record, world⟩ = .error failure := congrArg Prod.fst done
    cases told with
    | some entry => cases (returned rfl).symm.trans escapes
    | none =>
        have left : World.Told [] world later := by rwa [Visit.after, done] at added
        rw [done] at handed
        simp only [if_pos (Visit.isOrdinary_of_calm quiet done)] at handed
        rw [handed]
        refine ⟨_, left.logged (heard logger (List.mem_cons_self ..)), ?_⟩
        exact .single rfl (Place.owes_of_escaped escapes fun entry raises =>
          nomatch (absorbs entry).mp raises)
  · have returned : Visit.outcome ⟨leaf, record, world⟩ = .ok () := congrArg Prod.fst done
    rw [Visit.after, done] at added
    rw [handed, done]
    refine ⟨told.toList, added, .single rfl fun entry => ?_⟩
    rw [Place.owes_of_returned returned, absorbs]

/-- The same for one member after the other.  The loggers listen to the later ones as they did
to the first, for what the members do leaves the levels alone. -/
theorem settles_among {members : List Sink} {record : Record}
    (each : ∀ member ∈ members, member.Settles record) (logger : LoggerName) (index : Nat)
    (world : World)
    (heard : ∀ name ∈ logger :: loggersOf members, world.levels.lets name .debug = true)
    (calm : ∀ visit ∈ visitsOf logger members index record world, stops visit.outcome = false) :
    ∃ entries,
      World.Told entries world ((reportToMembers logger members index record).run.run world).2
        ∧ Settled (placesAmong logger index members)
          (visitsOf logger members index record world) entries := by
  induction members generalizing index world with
  | nil => exact ⟨[], refl_of (World.Told []) world, .nil⟩
  | cons member members hypothesis =>
      rw [visitsOf] at calm
      have quiet : ∀ visit ∈ member.visits record world, stops visit.outcome = false :=
        fun visit inside => calm visit (List.mem_append_left _ inside)
      obtain ⟨entries, told, settled⟩ := each member (List.mem_cons_self ..) logger index world
        (fun name inside => heard name (by rw [loggersOf]; grind)) quiet
      rw [visitsOf, placesAmong, run_reportToMembers_cons]
      rcases handOver_cases logger member index record world with ⟨later, handed, _⟩
        | ⟨failure, later, _, request, ended⟩
      · rw [handed] at calm told ⊢
        obtain ⟨others, adds, settles⟩ := hypothesis
          (fun other inside => each other (List.mem_cons_of_mem _ inside)) (index + 1) later
          (fun name inside => by
            rw [told.levels]
            exact heard name (by rw [loggersOf]; grind))
          fun visit inside => calm visit (List.mem_append_right _ inside)
        exact ⟨entries ++ others, told.append adds, settled.append settles⟩
      · have goes := stops_of_visits quiet
        rw [ended, stops, request] at goes
        cases goes

/-- What the leaves in a sink owe is settled. -/
theorem settles (sink : Sink) (record : Record) : sink.Settles record := by
  induction sink using treeInduction with
  | leaf leaf isLeaf => exact settles_leaf isLeaf record
  | fanout members inner each =>
      intro logger index world heard calm
      obtain ⟨entries, told, settled⟩ := settles_among each inner 0 world
        (fun name inside => heard name (List.mem_cons_of_mem _ inside)) calm
      refine ⟨entries, ?_, settled⟩
      have goes := stops_of_visits calm
      -- The fan-out itself has nothing to complain of: it lets only requests to stop through.
      rw [run_handOver, report]
      rw [report] at goes
      rcases done : (reportToMembers inner members 0 record).run.run world with ⟨failure | _, later⟩
      · rw [done, stops, stops_of_reportToMembers (congrArg Prod.fst done)] at goes
        cases goes
      · rwa [done] at told

/-- **No failure is lost without a trace.**  Take a fan-out of any depth all of whose loggers
let debugging through, and a report in which no visit ends with a request to stop.  The
entries that the report adds to the log settle what the leaves owe, from left to right:
for each leaf that fails there is one entry, and for the others there is none. -/
theorem entries_of_report (members : List Sink) (logger : LoggerName) (record : Record)
    (world : World)
    (heard : ∀ name ∈ loggers (.fanout members logger), world.levels.lets name .debug = true)
    (calm : ∀ visit ∈ visits (.fanout members logger) record world,
      stops visit.outcome = false) :
    let tree := Sink.fanout members logger
    let places := placesAmong logger 0 members
    places.map Place.leaf = tree.leaves
      ∧ ∃ events, ((tree.report record).run.run world).2.trace = world.trace ++ events
        ∧ Settled places (tree.visits record world) (events.filterMap Event.entry?) := by
  obtain ⟨_, told, settled⟩ :=
    settles_among (fun member _ => member.settles record) logger 0 world heard calm
  obtain ⟨events, trace, rfl⟩ := told.trace
  exact ⟨map_leaf_placesAmong (fun member _ => member.map_leaf_placesIn) logger 0, events, trace,
    settled⟩

/-- Members of which some fail: the nested fan-out, and behind it one whose second member is
no sink at all. -/
def crippled : List Sink :=
  [nested, .fanout [.recorder (.given "recorder"), .empty] LoggerName.fanout]

/-- Three of the five leaves fail, each in a way of its own. -/
theorem entries_of_report_crippled :
    let world := { World.outage with levels := [(LoggerName.library, .number 10)] }
    let tree := Sink.fanout crippled LoggerName.fanout
    (∀ name ∈ tree.loggers, world.levels.lets name .debug = true)
      ∧ (∀ visit ∈ tree.visits (.plain .null) world, stops visit.outcome = false)
      ∧ ∃ entries, Settled (placesAmong LoggerName.fanout 0 crippled)
          (tree.visits (.plain .null) world) entries
        ∧ entries.map (fun entry => (entry.logger, entry.event.name))
          = [(LoggerName.stream, "heartbeat_write_failed"),
            (LoggerName.http, "heartbeat_post_failed"),
            (LoggerName.fanout, "heartbeat_member_failed")] := by
  intro world tree
  have heard : ∀ name ∈ tree.loggers, world.levels.lets name .debug = true := by decide +kernel
  have calm : ∀ visit ∈ tree.visits (.plain .null) world, stops visit.outcome = false := by
    decide +kernel
  obtain ⟨_, events, trace, settled⟩ :=
    entries_of_report crippled LoggerName.fanout (.plain .null) world heard calm
  obtain rfl : _ = events := trace
  refine ⟨heard, calm, _, settled, ?_⟩
  decide +kernel

end Sink

end Heartbeat
