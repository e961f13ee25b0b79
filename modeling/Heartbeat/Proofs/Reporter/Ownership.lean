import Heartbeat.Proofs.Delivery.Actions
import Heartbeat.Proofs.Delivery.Closing
import Heartbeat.Proofs.Files.Reopening
import Heartbeat.Proofs.Reporter.Quiet

/-!
# What a reporter owns

Building a reporter opens the metrics file and builds a session as the settings ask for
them, and registers both with the caller's resources.  Wherever building stops, and
whatever reports run into afterwards, nothing is closed in the meantime
(`Reporter.Owns`).  The caller's exit then closes the session and after it the file, each
once, also if closing one of them fails.  It closes nothing that was lent and not the
standard output, and without resources there is nothing that it could close
(`Reporter.owned_closed_once`).
-/

namespace Heartbeat

set_option autoImplicit false

open Delivery

/-! ## Lives of clients -/

namespace World

/-- The clients that were built and closed since an earlier world, in this order. -/
def Lifetimes (lifetimes : List Event) (world later : World) : Prop :=
  ∃ events, later.trace = world.trace ++ events ∧ events.filter Event.isLifetime = lifetimes

theorem Lifetimes.of_trace {world later : World} (same : later.trace = world.trace) :
    Lifetimes [] world later :=
  ⟨[], same.trans (List.append_nil _).symm, rfl⟩

theorem Lifetimes.trans {world later final : World} {lifetimes others : List Event}
    (first : Lifetimes lifetimes world later) (second : Lifetimes others later final) :
    Lifetimes (lifetimes ++ others) world final := by
  obtain ⟨events, trace, rfl⟩ := first
  obtain ⟨events', trace', rfl⟩ := second
  exact ⟨events ++ events', by rw [trace', trace, List.append_assoc], List.filter_append ..⟩

theorem Lifetimes.of_logsOnly {world later : World} (logs : world.LogsOnly later) :
    Lifetimes [] world later := by
  obtain ⟨entries, rfl⟩ := logs
  refine ⟨_, rfl, List.filter_eq_nil_iff.mpr ?_⟩
  intro event member
  obtain ⟨entry, _, rfl⟩ := List.mem_map.mp member
  exact Bool.false_ne_true

/-- Destinations and clients stay what they are, no client is built or closed, and nothing is
registered. -/
structure Passes (world later : World) : Prop where
  kinds : world.SameKinds later
  resources : later.resources = world.resources
  clients : Lifetimes [] world later

instance : IsPreorder World Passes where
  refl world := ⟨refl_of SameKinds world, rfl, .of_trace rfl⟩
  trans first second third := by
    intro before after
    exact ⟨trans_of SameKinds before.kinds after.kinds,
      after.resources.trans before.resources, before.clients.trans after.clients⟩

theorem LogsOnly.passes {world later : World} (logs : world.LogsOnly later) :
    world.Passes later := by
  refine ⟨logs.sameKinds, ?_, .of_logsOnly logs⟩
  obtain ⟨entries, rfl⟩ := logs
  rfl

end World

namespace Sink

theorem Acts.passes {leaf : Sink} {world later : World} (acts : leaf.Acts world later) :
    world.Passes later := by
  have kinds := acts.sameKinds
  cases acts with
  | note leaf world passing => exact ⟨kinds, rfl, [_], rfl, by simp [passing]⟩
  | _ => exact ⟨kinds, rfl, .of_trace rfl⟩

/-- **No report opens or closes anything.** -/
theorem passes_report (sink : Sink) (record : Record) :
    Moves World.Passes (sink.report record) :=
  moves_report (fun _ _ => World.LogsOnly.passes) (fun _ _ _ => Acts.passes) sink record

/-- Reports records one after the other, however each report ends. -/
def reportAll (sink : Sink) : List Record → Delivery Unit
  | [] => return ()
  | record :: records => do
    let _ ← attempt (sink.report record)
    reportAll sink records

theorem passes_reportAll (sink : Sink) (records : List Record) :
    Moves World.Passes (sink.reportAll records) := by
  induction records with
  | nil => exact .pure ()
  | cons record records hypothesis =>
      exact .bind (passes_report sink record) fun _ => hypothesis

end Sink

/-! ## Owning -/

/-- A metrics file that was opened is open. -/
theorem FileTree.isOpen_of_opens {homes : Homes} {tree files : FileTree} {value : Value}
    {handle : FileHandle} (opens : openMetricsFile homes tree value = (.ok handle, files)) :
    handle.closed = false := by
  rw [openMetricsFile] at opens
  split at opens
  · cases opens
  · split at opens
    · cases opens
    · obtain ⟨_, _, _, _, rfl, _⟩ := openAt_eq_ok opens
      rfl

namespace Reporter

/-- The resources that a caller is given to close, the session in front of the file. -/
def owned (lending : Lending) (file : Option Location) (posted : Bool) : List Resource :=
  if lending.keepsResources then opens file.isSome posted else []

/-- What a reporter owns in a world since it was begun to be built in an earlier one: the
metrics file, if it is opened, and a session, if one is built. -/
structure Owns (lending : Lending) (timeout : Value) (start : World) (file : Option Location)
    (posted : Bool) (world : World) : Prop where
  /-- What is owned stands in front of what was registered before. -/
  resources : world.resources = owned lending file posted ++ start.resources
  /-- A session is built once, and no client is closed. -/
  clients : start.Lifetimes (if posted then [.clientBuilt timeout] else []) world
  /-- A session that is owned is there, and then no client was lent. -/
  session : posted = true →
    lending.client = none ∧ (world.client .session).timeout? = some timeout
  /-- The metrics file is open. -/
  file : ∀ location ∈ file, (world.destination .metricsFile).kind = .file location false
  /-- No destination is closed that was open before. -/
  destinations : ∀ label, (world.destination label).kind.isClosed = true →
    (start.destination label).kind.isClosed = true

namespace Owns

variable {lending : Lending} {timeout : Value} {start world later : World}
  {file : Option Location} {posted : Bool}

theorem nothing (lending : Lending) (timeout : Value) (start : World) :
    Owns lending timeout start none false start where
  resources := by
    rw [owned]
    split <;> rfl
  clients := .of_trace rfl
  session := nofun
  file := nofun
  destinations _ closed := closed

/-- Reports change nothing about it. -/
theorem passes (owns : Owns lending timeout start file posted world)
    (passes : world.Passes later) : Owns lending timeout start file posted later where
  resources := passes.resources.trans owns.resources
  clients := by
    have joined := owns.clients.trans passes.clients
    rwa [List.append_nil] at joined
  session is_posted := by
    rw [passes.kinds.client]
    exact owns.session is_posted
  file location opened := by
    rw [passes.kinds.destination]
    exact owns.file location opened
  destinations label closed := by
    rw [passes.kinds.destination] at closed
    exact owns.destinations label closed

/-- Opening the metrics file makes it the reporter's own. -/
theorem withFile (owns : Owns lending timeout start none false world) {handle : FileHandle}
    (is_open : handle.closed = false) :
    Owns lending timeout start (some handle.location) false (world.withFile lending handle) where
  resources := by
    have before : (world.setDestination .metricsFile (.file handle)).resources
        = owned lending none false ++ start.resources := owns.resources
    rw [World.withFile, World.resources_kept, before, owned, owned]
    cases lending.keepsResources <;> rfl
  clients := by
    rw [World.withFile]
    exact owns.clients.trans (.of_trace (World.trace_kept ..))
  session := nofun
  file location is_location := by
    obtain rfl := Option.some.inj is_location
    rw [World.withFile, World.destination_kept, World.setDestination_self, Destination.kind,
      is_open]
  destinations label closed := by
    rw [World.withFile, World.destination_kept] at closed
    by_cases here : label = .metricsFile
    · rw [here, World.setDestination_self, Destination.kind, is_open] at closed
      cases closed
    · rw [World.setDestination_of_ne _ here] at closed
      exact owns.destinations label closed

/-- The sink for the standard output changes nothing about it. -/
theorem withStream (owns : Owns lending timeout start file posted world) :
    Owns lending timeout start file posted (world.withStream lending) := by
  rw [World.withStream]
  split
  · exact owns
  · refine ⟨owns.resources, owns.clients, owns.session, ?_, ?_⟩
    · rw [World.setDestination_of_ne _ (show Label.metricsFile ≠ .console by decide)]
      exact owns.file
    · intro label closed
      by_cases here : label = .console
      · rw [here, World.setDestination_self] at closed
        cases closed
      · rw [World.setDestination_of_ne _ here] at closed
        exact owns.destinations label closed

/-- Building a session makes it the reporter's own. -/
theorem withSession (owns : Owns lending timeout start file false world)
    (unlent : lending.client = none) (network : Network) :
    Owns lending timeout start file true
      (((world.setClient .session (.session timeout network 0)).note (.clientBuilt timeout)).kept
        lending (.session .session)) where
  resources := by
    have before : ((world.setClient .session (.session timeout network 0)).note
        (.clientBuilt timeout)).resources = owned lending file false ++ start.resources :=
      owns.resources
    rw [World.resources_kept, before, owned, owned]
    cases lending.keepsResources <;> rfl
  clients := by
    have built : World.Lifetimes [.clientBuilt timeout] world
        (((world.setClient .session (.session timeout network 0)).note
          (.clientBuilt timeout)).kept lending (.session .session)) :=
      ⟨[.clientBuilt timeout], World.trace_kept .., rfl⟩
    exact owns.clients.trans built
  session _ := by
    rw [World.client_kept, World.client_note, World.setClient_self]
    exact ⟨unlent, rfl⟩
  file location is_location := by
    rw [World.destination_kept]
    exact owns.file location is_location
  destinations label closed := by
    rw [World.destination_kept] at closed
    exact owns.destinations label closed

end Owns

/-! ## Building -/

section Building

variable (homes : Homes) (network : Network) (settings : Settings) (lending : Lending)

/-- Where the metrics file is that is opened when a reporter is built, if one is. -/
def opened (tree : FileTree) : Option Location :=
  if settings.telemetryEnabled && settings.metricsFile.isTruthy then
    (FileTree.openMetricsFile homes tree settings.metricsFile).1.toOption.map FileHandle.location
  else none

/-- Opening the metrics file, or trying to, makes it the reporter's own. -/
theorem owns_tried (enabled : settings.telemetryEnabled = true) (timeout : Value)
    (start : World) :
    Owns lending timeout start (opened homes settings start.files) false
      (tried homes settings lending start).2 := by
  have nothing := Owns.nothing lending timeout start
  rw [opened, tried, enabled, Bool.true_and]
  split
  · cases opens : FileTree.openMetricsFile homes start.files settings.metricsFile with
    | mk outcome files =>
      have unopened : Owns lending timeout start none false { start with files } :=
        ⟨nothing.resources, nothing.clients, nothing.session, nothing.file, nothing.destinations⟩
      cases outcome with
      | error failure =>
          dsimp only
          split
          · exact unopened.passes (World.LogsOnly.logged _ _).passes
          · exact unopened
      | ok handle =>
          exact unopened.withFile (FileTree.isOpen_of_opens opens)
  · exact nothing

/-- Adding the sink for the collector builds a session, or fails before it does. -/
theorem owns_collectorMember {file : Option Location} {start world : World}
    (owns : Owns lending settings.httpTimeout start file false world) :
    ∃ posted, Owns lending settings.httpTimeout start file posted
      ((collectorMember network settings lending).run.run world).2 := by
  rw [collectorMember]
  split
  · rw [map_eq_pure_bind, collectorSink]
    cases lent : lending.client with
    | some label => exact ⟨false, owns⟩
    | none =>
        dsimp only
        rw [run_bind, run_bind, run_ofExcept]
        cases built : Client.build settings.httpTimeout network with
        | error failure => exact ⟨false, owns⟩
        | ok client =>
            dsimp only
            rw [run_modify_bind, note, run_modify_bind, run_bind, run_keep]
            rw [Client.eq_of_build built]
            exact ⟨true, owns.withSession lent network⟩
  · exact ⟨false, owns⟩

/-- **Wherever building stops, what was opened is the reporter's own.** -/
theorem owns_build (start : World) :
    ∃ posted, Owns lending settings.httpTimeout start (opened homes settings start.files) posted
      ((build homes network settings lending).run.run start).2 := by
  rw [build]
  cases enabled : settings.telemetryEnabled with
  | false =>
      rw [opened, enabled]
      exact ⟨false, .nothing lending settings.httpTimeout start⟩
  | true =>
      have filed := owns_tried homes settings lending enabled settings.httpTimeout start
      simp only [if_true]
      rw [world_bind fun _ _ => rfl, members_eq, run_bind, run_fileMember]
      generalize tried homes settings lending start = done at filed ⊢
      obtain ⟨failure | found, later⟩ := done
      · exact ⟨false, filed⟩
      · dsimp only at filed ⊢
        rw [run_bind, run_streamMember]
        dsimp only
        rw [world_bind fun _ _ => rfl]
        apply owns_collectorMember
        split
        · exact filed.withStream
        · exact filed

end Building

/-! ## Closing -/

/-- Closing a session is noted, and nothing else changes. -/
theorem shut_of_timeout {world : World} {label : Label} {timeout : Value}
    (held : (world.client label).timeout? = some timeout) :
    world.shut (.session label) = world.note .transportClose := by
  rw [shut_session]
  cases found : world.client label with
  | session default network sends => rfl
  | stub failures close posts =>
      rw [found] at held
      cases held

/-- An open file that is closed is closed afterwards, and beside the files nothing else
changes. -/
theorem shut_of_kind {world : World} {label : Label} {location : Location}
    (is_open : (world.destination label).kind = .file location false) :
    (world.shut (.file label)).trace = world.trace
      ∧ ((world.shut (.file label)).destination label).kind = .file location true
      ∧ ∀ other, other ≠ label →
        (world.shut (.file label)).destination other = world.destination other := by
  cases found : world.destination label with
  | file handle =>
      rw [found, Destination.kind] at is_open
      obtain ⟨rfl, _⟩ := Destination.Kind.file.inj is_open
      have closed : (handle.close world.files).2.1.closed = true := by
        rw [FileHandle.close]
        split
        · assumption
        · rfl
      have shut := shut_file found
      refine ⟨(congrArg World.trace shut :), ?_, ?_⟩
      · have left := congrArg (World.destination · label) shut
        dsimp only at left
        rw [left, World.setDestination_self, Destination.kind, closed,
          (handle.keeps_close world.files).location]
      · intro other apart
        have left := congrArg (World.destination · other) shut
        dsimp only at left
        rw [left, World.setDestination_of_ne _ apart]
  | _ =>
      rw [found] at is_open
      cases is_open

namespace Owns

variable {lending : Lending} {timeout : Value} {start left : World} {file : Option Location}
  {posted : Bool}

/-- Closing the session is noted once, and leaves the file open. -/
theorem shutSession (owns : Owns lending timeout start file posted left) :
    let shut := (if posted then [Resource.session .session] else []).foldl World.shut
      { left with resources := [] }
    shut.trace = left.trace ++ (if posted then [.transportClose] else [])
      ∧ shut.destination = left.destination := by
  cases posted with
  | false => exact ⟨(List.append_nil _).symm, rfl⟩
  | true =>
      have held : (({ left with resources := [] } : World).client .session).timeout?
          = some timeout := (owns.session rfl).2
      simp only [if_true, List.foldl_cons, List.foldl_nil]
      rw [shut_of_timeout held]
      exact ⟨rfl, rfl⟩

/-- **Closing what is owned closes the session and then the file, each once.**  Without
resources nothing is closed. -/
theorem shut (owns : Owns lending timeout start file posted left) :
    let own := owned lending file posted
    let shut := own.foldl World.shut { left with resources := [] }
    shut.trace = left.trace
        ++ (if lending.keepsResources && posted then [.transportClose] else [])
      ∧ (lending.keepsResources = true → ∀ location ∈ file,
        (shut.destination .metricsFile).kind = .file location true)
      ∧ ∀ label, .file label ∉ own → shut.destination label = left.destination label := by
  intro own shut
  cases keeps : lending.keepsResources with
  | false =>
      have nothing : own = [] := by simp [own, owned, keeps]
      have same : shut = { left with resources := [] } := by simp [shut, nothing]
      rw [same]
      exact ⟨(List.append_nil _).symm, fun keeps => absurd keeps Bool.false_ne_true,
        fun _ _ => rfl⟩
  | true =>
      obtain ⟨trace, destinations⟩ := owns.shutSession
      have parts : own = (if posted then [.session .session] else [])
          ++ (if file.isSome then [.file .metricsFile] else []) := by
        simp [own, owned, keeps, opens]
      have ends : shut = (if file.isSome then [Resource.file .metricsFile] else []).foldl World.shut
          ((if posted then [Resource.session .session] else []).foldl World.shut
            { left with resources := [] }) := by simp [shut, parts, List.foldl_append]
      generalize (if posted then [Resource.session .session] else []).foldl World.shut
        { left with resources := [] } = between at trace destinations ends
      rw [Bool.true_and, ← trace]
      cases file with
      | none =>
          obtain rfl : shut = between := ends
          exact ⟨rfl, fun _ _ listed => absurd listed (Option.not_mem_none _),
            fun label _ => congrFun destinations label⟩
      | some location =>
          have is_open : (between.destination .metricsFile).kind = .file location false := by
            rw [destinations]
            exact owns.file location rfl
          obtain ⟨kept, closed, others⟩ := shut_of_kind is_open
          have last : shut = between.shut (.file .metricsFile) := ends
          rw [last]
          refine ⟨kept, ?_, ?_⟩
          · intro _ other same
            obtain rfl := Option.some.inj same
            exact closed
          · intro label spared
            rw [← destinations]
            apply others
            rintro rfl
            apply spared
            simp [parts]

end Owns

/-- Builds a reporter and reports records to it, however each report ends. -/
def run (homes : Homes) (network : Network) (settings : Settings) (lending : Lending)
    (records : List Record) : Delivery Unit := do
  let sink ← build homes network settings lending
  sink.reportAll records

/-- Whatever becomes of building and of the reports, what was opened is the reporter's own. -/
theorem owns_run (homes : Homes) (network : Network) (settings : Settings) (lending : Lending)
    (records : List Record) (start : World) :
    ∃ posted, Owns lending settings.httpTimeout start (opened homes settings start.files) posted
      ((run homes network settings lending records).run.run start).2 := by
  obtain ⟨posted, owns⟩ := owns_build homes network settings lending start
  exact ⟨posted, Moves.reach_bind _ (fun _ _ owns => owns.passes) owns
    fun sink => sink.passes_reportAll records⟩

/-- **What a reporter opens is closed once, at the exit of its caller and not before.**  Let a
reporter be built in whatever world, from whatever settings and with whatever the caller
lends, and let it be given records, wherever building stops and whatever fails.

Before the exit nothing is closed: the metrics file that was opened is open, the session
that was built is the only client that was, and if the caller keeps resources both are
registered in front of what was there before.  The exit closes the session and after it the
file, each once and also if closing one of them fails, and then what was there before.  The
session is the only client that is closed, and its file the only destination; a stream or a
client that was lent and the standard output stay as they are.  Without resources nothing is
closed. -/
theorem owned_closed_once (homes : Homes) (network : Network) (settings : Settings)
    (lending : Lending) (records : List Record) (start : World) :
    let left := ((run homes network settings lending records).run.run start).2
    let exit := ((closing (run homes network settings lending records)).run.run start).2
    let file := opened homes settings start.files
    ∃ posted, Owns lending settings.httpTimeout start file posted left ∧
      let own := owned lending file posted
      let shut := own.foldl World.shut { left with resources := [] }
      own.Nodup
        ∧ exit = start.resources.foldl World.shut shut
        ∧ shut.trace = left.trace
          ++ (if lending.keepsResources && posted then [.transportClose] else [])
        ∧ (lending.keepsResources = true → ∀ location ∈ file,
          (shut.destination .metricsFile).kind = .file location true)
        ∧ ∀ label, .file label ∉ own → shut.destination label = left.destination label := by
  intro left exit file
  obtain ⟨posted, owns⟩ := owns_run homes network settings lending records start
  refine ⟨posted, owns, ?_, ?_, owns.shut⟩
  · rw [owned]
    split
    · exact nodup_opens _ _
    · exact List.nodup_nil
  · show ((closing _).run.run start).2 = _
    rw [world_closing, world_closeAll, owns.resources, List.foldl_append]

end Reporter

end Heartbeat
