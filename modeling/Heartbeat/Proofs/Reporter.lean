import Heartbeat.Proofs.Delivery.Run
import Heartbeat.Proofs.Files.Opening
import Heartbeat.Proofs.Settings.Valid
import Heartbeat.Reporter

/-!
# Which reporter is built

Building a reporter tries the metrics file and then adds the sinks that cannot fail,
each of which leaves its mark on the world: what is opened becomes a destination, a
new session is noted, and both are registered if the caller keeps resources
(`Reporter.run_build`).

With settings that were resolved a reporter is built whatever the system says to the
metrics file.  Only a path that is hopeless in itself ends the building, since its
failure is none of the system (`Reporter.build_outcome`).
-/

namespace Heartbeat

set_option autoImplicit false

open Delivery

/-! ## Worlds on the way -/

namespace World

/-- Offering an entry to the log notes it if the levels let it through. -/
theorem trace_logged (world : World) (entry : LogEntry) :
    (world.logged entry).trace = world.trace ++ ([entry].filter fun entry =>
      world.levels.lets entry.logger entry.event.severity).map Event.log := by
  rw [logged, List.filter_cons, List.filter_nil]
  split
  · rfl
  · exact (List.append_nil _).symm

/-- The world in which a resource is registered if the caller keeps resources. -/
def kept (world : World) (lending : Lending) (resource : Resource) : World :=
  if lending.keepsResources then { world with resources := resource :: world.resources } else world

theorem resources_kept (world : World) (lending : Lending) (resource : Resource) :
    (world.kept lending resource).resources
      = (if lending.keepsResources then [resource] else []) ++ world.resources := by
  rw [kept]
  split <;> rfl

theorem destination_kept (world : World) (lending : Lending) (resource : Resource) :
    (world.kept lending resource).destination = world.destination := by
  rw [kept]
  split <;> rfl

theorem client_kept (world : World) (lending : Lending) (resource : Resource) :
    (world.kept lending resource).client = world.client := by
  rw [kept]
  split <;> rfl

theorem trace_kept (world : World) (lending : Lending) (resource : Resource) :
    (world.kept lending resource).trace = world.trace := by
  rw [kept]
  split <;> rfl

/-- The world after the metrics file was opened. -/
def withFile (world : World) (lending : Lending) (handle : FileHandle) : World :=
  (world.setDestination .metricsFile (.file handle)).kept lending (.file .metricsFile)

/-- The world in which the standard output is a destination, unless a stream is lent. -/
def withStream (world : World) (lending : Lending) : World :=
  if lending.stream.isSome then world else world.setDestination .console .console

/-- The world after a session was built, unless a client is lent. -/
def withCollector (world : World) (lending : Lending) (timeout : Value) (network : Network) : World :=
  if lending.client.isSome then world
  else ((world.setClient .session (.session timeout network 0)).note (.clientBuilt timeout)).kept
    lending (.session .session)

/-- The world after the sinks beside that for the metrics file were made. -/
def prepared (world : World) (settings : Settings) (lending : Lending) (network : Network) : World :=
  let streamed := if settings.stdout.isTruthy then world.withStream lending else world
  if settings.httpEnabled.isTruthy then
    streamed.withCollector lending settings.httpTimeout network
  else streamed

end World

namespace Reporter

/-! ## Sinks -/

theorem run_keep (lending : Lending) (resource : Resource) (world : World) :
    (keep lending resource).run.run world = (.ok (), world.kept lending resource) := by
  rw [keep, World.kept]
  cases lending.keepsResources <;> rfl

theorem run_fileSink? (homes : Homes) (lending : Lending) (path : Value) (world : World) :
    (fileSink? homes lending path).run.run world
      = match FileTree.openMetricsFile homes world.files path with
        | (.ok handle, files) => (.ok (some (.stream .metricsFile LoggerName.stream)),
            { world with files }.withFile lending handle)
        | (.error failure, files) =>
          if failure.isSystem then (.ok none,
            { world with files }.logged ⟨LoggerName.reporter, .fileUnavailable path failure⟩)
          else (.error failure, { world with files }) := by
  rw [fileSink?, run_get_bind]
  rcases FileTree.openMetricsFile homes world.files path with ⟨failure | handle, files⟩
  · dsimp only
    rw [run_modify_bind]
    by_cases system : failure.isSystem = true
    · simp only [if_pos system]
      rfl
    · simp only [if_neg system]
      rfl
  · dsimp only
    rw [run_modify_bind, run_modify_bind, run_bind, run_keep]
    rfl

theorem run_streamSink (lending : Lending) (world : World) :
    (streamSink lending).run.run world
      = (.ok (.stream (lending.stream.getD .console) LoggerName.stream), world.withStream lending) := by
  rw [streamSink, World.withStream]
  cases lending.stream <;> rfl

theorem run_collectorSink {network : Network} {timeout : Value}
    (positive : Client.checkTimeout timeout = .ok ()) (lending : Lending) (world : World) :
    (collectorSink network lending timeout).run.run world
      = (.ok (.http (lending.client.getD .session) LoggerName.http),
        world.withCollector lending timeout network) := by
  have client : Client.build timeout network = .ok (.session timeout network 0) := by
    rw [Client.build, positive]
    rfl
  rw [collectorSink, World.withCollector]
  cases lending.client with
  | some label => rfl
  | none =>
      dsimp only
      rw [client, run_ofExcept_bind]
      dsimp only
      rw [run_modify_bind, note, run_modify_bind, run_bind, run_keep]
      rfl

/-! ## Building -/

/-- Without telemetry a reporter has no members, and building it does nothing, whatever else
is asked for. -/
theorem run_build_disabled {settings : Settings} (disabled : settings.telemetryEnabled = false)
    (homes : Homes) (network : Network) (lending : Lending) (world : World) :
    (build homes network settings lending).run.run world
      = (.ok (.fanout [] LoggerName.fanout), world) := by
  rw [build, disabled]
  rfl

/-- The sinks that settings ask for, in their order, given whether the metrics file was
opened. -/
def asked (settings : Settings) (lending : Lending) (opened : Bool) : List Sink :=
  let rows := [(settings.metricsFile.isTruthy && opened,
      Sink.stream .metricsFile LoggerName.stream),
    (settings.stdout.isTruthy, .stream (lending.stream.getD .console) LoggerName.stream),
    (settings.httpEnabled.isTruthy, .http (lending.client.getD .session) LoggerName.http)]
  (rows.filter fun (wanted, _) => settings.telemetryEnabled && wanted).map Prod.snd

/-- Whether the metrics file was opened, and the world in which that was tried if it is
asked for. -/
def tried (homes : Homes) (settings : Settings) (lending : Lending) (world : World) :
    Except Failure Bool × World :=
  if settings.metricsFile.isTruthy then
    match FileTree.openMetricsFile homes world.files settings.metricsFile with
    | (.ok handle, files) => (.ok true, { world with files }.withFile lending handle)
    | (.error failure, files) =>
      if failure.isSystem then (.ok false, { world with files }.logged
        ⟨LoggerName.reporter, .fileUnavailable settings.metricsFile failure⟩)
      else (.error failure, { world with files })
  else (.ok false, world)

section Members

variable (homes : Homes) (network : Network) (settings : Settings) (lending : Lending)

/-- The sink for the metrics file, if it is asked for and can be had. -/
def fileMember : Delivery (Option Sink) :=
  if settings.metricsFile.isTruthy then fileSink? homes lending settings.metricsFile else pure none

/-- The sink for the standard output, if it is asked for. -/
def streamMember : Delivery (Option Sink) :=
  if settings.stdout.isTruthy then some <$> streamSink lending else pure none

/-- The sink for the collector, if it is asked for. -/
def collectorMember : Delivery (Option Sink) :=
  if settings.httpEnabled.isTruthy then
    some <$> collectorSink network lending settings.httpTimeout
  else pure none

theorem members_eq : members homes network settings lending
    = fileMember homes settings lending >>= fun file => streamMember settings lending >>= fun stream =>
      collectorMember network settings lending >>= fun collector =>
        pure (file.toList ++ stream.toList ++ collector.toList) := by
  rw [members, fileMember, streamMember, collectorMember]
  cases settings.metricsFile.isTruthy <;> cases settings.stdout.isTruthy
    <;> cases settings.httpEnabled.isTruthy <;> rfl

theorem run_fileMember (world : World) :
    (fileMember homes settings lending).run.run world
      = match tried homes settings lending world with
        | (.ok opened, later) => (.ok (if settings.metricsFile.isTruthy && opened then
            some (.stream .metricsFile LoggerName.stream) else none), later)
        | (.error failure, later) => (.error failure, later) := by
  rw [fileMember, tried]
  cases settings.metricsFile.isTruthy with
  | false => rfl
  | true =>
      simp only [if_true, Bool.true_and]
      rw [run_fileSink?]
      rcases FileTree.openMetricsFile homes world.files settings.metricsFile with
        ⟨failure | handle, files⟩
      · by_cases system : failure.isSystem = true
        · simp only [if_pos system]
          rfl
        · simp only [if_neg system]
      · rfl

theorem run_streamMember (world : World) :
    (streamMember settings lending).run.run world
      = (.ok (if settings.stdout.isTruthy then
            some (.stream (lending.stream.getD .console) LoggerName.stream) else none),
          if settings.stdout.isTruthy then world.withStream lending else world) := by
  rw [streamMember]
  cases settings.stdout.isTruthy with
  | false => rfl
  | true =>
      simp only [if_true]
      rw [map_eq_pure_bind, run_bind, run_streamSink]
      rfl

variable {settings} (valid : settings.Valid)

include valid

/-- Valid settings have a timeout that passes the check of the session. -/
theorem checkTimeout_of_valid : Client.checkTimeout settings.httpTimeout = .ok () := by
  obtain ⟨number, is_number, positive⟩ := valid.httpTimeout
  have large : number.isAtMostZero = false := by
    rw [Bool.eq_false_iff]
    intro small
    rw [Double.isPositive_eq_false_of_isAtMostZero small] at positive
    cases positive
  have compared : Client.isAtMostZero settings.httpTimeout = .ok false := by
    rw [is_number, Client.isAtMostZero, large]
  rw [Client.checkTimeout, compared]
  rfl

theorem run_collectorMember (world : World) :
    (collectorMember network settings lending).run.run world
      = (.ok (if settings.httpEnabled.isTruthy then
            some (.http (lending.client.getD .session) LoggerName.http) else none),
          if settings.httpEnabled.isTruthy then
            world.withCollector lending settings.httpTimeout network else world) := by
  rw [collectorMember]
  cases settings.httpEnabled.isTruthy with
  | false => rfl
  | true =>
      simp only [if_true]
      rw [map_eq_pure_bind, run_bind, run_collectorSink (checkTimeout_of_valid valid)]
      rfl

/-- A reporter is built by trying the metrics file and adding the sinks that cannot
fail. -/
theorem run_build (world : World) :
    (build homes network settings lending).run.run world
      = if settings.telemetryEnabled then
          match tried homes settings lending world with
          | (.ok opened, later) => (.ok (.fanout (asked settings lending opened) LoggerName.fanout),
              later.prepared settings lending network)
          | (.error failure, later) => (.error failure, later)
        else (.ok (.fanout [] LoggerName.fanout), world) := by
  rw [build]
  cases enabled : settings.telemetryEnabled with
  | false => rfl
  | true =>
      simp only [if_true]
      rw [members_eq, run_bind, run_bind, run_fileMember]
      rcases tried homes settings lending world with ⟨failure | opened, later⟩
      · rfl
      · dsimp only
        rw [run_bind, run_streamMember]
        dsimp only
        rw [run_bind, run_collectorMember network lending valid, asked, enabled, World.prepared]
        cases settings.metricsFile.isTruthy && opened <;> cases settings.stdout.isTruthy
          <;> cases settings.httpEnabled.isTruthy <;> rfl

end Members

/-! ## Outcomes -/

/-- The warning about a metrics file that is asked for and could not be opened. -/
def warnings (settings : Settings) (opening : Except Failure FileHandle) : List LogEntry :=
  match opening with
  | .ok _ => []
  | .error failure =>
    if settings.metricsFile.isTruthy then
      [⟨LoggerName.reporter, .fileUnavailable settings.metricsFile failure⟩]
    else []

/-- What is noted when the sinks beside that for the metrics file are made. -/
theorem trace_prepared (world : World) (settings : Settings) (lending : Lending)
    (network : Network) :
    (world.prepared settings lending network).trace = world.trace
      ++ if settings.httpEnabled.isTruthy && lending.client.isNone then
          [.clientBuilt settings.httpTimeout] else [] := by
  have streamed : (if settings.stdout.isTruthy then world.withStream lending else world).trace
      = world.trace := by
    rw [World.withStream]
    split
    · split <;> rfl
    · rfl
  rw [World.prepared, World.withCollector, World.kept]
  cases settings.httpEnabled.isTruthy with
  | false =>
      simp only [Bool.false_eq_true, if_false, Bool.false_and, List.append_nil]
      exact streamed
  | true =>
      simp only [if_true, Bool.true_and, ← streamed]
      cases lending.client with
      | some label => exact (List.append_nil _).symm
      | none => cases lending.keepsResources <;> rfl

/-- Trying the metrics file comes to nothing only if it is asked for and what keeps it from
being opened is none of the system; a failure of the system leaves a warning. -/
theorem tried_cases {homes : Homes} {settings : Settings} (lending : Lending) {world : World}
    {opening : Except Failure FileHandle} {files : FileTree}
    (tries : FileTree.openMetricsFile homes world.files settings.metricsFile = (opening, files)) :
    (∃ later, tried homes settings lending world
        = (.ok (settings.metricsFile.isTruthy && opening.isOk), later)
      ∧ (∀ failure, opening = .error failure → settings.metricsFile.isTruthy = true →
        failure.isSystem = true)
      ∧ later.trace = world.trace ++ ((warnings settings opening).filter fun entry =>
        world.levels.lets entry.logger entry.event.severity).map Event.log)
    ∨ ∃ failure later, tried homes settings lending world = (.error failure, later)
      ∧ settings.metricsFile.isTruthy = true ∧ opening = .error failure
      ∧ failure.isSystem = false := by
  rw [tried, tries]
  cases truthy : settings.metricsFile.isTruthy with
  | false =>
      refine .inl ⟨world, rfl, fun _ _ => nofun, ?_⟩
      cases opening with
      | ok handle => exact (List.append_nil _).symm
      | error failure =>
          simp only [warnings, truthy, Bool.false_eq_true, if_false]
          exact (List.append_nil _).symm
  | true =>
      simp only [if_true, Bool.true_and]
      cases opening with
      | ok handle =>
          refine .inl ⟨_, rfl, nofun, ?_⟩
          rw [World.withFile, World.kept]
          cases lending.keepsResources <;> exact (List.append_nil _).symm
      | error failure =>
          dsimp only
          cases system : failure.isSystem with
          | false => exact .inr ⟨failure, _, rfl, trivial, rfl, system⟩
          | true =>
              refine .inl ⟨_, rfl, ?_, ?_⟩
              · intro other same _
                obtain rfl := Except.error.inj same
                exact system
              · simp only [warnings, truthy, if_true]
                exact World.trace_logged _ _

/-- Among valid settings only a hopeless path keeps the metrics file from being opened
without the system having a part in it. -/
theorem hopeless_of_valid {settings : Settings} (valid : settings.Valid) {homes : Homes}
    {files : FileTree} {failure : Failure} (truthy : settings.metricsFile.isTruthy = true)
    (failed : (FileTree.openMetricsFile homes files settings.metricsFile).1 = .error failure)
    (other : failure.isSystem = false) :
    ∃ path, settings.metricsFile = .text path ∧ (Path.ofText path).Hopeless homes failure
      ∧ ¬ path.PlainPath := by
  obtain ⟨path, is_path⟩ := valid.metricsFile
  rw [is_path] at truthy failed ⊢
  cases path with
  | none => cases truthy
  | some path =>
      refine ⟨path, rfl, (FileTree.hopeless_iff failed).mpr other, fun plain => ?_⟩
      rw [FileTree.isSystem_of_plain plain failed] at other
      cases other

section Ends

variable {settings : Settings} (valid : settings.Valid) (homes : Homes) (network : Network)
  (lending : Lending) (world : World)

include valid

/-- Building fails if and only if the metrics file is asked for and what keeps it from being
opened is none of the system. -/
theorem build_error_iff (failure : Failure) :
    ((build homes network settings lending).run.run world).1 = .error failure
      ↔ settings.telemetryEnabled = true ∧ settings.metricsFile.isTruthy = true
        ∧ (FileTree.openMetricsFile homes world.files settings.metricsFile).1 = .error failure
        ∧ failure.isSystem = false := by
  rw [run_build homes network lending valid world]
  cases settings.telemetryEnabled with
  | false =>
      rw [if_neg Bool.false_ne_true]
      refine ⟨nofun, ?_⟩
      rintro ⟨⟨⟩, _⟩
  | true =>
      rw [if_pos rfl]
      rcases tried_cases lending (Prod.eta _).symm with ⟨later, is_tried, system, _⟩
        | ⟨cause, later, is_tried, truthy, failed, other⟩
      · rw [is_tried]
        refine ⟨nofun, ?_⟩
        rintro ⟨_, truthy, failed, other⟩
        rw [system failure failed truthy] at other
        cases other
      · rw [is_tried]
        constructor
        · intro same
          obtain rfl := Except.error.inj same
          exact ⟨rfl, truthy, failed, other⟩
        · rintro ⟨_, _, same, _⟩
          exact congrArg _ (Except.error.inj (failed.symm.trans same))

/-- What is built is the fan-out over the sinks that are asked for, and what is noted is a
warning about a metrics file that was not opened and a session that was built. -/
theorem build_ok {sink : Sink}
    (builds : ((build homes network settings lending).run.run world).1 = .ok sink) :
    let opening := (FileTree.openMetricsFile homes world.files settings.metricsFile).1
    sink = .fanout (asked settings lending opening.isOk) LoggerName.fanout
      ∧ ((build homes network settings lending).run.run world).2.trace
        = world.trace ++ if settings.telemetryEnabled then
            ((warnings settings opening).filter fun entry =>
              world.levels.lets entry.logger entry.event.severity).map Event.log
            ++ (if settings.httpEnabled.isTruthy && lending.client.isNone then
              [.clientBuilt settings.httpTimeout] else [])
          else [] := by
  intro opening
  rw [run_build homes network lending valid world] at builds ⊢
  cases enabled : settings.telemetryEnabled with
  | false =>
      rw [enabled, if_neg Bool.false_ne_true] at builds
      obtain rfl := Except.ok.inj builds
      refine ⟨?_, (List.append_nil _).symm⟩
      rw [asked, enabled]
      rfl
  | true =>
      rw [enabled, if_pos rfl] at builds
      rw [if_pos rfl, if_pos rfl]
      rcases tried_cases lending (Prod.eta _).symm with ⟨later, is_tried, _, trace⟩
        | ⟨cause, later, is_tried, _, _, _⟩
      · rw [is_tried] at builds ⊢
        obtain rfl := Except.ok.inj builds
        refine ⟨?_, ?_⟩
        · rw [asked, asked, ← Bool.and_assoc, Bool.and_self]
        · dsimp only
          rw [trace_prepared, trace, List.append_assoc]
      · rw [is_tried] at builds
        cases builds

end Ends

/-- **The reporter that resolved settings ask for is built unless the path of the metrics
file is hopeless.**  Building fails if and only if the metrics file is asked for and
what keeps it from being opened is none of the system, and this never happens to a
path that is written plainly.  What is built is the fan-out over the sinks that are
asked for, in their order; a metrics file that the system does not let be opened
is left out with one warning. -/
theorem build_outcome {sources : Sources} {settings : Settings}
    (resolved : Settings.resolve sources = .ok settings) (homes : Homes) (network : Network)
    (lending : Lending) (world : World) :
    let opening := (FileTree.openMetricsFile homes world.files settings.metricsFile).1
    let done := (build homes network settings lending).run.run world
    (∀ failure, done.1 = .error failure ↔ settings.telemetryEnabled = true
        ∧ settings.metricsFile.isTruthy = true ∧ opening = .error failure
        ∧ failure.isSystem = false)
      ∧ (∀ failure, done.1 = .error failure → ∃ path, settings.metricsFile = .text path
        ∧ (Path.ofText path).Hopeless homes failure ∧ ¬ path.PlainPath)
      ∧ ∀ sink, done.1 = .ok sink →
        sink = .fanout (asked settings lending opening.isOk) LoggerName.fanout
          ∧ done.2.trace = world.trace ++ if settings.telemetryEnabled then
              ((warnings settings opening).filter fun entry =>
                world.levels.lets entry.logger entry.event.severity).map Event.log
              ++ (if settings.httpEnabled.isTruthy && lending.client.isNone then
                [.clientBuilt settings.httpTimeout] else [])
            else [] := by
  intro opening done
  have valid := Settings.valid_of_resolve resolved
  have fails := build_error_iff valid homes network lending world
  refine ⟨fails, fun failure failed => ?_,
    fun sink builds => build_ok valid homes network lending world builds⟩
  obtain ⟨_, truthy, refused, other⟩ := (fails failure).mp failed
  exact hopeless_of_valid valid truthy refused other

/-- The directory above is no metrics file; the other sinks are there. -/
theorem build_outcome_directory :
    let sources : Sources := ⟨[("metrics_file", .text ".."), ("stdout", .bool true)], [], []⟩
    let settings : Settings :=
      { Settings.standard with metricsFile := .text "..", stdout := .bool true }
    let lending : Lending := ⟨none, some (.given "client"), true⟩
    let done := (build ⟨"/home", []⟩ ⟨[], 200⟩ settings lending).run.run
      (World.initial ⟨[], [], []⟩ [])
    Settings.resolve sources = .ok settings
      ∧ done.1 = .ok (.fanout [.stream .console LoggerName.stream,
        .http (.given "client") LoggerName.http] LoggerName.fanout)
      ∧ done.2.trace = [.log ⟨LoggerName.reporter,
        .fileUnavailable (.text "..") (.file .isADirectory "..")⟩] := by
  intro sources settings lending done
  have resolved : Settings.resolve sources = .ok settings := rfl
  have opening : (FileTree.openMetricsFile ⟨"/home", []⟩ ⟨[], [], []⟩ (.text "..")).1
      = .error (.file .isADirectory "..") := rfl
  obtain ⟨fails, _, builds⟩ := build_outcome resolved ⟨"/home", []⟩ ⟨[], 200⟩
    lending (World.initial ⟨[], [], []⟩ [])
  cases ending : done.1 with
  | error failure =>
      obtain ⟨_, _, failed, other⟩ := (fails failure).mp ending
      obtain rfl := Except.error.inj (opening.symm.trans failed)
      cases other
  | ok sink =>
      obtain ⟨is_sink, trace⟩ := builds sink ending
      refine ⟨resolved, ?_, ?_⟩
      · rw [is_sink]
        rfl
      · exact trace

/-- A home directory that nobody has ends the building, which the system has no part
in. -/
example : ((build ⟨"/home", []⟩ ⟨[], 200⟩
    { Settings.standard with metricsFile := .text "~nobody/heartbeats" }
    Lending.onlyResources).run.run (World.initial ⟨[], [], []⟩ [])).1 = .error .homeless := rfl

end Reporter

end Heartbeat
