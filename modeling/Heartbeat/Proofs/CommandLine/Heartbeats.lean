import Heartbeat.Proofs.CommandLine.Arguments
import Heartbeat.Proofs.CommandLine.Outcome
import Heartbeat.Proofs.Reporter.MetricsFile

/-!
# Heartbeats sent one after the other

A call that sends a heartbeat into a metrics file adds its line to the file and ends with
zero, whatever becomes of the heartbeat elsewhere (`Application.call_report`).  Afterwards
the file can be opened by the same path, the settings are what they were, and every other
file is as it was; so the next call does the same.  After any number of calls the file has
the lines of all heartbeats in their order behind what was in it before
(`Application.calls_append`).

This takes a metrics file that keeps what it is given.  A device is opened like a file but
keeps nothing (`Application.call_report_device`).
-/

namespace Heartbeat

set_option autoImplicit false

open Delivery

/-! ## Calls -/

/-- One call that sends a heartbeat: what is said on its command line, the message that this
is, and how the network treats what is posted. -/
structure Dispatch where
  said : List Said
  message : Message
  network : Network

namespace Dispatch

/-- The call that it is, in circumstances that differ in the network only. -/
def call (circumstances : Circumstances) (dispatch : Dispatch) : Circumstances × List Text :=
  ({ circumstances with network := dispatch.network },
    "report" :: dispatch.said.flatMap Said.words)

/-- What is said is the message, its texts can be written, and the network raises no request
to stop. -/
structure Sound (path : Text) (dispatch : Dispatch) : Prop where
  sends : Said.Sends dispatch.said path dispatch.message
  clean : dispatch.message.Clean
  reachable : Ordinary dispatch.network.failures

/-- The lines of heartbeats one after the other. -/
def lines (dispatches : List Dispatch) : Bytes :=
  dispatches.flatMap fun dispatch => dispatch.message.line

end Dispatch

/-- Nothing keeps the metrics file from being written and closed, nor the session from being
closed, and no trouble is a request to stop. -/
structure Troubles.SpareFile (troubles : Troubles) : Prop where
  write : troubles.fileWrite = none
  flush : troubles.fileFlush = none
  close : troubles.fileClose = none
  session : troubles.sessionClose = none
  ordinary : Ordinary troubles.outcomes

namespace Application

/-- Calls one after the other. -/
def callEach : List (Circumstances × List Text) → Application → List Ending × Application
  | [], application => ([], application)
  | (circumstances, line) :: calls, application =>
    let (ending, later) := call circumstances application line
    let (endings, last) := callEach calls later
    (ending :: endings, last)

/-- The settings are known, and a path leads to a metrics file that keeps what it is given:
to a file, or to nothing yet. -/
structure Receives (circumstances : Circumstances) (settings : Settings) (path : Text)
    (handle : FileHandle) (opened : FileTree) (application : Application) : Prop where
  resolved : Settings.resolve (sources circumstances application) = .ok settings
  opens : FileTree.openMetricsFile circumstances.homes application.files (.text path)
    = (.ok handle, opened)
  no_device : ∀ device, application.files.lookup? handle.location ≠ some (.device device)
  spared : application.troubles.SpareFile

variable {circumstances : Circumstances} {application : Application} {line : List Text}
  {settings : Settings} {invocation : Invocation} {log : LogSetup}

/-! ## One heartbeat -/

/-- A heartbeat is handed to the reporter and logged. -/
theorem run_report_of_builds {sink : Sink} {start built later : World} (message : Message)
    (builds : (Reporter.build circumstances.homes circumstances.network settings
      Lending.onlyResources).run.run start = (.ok sink, built))
    (returned : (sink.report message.record).run.run built = (.ok (), later)) :
    (tracker circumstances settings message.context message.source >>= fun tracker =>
        tracker.report (.text message.command) (.status message.status) >>= fun _ =>
          pure Ending.success : Delivery Value).run.run start
      = (.ok Ending.success,
        later.logged ⟨LoggerName.tracker, .reported (.text message.command) message.status⟩) := by
  let sender : Tracker :=
    ⟨sink, Value.ofText? message.context, Value.ofText? message.source, LoggerName.tracker⟩
  have is_sender : (tracker circumstances settings message.context message.source).run.run start
      = (.ok sender, built) := by
    rw [tracker, run_bind_of_ok builds]
    rfl
  exact run_report_of_tracker is_sender
    (sender.report_of_returns (.text message.command) message.status returned)

section Performing

variable (circumstances : Circumstances) {overrides : Overrides}
  (valid : (settings.override overrides).Valid)
  (enabled : (settings.override overrides).telemetryEnabled = true) {path : Text}
  (file : (settings.override overrides).metricsFile = .text (Path.ofText path).toText)
  (start : World) {handle : FileHandle} {opened : FileTree}
  (opens : FileTree.openMetricsFile circumstances.homes start.files (.text path)
    = (.ok handle, opened))
  {content : Bytes} (found : opened.content? handle.location = some content)
  (printed : start.destination .console = .console) (fresh : start.resources = [])
  (quiet : start.Quiet) (reachable : Ordinary circumstances.network.failures)
  (spared : start.troubles.SpareFile) {message : Message} (clean : message.Clean)

include valid enabled file opens found printed fresh quiet reachable spared clean

/-- **A heartbeat that is sent ends with zero and adds its line to the metrics file.** -/
theorem perform_report_of_opens :
    let done := (perform circumstances settings (.report message.command message.context
      message.source message.status overrides)).run.run start
    done.1 = .ok Ending.success ∧ done.2.files = opened.appendTo handle.location message.line := by
  intro done
  obtain ⟨idle, is_open⟩ := FileTree.handle_of_opens opens
  obtain ⟨members, built, builds, aside, is_file, console, files, troubles⟩ :=
    Reporter.build_of_opens valid enabled file opens printed circumstances.network
  obtain ⟨still, ⟨filed, posted, registered⟩, _, _, _, harmless⟩ :=
    Reporter.build_quiet valid reachable quiet fresh builds
  have here : built.files.content? handle.location = some content := files ▸ found
  have safely : built.ClosesSafely := Reporter.closesSafely_of_opened registered is_file here
    (troubles ▸ spared.close) (troubles ▸ spared.session)
  -- The heartbeat is handed over and logged, and then everything is closed.
  obtain ⟨later, returned, calm⟩ := Sink.returns_of_quiet
    (Record.quiet_of_status (.text message.command) (Value.ofText? message.context)
      (Value.ofText? message.source) message.status) harmless (World.Calm.refl still)
  have delivered := run_report_of_builds message builds returned
  have settled := Sink.settled_report is_file idle is_open here (troubles ▸ spared.write)
    (troubles ▸ spared.flush) console (Message.encode_record clean) aside LoggerName.stream
    LoggerName.fanout
  have reported : (((Sink.fanout (.stream .metricsFile LoggerName.stream :: members)
      LoggerName.fanout).report message.record).run.run built).2 = later :=
    congrArg Prod.snd returned
  rw [reported, files] at settled
  have noted := calm.logged
    ⟨LoggerName.tracker, .reported (.text message.command) message.status⟩
  constructor
  · have once := Reporter.nodup_opens filed posted
    rw [← registered, ← noted.resources] at once
    have closed := run_closing delivered once
    rw [noted.closingFailure_eq_none safely] at closed
    exact closed
  · have only : ∀ label, .file label ∈ built.resources → label = .metricsFile := by
      intro label listed
      rw [registered] at listed
      exact Reporter.eq_metricsFile_of_mem_opens listed
    rw [← noted.resources] at only
    have ends := congrArg (fun ending => (closeAll.run.run ending.2).2) delivered
    rw [show done.2 = _ from (world_closing _ start).trans ends]
    exact ((settled.logged _).closeAll only).files

end Performing

section Calling

variable {path : Text} {handle : FileHandle} {opened : FileTree}
  (receives : application.Receives circumstances settings path handle opened)

include receives

/-- **A call that sends a heartbeat ends with zero and adds its line to the metrics file.** -/
theorem call_report (enabled : settings.telemetryEnabled = true) {level : LogLevel}
    (known : LogSetup.levelOf (.text settings.logLevel) = .ok level) {dispatch : Dispatch}
    (sound : dispatch.Sound path) :
    let done := call (dispatch.call circumstances).1 application (dispatch.call circumstances).2
    done.1.result = .ok Ending.success
      ∧ done.2.files = opened.appendTo handle.location dispatch.message.line
      ∧ done.2.troubles = application.troubles := by
  intro done
  let overrides := Invocation.overridesOf ⟨dispatch.said.map Said.option, []⟩
  let log : LogSetup :=
    ⟨level, if application.log.handlers = 0 then 1 else application.log.handlers⟩
  let message := dispatch.message
  have plain := FileTree.zero_notMem_of_opens receives.opens
  have understands : application.Understands (dispatch.call circumstances).1
      (dispatch.call circumstances).2 settings
      (.report message.command message.context message.source message.status overrides) log := by
    refine ⟨receives.resolved, ⟨.report, _, Invocation.select_report _,
      Invocation.ofArguments_words sound.sends plain⟩, ?_⟩
    rw [LogSetup.configure, known]
  obtain ⟨_, _, _, read⟩ := understands.read
  have switches := Invocation.sound_of_read read
  have valid := (Settings.valid_of_resolve receives.resolved).override switches.1 switches.2
  have file : (settings.override overrides).metricsFile = .text (Path.ofText path).toText := by
    rw [Settings.override, Invocation.metricsFile_said sound.sends]
    rfl
  have found := FileTree.content?_of_opens receives.opens receives.no_device
  obtain ⟨ended, files⟩ := perform_report_of_opens (dispatch.call circumstances).1 valid enabled
    file (start { application with log }) receives.opens found rfl rfl
    (quiet_start receives.spared.ordinary) sound.reachable receives.spared sound.clean
  have ending : done.1 = _ := call_of_understands understands
  have left : done.2 = _ := left_of_understands understands
  refine ⟨?_, ?_, ?_⟩
  · rw [ending, ended]
    rfl
  · rw [left]
    exact files
  · rw [left]

/-- Where a line was added the application is as ready as before, and nothing else has
changed. -/
theorem Receives.next
    (apart : handle.location ≠ application.files.workingDirectory ++ [(".env" : Text)])
    {later : Application} {data : Bytes}
    (files : later.files = opened.appendTo handle.location data)
    (troubles : later.troubles = application.troubles) :
    later.Receives circumstances settings path handle later.files
      ∧ later.files.workingDirectory = application.files.workingDirectory
      ∧ later.files.content? handle.location
        = some ((application.files.content? handle.location).getD [] ++ data)
      ∧ ∀ place, place ≠ handle.location →
        later.files.content? place = application.files.content? place := by
  have found := FileTree.content?_of_opens receives.opens receives.no_device
  have grown := FileTree.content?_appendTo found data
  have same := opened.sameBut_appendTo handle.location data
  have elsewhere : ∀ place, place ≠ handle.location →
      later.files.content? place = application.files.content? place := by
    intro place other
    rw [files, FileTree.content?_appendTo_of_ne other,
      FileTree.content?_elsewhere_of_opens receives.opens other]
  have workplace : later.files.workingDirectory = application.files.workingDirectory := by
    rw [files, same.workingDirectory]
    exact (FileTree.keepsDirectories_of_opens receives.opens).workingDirectory
  have keeps : FileTree.KeepsDirectories opened later.files := by
    rw [files]
    apply FileTree.KeepsDirectories.of_sameBut same
    rw [FileTree.content?_eq_some_iff.mp found]
    exact nofun
  rw [← files] at grown
  refine ⟨⟨?_, ?_, ?_, ?_⟩, workplace, grown, elsewhere⟩
  · have assigned :
        Sources.fileVariables later.files = Sources.fileVariables application.files := by
      rw [Sources.fileVariables, Sources.fileVariables, workplace, elsewhere _ apart.symm]
    rw [sources, assigned]
    exact receives.resolved
  · exact FileTree.opens_again receives.opens keeps grown
  · intro device
    rw [FileTree.content?_eq_some_iff.mp grown]
    exact nofun
  · rw [troubles]
    exact receives.spared

end Calling

/-! ## Heartbeats one after the other -/

/-- **Calls that send heartbeats add their lines to the metrics file, in their order.**  Let
the settings be known, with telemetry and a level that is one, and let a path lead to a
metrics file that keeps what it is given and is not the environment file.  Then every call
that sends a heartbeat there ends with zero, whatever else it asks for and whatever the
network does.  At the end the file has what was in it before and behind that one line for
each call, and every other file is as it was. -/
theorem calls_append {path : Text} {handle : FileHandle} {opened : FileTree}
    (receives : application.Receives circumstances settings path handle opened)
    (enabled : settings.telemetryEnabled = true) {level : LogLevel}
    (known : LogSetup.levelOf (.text settings.logLevel) = .ok level)
    (apart : handle.location ≠ application.files.workingDirectory ++ [(".env" : Text)])
    {dispatches : List Dispatch} (sound : ∀ dispatch ∈ dispatches, dispatch.Sound path) :
    let done := callEach (dispatches.map (Dispatch.call circumstances)) application
    done.1.map Ending.result = dispatches.map (fun _ => .ok (.int 0))
      ∧ (dispatches ≠ [] → done.2.files.content? handle.location
        = some ((application.files.content? handle.location).getD [] ++ Dispatch.lines dispatches))
      ∧ ∀ place, place ≠ handle.location →
        done.2.files.content? place = application.files.content? place := by
  induction dispatches generalizing application opened with
  | nil => exact ⟨rfl, fun none => absurd rfl none, fun _ _ => rfl⟩
  | cons dispatch dispatches hypothesis =>
      obtain ⟨ended, files, troubles⟩ :=
        call_report receives enabled known (sound dispatch (List.mem_cons_self ..))
      have next := receives.next apart files troubles
      intro done
      generalize called : call (dispatch.call circumstances).1 application
        (dispatch.call circumstances).2 = result at ended next
      obtain ⟨ending, later⟩ := result
      dsimp only at ended next
      obtain ⟨ready, workplace, grown, elsewhere⟩ := next
      obtain ⟨results, appended, spared⟩ := hypothesis ready (workplace ▸ apart)
        fun other inside => sound other (List.mem_cons_of_mem _ inside)
      have is_done : done = (ending :: (callEach (dispatches.map (Dispatch.call circumstances))
          later).1, (callEach (dispatches.map (Dispatch.call circumstances)) later).2) := by
        show callEach (_ :: _) application = _
        rw [callEach, called]
      rw [is_done]
      refine ⟨?_, ?_, ?_⟩
      · rw [List.map_cons, List.map_cons, results, ended]
        rfl
      · intro _
        by_cases last : dispatches = []
        · subst last
          simpa [callEach, Dispatch.lines] using grown
        · rw [appended last, grown]
          simp [Dispatch.lines]
      · intro place other
        exact (spared place other).trans (elsewhere place other)

/-- Two heartbeats go into a new file below a new directory, though the network is down for
the first. -/
theorem calls_append_new_directory :
    let circumstances : Circumstances :=
      ⟨[], ⟨"/home", []⟩, ⟨[], 200⟩, Runner.scripted (.exited (.int 0))⟩
    let application := fresh ⟨[([("notes" : Text)], .file [0x61])], [], []⟩
    let first : Dispatch :=
      ⟨[.given .command "up" true, .given .context [] true, .given .file "beats/log" false,
        .turned .stdout true], ⟨"up", some [], none, .success⟩,
        ⟨[some (.external .transportConnection "down")], 200⟩⟩
    let second : Dispatch :=
      ⟨[.given .status "failure" false, .given .file "beats/log" false,
        .given .command "down" true], ⟨"down", none, none, .failure⟩, ⟨[], 500⟩⟩
    let done := callEach ([first, second].map (Dispatch.call circumstances)) application
    done.1.map Ending.result = [.ok (.int 0), .ok (.int 0)]
      ∧ done.2.files.content? ["beats", "log"] = some (first.message.line ++ second.message.line)
      ∧ done.2.files.content? ["notes"] = some [0x61] := by
  intro circumstances application first second done
  have receives : application.Receives circumstances Settings.standard "beats/log"
      ⟨"beats/log", ["beats", "log"], [], false⟩
      (FileTree.openMetricsFile circumstances.homes application.files (.text "beats/log")).2 := by
    refine ⟨rfl, rfl, ?_, ⟨rfl, rfl, rfl, rfl, ?_⟩⟩
    · intro device
      show (none : Option FileEntry) ≠ _
      exact nofun
    · intro failure listed
      exact absurd listed (by simp [Troubles.outcomes, application, fresh])
  have sound : ∀ dispatch ∈ [first, second], dispatch.Sound "beats/log" := by
    intro dispatch listed
    simp only [List.mem_cons, List.not_mem_nil, or_false] at listed
    rcases listed with rfl | rfl
    · have clean : (⟨"up", some [], none, .success⟩ : Message).Clean := by decide +kernel
      refine ⟨⟨rfl, rfl, rfl, rfl, .inr ⟨rfl, rfl⟩⟩, clean, ?_⟩
      intro failure listed
      obtain rfl := Option.some.inj (List.mem_singleton.mp listed)
      rfl
    · have clean : (⟨"down", none, none, .failure⟩ : Message).Clean := by decide +kernel
      refine ⟨⟨rfl, rfl, rfl, rfl, .inl rfl⟩, clean, ?_⟩
      intro failure listed
      cases listed
  obtain ⟨results, appended, elsewhere⟩ := calls_append receives rfl rfl (by decide) sound
  have written := appended (List.cons_ne_nil first [second])
  have both : Dispatch.lines [first, second] = first.message.line ++ second.message.line := by
    rw [Dispatch.lines, List.flatMap_cons, List.flatMap_cons, List.flatMap_nil, List.append_nil]
  have before : application.files.content? ["beats", "log"] = none := rfl
  dsimp only at written
  rw [both, before, Option.getD_none, List.nil_append] at written
  have other : [("notes" : Text)] ≠ [("beats" : Text), "log"] := by decide
  have notes : application.files.content? ["notes"] = some [0x61] := rfl
  have is_done : done = callEach ([first, second].map (Dispatch.call circumstances)) application :=
    rfl
  rw [is_done]
  exact ⟨results, written, (elsewhere ["notes"] other).trans notes⟩

/-- Whether a call ends with zero can be computed. -/
theorem eq_success_of_matches {result : Except Refusal Value}
    (succeeds : (result matches .ok (.int 0)) = true) : result = .ok (.int 0) := by
  split at succeeds
  · rfl
  · cases succeeds

/-- A device that forgets everything is opened and written to without a failure, and the
heartbeat is not there afterwards, though nothing but that it is a device is amiss. -/
theorem call_report_device :
    let circumstances : Circumstances :=
      ⟨[], ⟨"/home", []⟩, ⟨[], 200⟩, Runner.scripted (.exited (.int 0))⟩
    let application := fresh
      ⟨[([("dev" : Text)], .directory), ([("dev" : Text), "null"], .device .null)], [], []⟩
    let dispatch : Dispatch :=
      ⟨[.given .command "up" true, .given .file "/dev/null" false, .turned .http false],
        ⟨"up", none, none, .success⟩, ⟨[], 200⟩⟩
    let place : Location := ["dev", "null"]
    let done := call (dispatch.call circumstances).1 application (dispatch.call circumstances).2
    Settings.resolve (sources circumstances application) = .ok Settings.standard
      ∧ Settings.standard.telemetryEnabled = true
      ∧ LogSetup.levelOf (.text Settings.standard.logLevel) = .ok (.number 30)
      ∧ FileTree.openMetricsFile circumstances.homes application.files (.text "/dev/null")
        = (.ok ⟨"/dev/null", place, [], false⟩, application.files)
      ∧ place ≠ application.files.workingDirectory ++ [(".env" : Text)]
      ∧ application.troubles.SpareFile ∧ dispatch.Sound "/dev/null"
      ∧ done.1.result = .ok (.int 0)
      ∧ (done.2.files.content? place).getD []
        ≠ (application.files.content? place).getD [] ++ dispatch.message.line := by
  intro circumstances application dispatch place done
  have clean : dispatch.message.Clean := by decide +kernel
  have ended : done.1.result = .ok (.int 0) := eq_success_of_matches (by decide +kernel)
  have lost : (done.2.files.content? place).getD []
      ≠ (application.files.content? place).getD [] ++ dispatch.message.line := by decide +kernel
  refine ⟨rfl, rfl, rfl, rfl, by decide, ⟨rfl, rfl, rfl, rfl, ?_⟩,
    ⟨⟨rfl, rfl, rfl, rfl, .inr ⟨rfl, rfl⟩⟩, clean, ?_⟩, ended, lost⟩
  · intro failure listed
    exact absurd listed (by simp [Troubles.outcomes, application, fresh])
  · intro failure listed
    cases listed

end Application

end Heartbeat
