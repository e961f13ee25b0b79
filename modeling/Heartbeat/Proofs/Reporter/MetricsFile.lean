import Heartbeat.Proofs.Delivery.MetricsFile
import Heartbeat.Proofs.Files.Paths
import Heartbeat.Proofs.Files.Reopening
import Heartbeat.Proofs.Reporter.Quiet

/-!
# The reporter for an open metrics file

Where the metrics file can be opened, the reporter has it in the first place, and the sinks
beside it touch no file (`Reporter.build_of_opens`).  The metrics file is empty-handed then:
it was just opened, and nothing waits to be written to it.
-/

namespace Heartbeat

set_option autoImplicit false

open Delivery

/-- A text counts as true if there is something in it. -/
theorem Value.isTruthy_text {content : Text} (occupied : content ≠ []) :
    (Value.text content).isTruthy = true := by
  simpa [isTruthy] using occupied

/-- It makes no difference whether a path is opened as it was written or as the text of what
it was taken apart to. -/
theorem FileTree.openMetricsFile_toText (homes : Homes) (tree : FileTree) (path : Text) :
    openMetricsFile homes tree (.text (Path.ofText path).toText)
      = openMetricsFile homes tree (.text path) := by
  rw [openMetricsFile_text, openMetricsFile_text, Path.ofText_toText_ofText]

theorem World.destination_withFile (world : World) (lending : Lending) (handle : FileHandle) :
    (world.withFile lending handle).destination
      = (world.setDestination .metricsFile (.file handle)).destination := by
  rw [withFile, kept]
  split
  · rfl
  · rfl

/-- Making the sinks beside that for the metrics file leaves the files alone. -/
theorem World.files_prepared {world : World} (printed : world.destination .console = .console)
    (settings : Settings) (lending : Lending) (network : Network) :
    let later := world.prepared settings lending network
    later.destination .console = .console
      ∧ later.destination .metricsFile = world.destination .metricsFile
      ∧ later.files = world.files ∧ later.troubles = world.troubles := by
  have streamed : let later := if settings.stdout.isTruthy then world.withStream lending else world
      later.destination .console = .console
        ∧ later.destination .metricsFile = world.destination .metricsFile
        ∧ later.files = world.files ∧ later.troubles = world.troubles := by
    rw [withStream]
    split
    · split
      · exact ⟨printed, rfl, rfl, rfl⟩
      · exact ⟨world.setDestination_self _ _, world.setDestination_of_ne (by decide) _, rfl, rfl⟩
    · exact ⟨printed, rfl, rfl, rfl⟩
  intro later
  rw [show later = world.prepared settings lending network from rfl, prepared]
  generalize (if settings.stdout.isTruthy then world.withStream lending else world) = found
    at streamed ⊢
  rw [withCollector, kept]
  split
  · split
    · exact streamed
    · split
      · exact streamed
      · exact streamed
  · exact streamed

namespace Reporter

/-- The metrics file comes first where it could be opened. -/
theorem asked_of_opened {settings : Settings} (enabled : settings.telemetryEnabled = true)
    (truthy : settings.metricsFile.isTruthy = true) (lending : Lending) :
    ∃ members, asked settings lending true = .stream .metricsFile LoggerName.stream :: members
      ∧ ∀ member ∈ members, member = .stream (lending.stream.getD .console) LoggerName.stream
        ∨ member = .http (lending.client.getD .session) LoggerName.http := by
  rw [asked, enabled, truthy]
  refine ⟨_, rfl, ?_⟩
  intro member among
  obtain ⟨row, listed, rfl⟩ := List.mem_map.mp among
  have rows := (List.mem_filter.mp listed).1
  simp only [List.mem_cons, List.not_mem_nil, or_false] at rows
  rcases rows with rfl | rfl
  · exact .inl rfl
  · exact .inr rfl

/-- No other file is opened. -/
theorem eq_metricsFile_of_mem_opens {filed posted : Bool} {label : Label}
    (listed : .file label ∈ opens filed posted) : label = .metricsFile := by
  rw [opens, List.mem_append] at listed
  rcases listed with session | file
  · split at session
    · cases List.mem_singleton.mp session
    · cases session
  · split at file
    · cases List.mem_singleton.mp file
      rfl
    · cases file

/-- What was opened closes safely where the metrics file keeps what it is given. -/
theorem closesSafely_of_opened {built : World} {handle : FileHandle} {content : Bytes}
    {filed posted : Bool} (registered : built.resources = opens filed posted)
    (file : built.destination .metricsFile = .file handle)
    (found : built.files.content? handle.location = some content)
    (close : built.troubles.fileClose = none) (session : built.troubles.sessionClose = none) :
    built.ClosesSafely := by
  constructor
  · intro label listed
    rw [registered] at listed
    refine ⟨close, ?_⟩
    rw [eq_metricsFile_of_mem_opens listed, file]
    intro place is_place
    obtain rfl := Option.some.inj is_place
    rw [FileTree.isFull, FileTree.content?_eq_some_iff.mp found]
    rfl
  · intro label _
    exact session

section Built

variable {settings : Settings} (valid : settings.Valid)
  (enabled : settings.telemetryEnabled = true) {path : Text}
  (file : settings.metricsFile = .text (Path.ofText path).toText)
  {homes : Homes} {world : World} {handle : FileHandle} {opened : FileTree}
  (opens : FileTree.openMetricsFile homes world.files (.text path) = (.ok handle, opened))
  (printed : world.destination .console = .console)

include valid enabled file opens printed

/-- **The reporter for a metrics file that can be opened** writes to it first, and then to
sinks that touch no file. -/
theorem build_of_opens (network : Network) :
    ∃ members built, (build homes network settings Lending.onlyResources).run.run world
        = (.ok (.fanout (.stream .metricsFile LoggerName.stream :: members) LoggerName.fanout),
          built)
      ∧ (∀ member ∈ members, member.Aside)
      ∧ built.destination .metricsFile = .file handle ∧ built.destination .console = .console
      ∧ built.files = opened ∧ built.troubles = world.troubles := by
  have truthy : settings.metricsFile.isTruthy = true := by
    rw [file]
    exact Value.isTruthy_text (Path.toText_ne_nil (Path.normal_ofText path))
  have is_tried : tried homes settings Lending.onlyResources world
      = (.ok true, { world with files := opened }.withFile Lending.onlyResources handle) := by
    rw [tried, if_pos truthy, file, FileTree.openMetricsFile_toText, opens]
  obtain ⟨members, listed, beside⟩ := asked_of_opened enabled truthy Lending.onlyResources
  have still : (({ world with files := opened } : World).withFile Lending.onlyResources
      handle).destination .console = .console := by
    rw [World.destination_withFile, World.setDestination_of_ne _ (by decide)]
    exact printed
  obtain ⟨console, metrics, files, troubles⟩ :=
    World.files_prepared still settings Lending.onlyResources network
  refine ⟨members, _, ?_, ?_, ?_, console, files, troubles⟩
  · rw [run_build homes network Lending.onlyResources valid, if_pos enabled, is_tried]
    dsimp only
    rw [listed]
  · intro member among
    rcases beside member among with rfl | rfl
    · exact .console _
    · exact .collector _ _
  · rw [metrics, World.destination_withFile, World.setDestination_self]

end Built

end Reporter

end Heartbeat
