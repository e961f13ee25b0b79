import Heartbeat.Proofs.Delivery.Actions
import Heartbeat.Proofs.Delivery.Closing

/-!
# Heartbeats in the metrics file

A file that was opened for appending takes what the sink for it writes, and the sink flushes
after each line, so a heartbeat is in the file as soon as it was reported
(`Sink.run_reportToMetricsFile`).  The sinks for the standard output and for the collector
leave the files alone, whatever they run into (`Sink.spares_reportToMembers`).

So after a whole report the files are at rest: the line is in the metrics file, and nothing
waits in the handle (`Sink.settled_report`).  Closing what was opened finds nothing to be
written then, and leaves the files at rest as well (`World.Settled.closeAll`).
-/

namespace Heartbeat

set_option autoImplicit false

open Delivery

/-! ## Using the metrics file -/

namespace World

/-- The world after the metrics file was used. -/
def used (world : World) (handle : FileHandle) (files : FileTree) : World :=
  { world.setDestination .metricsFile (.file handle) with files }

@[simp] theorem destination_used (world : World) (handle : FileHandle) (files : FileTree) :
    (world.used handle files).destination .metricsFile = .file handle :=
  world.setDestination_self .metricsFile (.file handle)

@[simp] theorem console_used (world : World) (handle : FileHandle) (files : FileTree) :
    (world.used handle files).destination .console = world.destination .console :=
  world.setDestination_of_ne (show Label.console ≠ .metricsFile by decide) (.file handle)

@[simp] theorem files_used (world : World) (handle : FileHandle) (files : FileTree) :
    (world.used handle files).files = files := rfl

/-- The last use counts. -/
@[simp] theorem used_used (world : World) (handle next : FileHandle) (files later : FileTree) :
    (world.used handle files).used next later = world.used next later := by
  have same : ((world.used handle files).setDestination .metricsFile (.file next)).destination
      = (world.setDestination .metricsFile (.file next)).destination := by
    funext label
    by_cases here : label = .metricsFile
    · simp [here]
    · simp [setDestination_of_ne _ here, used]
  rw [used, same]
  rfl

end World

namespace Delivery

section Using

variable {world : World} {handle : FileHandle}
  (file : world.destination .metricsFile = .file handle)

include file

theorem run_write_metricsFile (writes : world.troubles.fileWrite = none) (data : Bytes) :
    (write .metricsFile data).run.run world = ((handle.write world.files data).1,
      world.used (handle.write world.files data).2.1 (handle.write world.files data).2.2) := by
  rw [run_write, file]
  simp only [writes]
  rfl

theorem run_flush_metricsFile (flushes : world.troubles.fileFlush = none) :
    (flush .metricsFile).run.run world = ((handle.flush world.files).1,
      world.used (handle.flush world.files).2.1 (handle.flush world.files).2.2) := by
  rw [run_flush, file]
  simp only [flushes]
  rfl

end Using

end Delivery

/-- **A record is one more line at the end of the metrics file**, and nothing waits in the
handle any more. -/
theorem Sink.run_reportToMetricsFile {world : World} {handle : FileHandle} {content entry : Bytes}
    {record : Record} (file : world.destination .metricsFile = .file handle)
    (idle : handle.pending = []) (is_open : handle.closed = false)
    (found : world.files.content? handle.location = some content)
    (writes : world.troubles.fileWrite = none) (flushes : world.troubles.fileFlush = none)
    (encoded : record.encode = .ok entry) (logger : LoggerName) :
    (reportToStream .metricsFile logger record).run.run world = (.ok (),
      world.used handle (world.files.appendTo handle.location (entry ++ [lineFeed]))) := by
  obtain ⟨taken, passed⟩ := handle.flush_write found idle is_open (entry ++ [lineFeed])
  have wrote := run_write_metricsFile file writes (entry ++ [lineFeed])
  generalize handle.write world.files (entry ++ [lineFeed]) = written at taken passed wrote
  have flushed : (flush .metricsFile).run.run (world.used written.2.1 written.2.2) = (.ok (),
      world.used handle (world.files.appendTo handle.location (entry ++ [lineFeed]))) := by
    rw [run_flush_metricsFile (World.destination_used ..) flushes, World.files_used, passed]
    simp
  rw [reportToStream, run_withEntry, encoded]
  dsimp only
  rw [run_absorbing, run_bind, wrote, taken]
  dsimp only
  rw [flushed]

/-! ## What leaves the files alone -/

namespace World

/-- The files and the metrics file stay as they are, provided that the standard output is what
it should be. -/
def Spares (world later : World) : Prop :=
  world.destination .console = .console → later.destination .console = .console
    ∧ later.destination .metricsFile = world.destination .metricsFile
    ∧ later.files = world.files

instance : IsPreorder World Spares where
  refl _ printed := ⟨printed, rfl, rfl⟩
  trans first second third before after printed := by
    obtain ⟨still, file, files⟩ := before printed
    obtain ⟨yet, same, sameFiles⟩ := after still
    exact ⟨yet, same.trans file, sameFiles.trans files⟩

theorem spares_logged (world : World) (entry : LogEntry) : world.Spares (world.logged entry) := by
  intro printed
  rw [logged]
  split
  · exact ⟨printed, rfl, rfl⟩
  · exact ⟨printed, rfl, rfl⟩

end World

namespace Sink

/-- The sinks that a reporter has beside that for the metrics file. -/
inductive Aside : Sink → Prop where
  | console (logger : LoggerName) : Aside (.stream .console logger)
  | collector (client : Label) (logger : LoggerName) : Aside (.http client logger)

variable {leaf : Sink} {world later : World}

theorem Aside.isLeaf (aside : leaf.Aside) : leaf.isLeaf = true := by
  cases aside with
  | console => rfl
  | collector => rfl

/-- No action of theirs touches a file. -/
theorem Aside.spares (aside : leaf.Aside) (acts : leaf.Acts world later) : world.Spares later := by
  intro printed
  cases aside with
  | console logger =>
      cases acts with
      | note => exact ⟨printed, rfl, rfl⟩
      | @destination _ _ _ state same =>
          refine ⟨?_, World.setDestination_of_ne _ (by decide) _, rfl⟩
          rw [printed] at same
          rw [World.setDestination_self]
          cases state with
          | console => rfl
          | _ => cases same
      | file found =>
          rw [printed] at found
          cases found
      | print => exact ⟨printed, rfl, rfl⟩
  | collector client logger =>
      cases acts with
      | note => exact ⟨printed, rfl, rfl⟩
      | client => exact ⟨printed, rfl, rfl⟩

/-- **The other sinks leave the files alone**, whatever they run into. -/
theorem spares_reportToMembers {members : List Sink} (aside : ∀ member ∈ members, member.Aside)
    (logger : LoggerName) (index : Nat) (record : Record) :
    Moves World.Spares (reportToMembers logger members index record) := by
  induction members generalizing index with
  | nil => exact .pure ()
  | cons member members hypothesis =>
      have first := aside member (List.mem_cons_self ..)
      rw [reportToMembers]
      apply Moves.bind
      · apply Moves.absorbing
        · exact moves_of_acts (fun _ _ => first.spares) first.isLeaf record
        · intro failure
          exact .modify fun world => world.spares_logged _
      · intro _
        exact hypothesis (fun other inside => aside other (List.mem_cons_of_mem _ inside)) _

end Sink

/-! ## Files at rest -/

/-- The files are the given ones, the metrics file is one of them, and nothing waits to be
written to it. -/
structure World.Settled (location : Location) (tree : FileTree) (world : World) : Prop where
  files : world.files = tree
  handle : ∃ handle, world.destination .metricsFile = .file handle
    ∧ handle.location = location ∧ handle.pending = []
  content : ∃ content, tree.content? location = some content

namespace World.Settled

variable {location : Location} {tree : FileTree} {world later : World}

/-- Nothing else matters to files at rest. -/
theorem of_same (settled : world.Settled location tree) (files : later.files = world.files)
    (file : later.destination .metricsFile = world.destination .metricsFile) :
    later.Settled location tree :=
  ⟨files.trans settled.files, file ▸ settled.handle, settled.content⟩

theorem of_spares (settled : world.Settled location tree) (spares : world.Spares later)
    (printed : world.destination .console = .console) : later.Settled location tree :=
  settled.of_same (spares printed).2.2 (spares printed).2.1

theorem logged (settled : world.Settled location tree) (entry : LogEntry) :
    (world.logged entry).Settled location tree := by
  rw [World.logged]
  split
  · exact settled.of_same rfl rfl
  · exact settled

/-- Closing the metrics file leaves it as it is. -/
theorem shutFile (settled : world.Settled location tree) :
    (world.shut (.file .metricsFile)).Settled location tree := by
  obtain ⟨handle, file, rfl, idle⟩ := settled.handle
  obtain ⟨content, found⟩ := settled.content
  rw [← settled.files] at found ⊢
  obtain ⟨_, same⟩ := handle.close_of_idle found idle
  rw [shut_file file, same]
  refine ⟨rfl, ⟨(handle.close world.files).2.1, world.setDestination_self _ _, ?_, ?_⟩, _, found⟩
  · exact (handle.keeps_close world.files).location
  · rw [FileHandle.close]
    split
    · exact idle
    · rfl

/-- **Closing what was opened leaves the files alone** if nothing waits to be written. -/
theorem shutEach {resources : List Resource}
    (only : ∀ label, .file label ∈ resources → label = .metricsFile)
    (settled : world.Settled location tree) :
    (resources.foldl World.shut world).Settled location tree := by
  induction resources generalizing world with
  | nil => exact settled
  | cons resource resources hypothesis =>
      apply hypothesis fun label inside => only label (List.mem_cons_of_mem _ inside)
      cases resource with
      | session label =>
          rw [shut_session]
          exact settled.of_same rfl rfl
      | file label =>
          obtain rfl := only label (List.mem_cons_self ..)
          exact settled.shutFile

theorem closeAll (settled : world.Settled location tree)
    (only : ∀ label, .file label ∈ world.resources → label = .metricsFile) :
    (Delivery.closeAll.run.run world).2.Settled location tree := by
  rw [world_closeAll]
  exact shutEach only (settled.of_same rfl rfl)

end World.Settled

/-- **A reporter adds a record to the metrics file and leaves other files alone**, whatever
the sinks beside that for the metrics file run into. -/
theorem Sink.settled_report {world : World} {handle : FileHandle} {content entry : Bytes}
    {record : Record} {members : List Sink} (file : world.destination .metricsFile = .file handle)
    (idle : handle.pending = []) (is_open : handle.closed = false)
    (found : world.files.content? handle.location = some content)
    (writes : world.troubles.fileWrite = none) (flushes : world.troubles.fileFlush = none)
    (printed : world.destination .console = .console)
    (encoded : record.encode = .ok entry) (aside : ∀ member ∈ members, member.Aside)
    (stream fanout : LoggerName) :
    let tree := world.files.appendTo handle.location (entry ++ [lineFeed])
    let later := (((Sink.fanout (.stream .metricsFile stream :: members) fanout).report
      record).run.run world).2
    later.Settled handle.location tree := by
  intro tree later
  have grown := FileTree.content?_appendTo found (entry ++ [lineFeed])
  have handed : (handOver fanout (.stream .metricsFile stream) 0 record).run.run world
      = (.ok (), world.used handle tree) := by
    rw [run_handOver]
    have reported := run_reportToMetricsFile file idle is_open found writes flushes encoded stream
    rw [show (Sink.stream .metricsFile stream).report record
      = reportToStream .metricsFile stream record from rfl, reported]
  have ends : later = ((reportToMembers fanout members 1 record).run.run
      (world.used handle tree)).2 := by
    show ((reportToMembers fanout (.stream .metricsFile stream :: members) 0 record).run.run
      world).2 = _
    rw [run_reportToMembers_cons, handed]
  have settled : (world.used handle tree).Settled handle.location tree :=
    ⟨rfl, ⟨handle, by simp, rfl, idle⟩, _, grown⟩
  have still : (world.used handle tree).destination .console = .console := by
    simp [printed]
  have spares := spares_reportToMembers aside fanout 1 record (world.used handle tree)
  rw [ends]
  exact settled.of_spares spares still

end Heartbeat
