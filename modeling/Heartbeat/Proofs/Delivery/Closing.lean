import Mathlib.Data.List.Basic
import Heartbeat.Delivery.Resource
import Heartbeat.Proofs.Delivery.Calm
import Heartbeat.Proofs.Files.Devices

/-!
# What closing fails with

A file fails to be closed because closing it is in trouble, or because bytes still
wait in it and the device that it is on takes none.  A session fails to be closed if
that is in trouble.  Closing one resource makes no difference to closing another, so
what closing everything fails with can be read off the world before it
(`Delivery.run_closeAll`): it is the last of the failures, each resource being closed
once.

Calm deliveries do not bring such a failure about.  What closes safely before them does
so after them (`World.Calm.closingFailure_eq_none`).
-/

namespace Heartbeat

set_option autoImplicit false

/-! ## Closing -/

namespace World

/-- What closing a resource fails with. -/
def failureOfClosing (world : World) : Resource → Option Failure
  | .file label =>
    match world.destination label with
    | .file handle => world.troubles.fileClose <|> handle.closingFailure world.files
    | _ => none
  | .session label =>
    match world.client label with
    | .session .. => world.troubles.sessionClose
    | .stub .. => none

/-- What closing everything fails with: the last of the failures. -/
def closingFailure (world : World) : Option Failure :=
  (world.resources.filterMap world.failureOfClosing).getLast?

/-- The world after a resource was closed, whether that failed or not. -/
def shut (world : World) (resource : Resource) : World :=
  ((Delivery.close resource).run.run world).2

/-- A file in another state and files with the same full devices make no difference to other
resources. -/
theorem failureOfClosing_of_file {world : World} {label : Label} {handle : FileHandle}
    {files : FileTree} (kept : ∀ place, files.isFull place = world.files.isFull place)
    {other : Resource} (apart : other ≠ .file label) :
    { world.setDestination label (.file handle) with files }.failureOfClosing other
      = world.failureOfClosing other := by
  cases other with
  | session client => rfl
  | file other =>
      have elsewhere : other ≠ label := fun same => apart (congrArg Resource.file same)
      have same : (world.setDestination label (.file handle)).destination other
          = world.destination other := if_neg elsewhere
      rw [failureOfClosing, failureOfClosing]
      dsimp only
      rw [same]
      cases world.destination other with
      | file handle =>
          dsimp only
          rw [FileHandle.closingFailure, FileHandle.closingFailure, kept]
          rfl
      | _ => rfl

end World

namespace Delivery

/-- How something ends that fails with the given failure, if there is one. -/
def ended (failure : Option Failure) : Except Failure Unit :=
  match failure with
  | none => .ok ()
  | some failure => .error failure

theorem run_failOn (operation : Troubles → Option Failure) (world : World) :
    (failOn operation).run.run world = (ended (operation world.troubles), world) := by
  rw [failOn, run_get_bind, run_failIf]
  cases operation world.troubles <;> rfl

/-- A resource is closed as it has to be, and that makes no difference to the others. -/
theorem run_close (resource : Resource) (world : World) :
    ((close resource).run.run world).1 = ended (world.failureOfClosing resource)
      ∧ ∀ other, other ≠ resource →
        ((close resource).run.run world).2.failureOfClosing other = world.failureOfClosing other := by
  cases resource with
  | file label =>
      rw [close, run_get_bind, World.failureOfClosing]
      cases found : world.destination label with
      | file handle =>
          have outcome := handle.close_result world.files
          have kept := (handle.keeps_close world.files).devices
          dsimp only
          rw [run_get_bind]
          generalize handle.close world.files = closed at outcome kept ⊢
          obtain ⟨result, left, files⟩ := closed
          dsimp only at outcome kept ⊢
          have troubles : ({ world.setDestination label (.file left) with files } : World).troubles
              = world.troubles := rfl
          rw [run_modify_bind, run_bind, run_failOn, outcome, troubles]
          refine ⟨?_, fun other apart => ?_⟩
          · cases hindered : world.troubles.fileClose with
            | none => cases handle.closingFailure world.files <;> rfl
            | some failure => rfl
          · rw [← World.failureOfClosing_of_file kept apart]
            cases world.troubles.fileClose <;> cases handle.closingFailure world.files <;> rfl
      | _ => exact ⟨rfl, fun _ _ => rfl⟩
  | session label =>
      rw [close, run_get_bind, World.failureOfClosing]
      cases found : world.client label with
      | session timeout network sends =>
          dsimp only
          rw [note, run_modify_bind, run_failOn]
          exact ⟨rfl, fun other _ => by cases other <;> rfl⟩
      | stub failures close posts => exact ⟨rfl, fun other _ => by cases other <;> rfl⟩

/-- Of the failures of closing one resource after the other the last one is passed on. -/
theorem run_closeEach {resources : List Resource} (once : resources.Nodup) (world : World) :
    ((closeEach resources).run.run world).1
      = ended (resources.filterMap world.failureOfClosing).getLast? := by
  induction resources generalizing world with
  | nil => rfl
  | cons resource resources hypothesis =>
      obtain ⟨apart, once⟩ := List.nodup_cons.mp once
      obtain ⟨outcome, others⟩ := run_close resource world
      rw [closeEach, run_attempt_bind]
      generalize (close resource).run.run world = done at outcome others ⊢
      obtain ⟨result, later⟩ := done
      dsimp only at outcome others ⊢
      have same : resources.filterMap later.failureOfClosing
          = resources.filterMap world.failureOfClosing :=
        List.filterMap_congr fun other among =>
          others other fun equal => apart (equal ▸ among)
      have rest := hypothesis once later
      rw [same] at rest
      rw [run_bind, List.filterMap_cons, outcome]
      generalize (closeEach resources).run.run later = finished at rest ⊢
      obtain ⟨ending, last⟩ := finished
      dsimp only at rest ⊢
      rw [rest]
      cases world.failureOfClosing resource with
      | none => cases (resources.filterMap world.failureOfClosing).getLast? <;> rfl
      | some failure =>
          dsimp only
          rw [List.getLast?_cons]
          cases (resources.filterMap world.failureOfClosing).getLast? <;> rfl

/-- **What closing everything fails with can be read off the world before it.** -/
theorem run_closeAll {world : World} (once : world.resources.Nodup) :
    (closeAll.run.run world).1 = ended world.closingFailure := by
  have closed := run_closeEach once { world with resources := [] }
  have same : ({ world with resources := [] } : World).failureOfClosing = world.failureOfClosing := by
    funext resource
    cases resource <;> rfl
  rw [same] at closed
  exact closed

/-- A delivery whose resources are closed ends as it would, unless closing fails. -/
theorem run_closing {result : Type} {delivery : Delivery result} {world left : World}
    {outcome : Except Failure result} (delivered : delivery.run.run world = (outcome, left))
    (once : left.resources.Nodup) :
    ((closing delivery).run.run world).1 = match left.closingFailure with
      | none => outcome
      | some failure => .error failure := by
  have closed := run_closeAll once
  rw [closing, run_attempt_bind, delivered]
  dsimp only
  rw [run_bind]
  generalize closeAll.run.run left = finished at closed ⊢
  obtain ⟨ending, last⟩ := finished
  dsimp only at closed ⊢
  rw [closed]
  cases left.closingFailure with
  | none =>
      dsimp only [ended]
      rw [run_ofExcept]
  | some failure => rfl

/-- Where nothing was registered, nothing is closed. -/
theorem run_closing_of_resources_nil {result : Type} {delivery : Delivery result}
    {world left : World} {outcome : Except Failure result}
    (delivered : delivery.run.run world = (outcome, left)) (nothing : left.resources = []) :
    (closing delivery).run.run world = (outcome, left) := by
  rw [closing, run_attempt_bind, delivered]
  dsimp only
  rw [run_bind_of_ok (closeAll_of_resources_nil nothing), run_ofExcept]

/-! ## What closing leaves -/

/-- What comes after a delivery and changes nothing leaves what the delivery leaves. -/
theorem world_bind {result other : Type} {delivery : Delivery result}
    {next : result → Delivery other}
    (still : ∀ value found, ((next value).run.run found).2 = found) (world : World) :
    ((delivery >>= next).run.run world).2 = (delivery.run.run world).2 := by
  rw [run_bind]
  rcases delivery.run.run world with ⟨failure | value, later⟩
  · rfl
  · exact still value later

/-- Telling at the end how something went changes nothing. -/
theorem world_bind_ofExcept {result other : Type} (delivery : Delivery result)
    (outcome : Except Failure other) (world : World) :
    ((delivery >>= fun _ => ofExcept outcome).run.run world).2 = (delivery.run.run world).2 :=
  world_bind (fun _ found => by rw [run_ofExcept]) world

/-- What a delivery leaves whose resources are closed is what closing leaves. -/
theorem world_closing {result : Type} (delivery : Delivery result) (world : World) :
    ((closing delivery).run.run world).2 = (closeAll.run.run (delivery.run.run world).2).2 := by
  rw [closing, run_attempt_bind, world_bind_ofExcept]

/-- A file is closed even if that fails. -/
theorem shut_file {world : World} {label : Label} {handle : FileHandle}
    (file : world.destination label = .file handle) :
    world.shut (.file label) = { world.setDestination label
      (.file (handle.close world.files).2.1) with files := (handle.close world.files).2.2 } := by
  rw [World.shut, close, run_get_bind, file]
  dsimp only
  rw [run_get_bind, run_modify_bind, run_bind, run_failOn]
  cases ended (Troubles.fileClose _) with
  | error failure => rfl
  | ok _ =>
      dsimp only
      rw [run_ofExcept]

/-- That a client is closed is noted even if it fails, and nothing else changes. -/
theorem shut_session (world : World) (label : Label) :
    world.shut (.session label) = world.note (match world.client label with
      | .session .. => .transportClose
      | .stub .. => .clientClose label) := by
  rw [World.shut, close, run_get_bind]
  cases world.client label with
  | stub failures close posts => rfl
  | session timeout network sends =>
      dsimp only
      rw [note, run_modify_bind, run_failOn]

/-- Resources are closed one after the other, each once and whether closing the ones before
fails or not. -/
theorem world_closeEach (resources : List Resource) (world : World) :
    ((closeEach resources).run.run world).2 = resources.foldl World.shut world := by
  induction resources generalizing world with
  | nil => rfl
  | cons resource resources hypothesis =>
      rw [closeEach, run_attempt_bind, world_bind_ofExcept, hypothesis, List.foldl_cons]
      rfl

theorem world_closeAll (world : World) :
    (closeAll.run.run world).2 = world.resources.foldl World.shut { world with resources := [] } :=
  world_closeEach world.resources { world with resources := [] }

end Delivery

/-! ## Closing after calm deliveries -/

namespace World

/-- What closing everything fails with is a trouble or a full device. -/
theorem closingFailure_cases {world : World} {failure : Failure}
    (failed : world.closingFailure = some failure) :
    world.troubles.fileClose = some failure ∨ world.troubles.sessionClose = some failure
      ∨ failure = .deviceFull := by
  obtain ⟨resource, _, origin⟩ := List.mem_filterMap.mp (List.mem_of_getLast? failed)
  cases resource with
  | file label =>
      rw [failureOfClosing] at origin
      split at origin
      · next handle _ =>
          cases trouble : world.troubles.fileClose with
          | some other =>
              rw [trouble] at origin
              exact .inl origin
          | none =>
              have stuck : handle.closingFailure world.files = some failure := by
                rw [trouble] at origin
                exact origin
              rw [FileHandle.closingFailure] at stuck
              split at stuck
              · exact .inr (.inr (Option.some.inj stuck).symm)
              · cases stuck
      · cases origin
  | session label =>
      rw [failureOfClosing] at origin
      split at origin
      · exact .inr (.inl origin)
      · cases origin

/-- It is ordinary in a quiet world. -/
theorem isOrdinary_of_closingFailure {world : World} (quiet : world.Quiet) {failure : Failure}
    (failed : world.closingFailure = some failure) : failure.isOrdinary = true := by
  rcases closingFailure_cases failed with trouble | trouble | rfl
  · exact quiet.troubles failure (trouble ▸ by simp [Troubles.outcomes])
  · exact quiet.troubles failure (trouble ▸ by simp [Troubles.outcomes])
  · rfl

/-- Nothing that is registered is in trouble when it is closed, and no file is on a full
device. -/
structure ClosesSafely (world : World) : Prop where
  file : ∀ label, .file label ∈ world.resources → world.troubles.fileClose = none
    ∧ ∀ place ∈ (world.destination label).place?, world.files.isFull place = false
  session : ∀ label, .session label ∈ world.resources → world.troubles.sessionClose = none

/-- What closes safely does so after calm deliveries. -/
theorem Calm.closingFailure_eq_none {start world : World} (calm : Calm start world)
    (safely : start.ClosesSafely) : world.closingFailure = none := by
  have nothing : world.resources.filterMap world.failureOfClosing = [] := by
    refine List.filterMap_eq_nil_iff.mpr fun resource listed => ?_
    rw [calm.resources] at listed
    cases resource with
    | file label =>
        obtain ⟨untroubled, empty⟩ := safely.file label listed
        have placed := calm.places label
        rw [failureOfClosing]
        generalize world.destination label = destination at placed ⊢
        cases destination with
        | file handle =>
            have empty := empty handle.location placed.symm
            dsimp only
            rw [calm.troubles, untroubled, FileHandle.closingFailure, calm.devices, empty,
              Bool.and_false, Bool.false_and]
            rfl
        | _ => rfl
    | session label =>
        rw [failureOfClosing, calm.troubles, safely.session label listed]
        split <;> rfl
  rw [closingFailure, nothing]
  rfl

end World

end Heartbeat
