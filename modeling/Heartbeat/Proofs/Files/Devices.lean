import Heartbeat.Files.Append

/-!
# Devices that take no bytes

A device may be full: it takes nothing, so passing bytes on to it fails while they go
on to wait in the handle.  Nothing that is done with a handle moves it, or makes a
device full or empty (`FileHandle.Keeps`), and closing a handle fails if and only if
it is open at a full device and something waits in it
(`FileHandle.closingFailure`).
-/

namespace Heartbeat

set_option autoImplicit false

/-- Whether an entry is a device that takes no bytes. -/
def FileEntry.isFull : FileEntry → Bool
  | .device .full => true
  | _ => false

namespace FileTree

/-- Whether there is a device at a location that takes no bytes. -/
def isFull (tree : FileTree) (location : Location) : Bool :=
  (tree.lookup? location).any FileEntry.isFull

/-- Bytes are passed on unless there are some and the device takes none. -/
theorem emit_eq (tree : FileTree) (location : Location) (data : Bytes) :
    tree.emit location data = if tree.isFull location then
        if data.isEmpty then (.ok (), tree) else (.error .deviceFull, tree)
      else (.ok (), tree.appendTo location data) := by
  rw [emit, isFull]
  cases tree.lookup? location with
  | none => rfl
  | some entry =>
      cases entry with
      | device device => cases device <;> rfl
      | _ => rfl

theorem emit_error {tree : FileTree} {location : Location} {data : Bytes} {failure : Failure}
    (failed : (tree.emit location data).1 = .error failure) : failure = .deviceFull := by
  rw [emit_eq] at failed
  split at failed
  · split at failed
    · cases failed
    · exact (Except.error.inj failed).symm
  · cases failed

/-- Bytes at the end of a file do not make a device full or empty. -/
theorem isFull_appendTo (tree : FileTree) (location place : Location) (data : Bytes) :
    (tree.appendTo location data).isFull place = tree.isFull place := by
  rw [appendTo, content?]
  cases found : tree.lookup? location with
  | none => rfl
  | some entry =>
      cases entry with
      | file content =>
          cases place with
          | nil => rfl
          | cons name names =>
              dsimp only
              rw [isFull, lookup?_put _ _ _ _ (List.cons_ne_nil name names), isFull]
              split
              · next here =>
                  rw [← here, found]
                  rfl
              · rfl
      | _ => rfl

theorem isFull_emit (tree : FileTree) (location place : Location) (data : Bytes) :
    (tree.emit location data).2.isFull place = tree.isFull place := by
  rw [emit_eq]
  split
  · split <;> rfl
  · exact tree.isFull_appendTo location place data

end FileTree

namespace FileHandle

/-- What a handle and the files become that were used: the handle is where it was, and
the same devices are full. -/
structure Keeps (handle : FileHandle) (tree : FileTree) (used : FileHandle × FileTree) : Prop where
  location : used.1.location = handle.location
  devices : ∀ place, used.2.isFull place = tree.isFull place

namespace Keeps

variable {handle next last : FileHandle} {tree later final : FileTree}

theorem refl : Keeps handle tree (handle, tree) := ⟨rfl, fun _ => rfl⟩

theorem trans (first : Keeps handle tree (next, later)) (second : Keeps next later (last, final)) :
    Keeps handle tree (last, final) :=
  ⟨second.location.trans first.location,
    fun place => (second.devices place).trans (first.devices place)⟩

end Keeps

theorem keeps_flush (handle : FileHandle) (tree : FileTree) :
    Keeps handle tree (handle.flush tree).2 := by
  have devices := fun place => tree.isFull_emit handle.location place handle.pending
  rw [flush]
  generalize tree.emit handle.location handle.pending = emitted at devices ⊢
  rcases emitted with ⟨failure | done, left⟩ <;> exact ⟨rfl, devices⟩

theorem keeps_write (handle : FileHandle) (tree : FileTree) (data : Bytes) :
    Keeps handle tree (handle.write tree data).2 := by
  have flushed := handle.keeps_flush tree
  rw [write]
  split
  · exact .refl
  · split
    · exact ⟨rfl, fun _ => rfl⟩
    · generalize handle.flush tree = done at flushed ⊢
      obtain ⟨outcome | _, next, left⟩ := done
      · exact flushed
      · dsimp only
        split
        · refine flushed.trans ⟨rfl, fun place => ?_⟩
          exact left.isFull_emit next.location place data
        · exact ⟨flushed.location, flushed.devices⟩

theorem keeps_close (handle : FileHandle) (tree : FileTree) :
    Keeps handle tree (handle.close tree).2 := by
  have flushed := handle.keeps_flush tree
  rw [close]
  split
  · exact .refl
  · exact ⟨flushed.location, flushed.devices⟩

/-! ## Failures of handles -/

theorem flush_error {handle : FileHandle} {tree : FileTree} {failure : Failure}
    (failed : (handle.flush tree).1 = .error failure) : failure = .deviceFull := by
  rw [flush] at failed
  split at failed
  · cases failed
  · next refused _ emitted =>
      obtain rfl := Except.error.inj failed
      exact FileTree.emit_error (congrArg Prod.fst emitted)

/-- Writing to a file fails because it is closed or because the device is full. -/
theorem write_error {handle : FileHandle} {tree : FileTree} {data : Bytes} {failure : Failure}
    (failed : (handle.write tree data).1 = .error failure) :
    failure = .closedFile ∨ failure = .deviceFull := by
  rw [write] at failed
  split at failed
  · exact .inl (Except.error.inj failed).symm
  · split at failed
    · cases failed
    · split at failed
      · next refused _ _ flushed =>
          obtain rfl := Except.error.inj failed
          exact .inr (flush_error (congrArg Prod.fst flushed))
      · split at failed
        · exact .inr (FileTree.emit_error failed)
        · cases failed

/-- What closing a file fails with where it is in no trouble. -/
def closingFailure (handle : FileHandle) (tree : FileTree) : Option Failure :=
  if !handle.closed && tree.isFull handle.location && !handle.pending.isEmpty then
    some .deviceFull
  else none

theorem close_result (handle : FileHandle) (tree : FileTree) :
    (handle.close tree).1 = match handle.closingFailure tree with
      | none => .ok ()
      | some failure => .error failure := by
  rw [close, closingFailure, flush, FileTree.emit_eq]
  cases handle.closed with
  | true => rfl
  | false =>
      cases tree.isFull handle.location with
      | false => rfl
      | true => cases handle.pending.isEmpty <;> rfl

end FileHandle

end Heartbeat
