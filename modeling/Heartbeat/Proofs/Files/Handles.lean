import Heartbeat.Files.Append

/-!
# What a handle can do

A handle works on the entry at its location and on nothing else.  So whatever is done
with it leaves the other entries as they were (`FileHandle.Uses`), and two trees with the
same entry at the location make no difference to it (`FileHandle.write_alike`,
`FileHandle.flush_alike`).

Where there is a file at the location, what is written and then flushed stands at the end of
the file (`FileHandle.flush_write`).
-/

namespace Heartbeat

set_option autoImplicit false

/-- What becomes of an entry that bytes are given to: a file has them at its end. -/
def FileEntry.grown (data : Bytes) : FileEntry → FileEntry
  | .file content => .file (content ++ data)
  | entry => entry

namespace FileTree

/-- The later tree has what the earlier one has everywhere but at one location. -/
structure SameBut (location : Location) (tree later : FileTree) : Prop where
  workingDirectory : later.workingDirectory = tree.workingDirectory
  elsewhere : ∀ place, place ≠ location → later.lookup? place = tree.lookup? place

namespace SameBut

variable {location : Location} {tree later final : FileTree}

theorem refl : SameBut location tree tree := ⟨rfl, fun _ _ => rfl⟩

theorem trans (first : SameBut location tree later) (second : SameBut location later final) :
    SameBut location tree final := by
  refine ⟨second.workingDirectory.trans first.workingDirectory, ?_⟩
  intro place apart
  rw [second.elsewhere place apart, first.elsewhere place apart]

/-- Putting an entry below the root changes nothing elsewhere. -/
theorem put (tree : FileTree) (location : Location) (entry : FileEntry) :
    SameBut location tree (tree.put location entry) := by
  refine ⟨rfl, ?_⟩
  intro place apart
  cases place with
  | nil => rfl
  | cons name names =>
      rw [lookup?_put _ _ _ _ (List.cons_ne_nil name names), if_neg (Ne.symm apart)]

end SameBut

/-! ## Passing bytes on -/

variable {tree other : FileTree} {location : Location}

/-- A file is not at the root. -/
theorem ne_nil_of_content? {content : Bytes} (found : tree.content? location = some content) :
    location ≠ [] := by
  rintro rfl
  cases found

theorem content?_eq_some_iff {content : Bytes} :
    tree.content? location = some content ↔ tree.lookup? location = some (.file content) := by
  rw [content?]
  constructor
  · intro found
    split at found
    · next is_file => rw [is_file, Option.some.inj found]
    · cases found
  · intro found
    rw [found]

theorem lookup?_appendTo (tree : FileTree) (location : Location) (data : Bytes) :
    (tree.appendTo location data).lookup? location
      = (tree.lookup? location).map (FileEntry.grown data) := by
  rw [appendTo]
  cases found : tree.content? location with
  | some content =>
      have below := ne_nil_of_content? found
      rw [content?_eq_some_iff.mp found]
      simp [lookup?_put _ _ _ _ below, FileEntry.grown]
  | none =>
      cases here : tree.lookup? location with
      | none => simp
      | some entry =>
          cases entry with
          | file content => simp [content?, here] at found
          | directory => simp [FileEntry.grown]
          | device device => simp [FileEntry.grown]

theorem sameBut_appendTo (tree : FileTree) (location : Location) (data : Bytes) :
    SameBut location tree (tree.appendTo location data) := by
  rw [appendTo]
  cases tree.content? location with
  | some content => exact .put tree location _
  | none => exact .refl

theorem sameBut_emit (tree : FileTree) (location : Location) (data : Bytes) :
    SameBut location tree (tree.emit location data).2 := by
  rw [emit]
  split
  · split <;> exact .refl
  · exact tree.sameBut_appendTo location data

/-- What becomes of bytes depends on the entry that they are given to. -/
theorem emit_alike (alike : tree.lookup? location = other.lookup? location) (data : Bytes) :
    (tree.emit location data).1 = (other.emit location data).1
      ∧ (tree.emit location data).2.lookup? location
        = (other.emit location data).2.lookup? location := by
  have grown : (tree.appendTo location data).lookup? location
      = (other.appendTo location data).lookup? location := by
    rw [lookup?_appendTo, lookup?_appendTo, alike]
  rw [emit, emit, ← alike]
  split
  · split <;> exact ⟨rfl, alike⟩
  · exact ⟨rfl, grown⟩

end FileTree

/-! ## Handles -/

namespace FileHandle

/-- What a handle and the files become that were used: the handle is at its location, open
or closed as it was, and other entries are as they were. -/
structure Uses (handle : FileHandle) (tree : FileTree) (used : FileHandle × FileTree) : Prop where
  location : used.1.location = handle.location
  closed : used.1.closed = handle.closed
  files : tree.SameBut handle.location used.2

theorem uses_flush (handle : FileHandle) (tree : FileTree) :
    Uses handle tree (handle.flush tree).2 := by
  have files := tree.sameBut_emit handle.location handle.pending
  rw [flush]
  generalize tree.emit handle.location handle.pending = emitted at files ⊢
  obtain ⟨failure | done, left⟩ := emitted
  · exact ⟨rfl, rfl, files⟩
  · exact ⟨rfl, rfl, files⟩

theorem uses_write (handle : FileHandle) (tree : FileTree) (data : Bytes) :
    Uses handle tree (handle.write tree data).2 := by
  have flushed := handle.uses_flush tree
  rw [write]
  by_cases shut : handle.closed = true
  · rw [if_pos shut]
    exact ⟨rfl, rfl, .refl⟩
  rw [if_neg shut]
  split
  · exact ⟨rfl, rfl, .refl⟩
  · generalize handle.flush tree = done at flushed ⊢
    obtain ⟨failure | _, next, left⟩ := done
    · exact flushed
    · have located : next.location = handle.location := flushed.location
      dsimp only
      split
      · refine ⟨located, flushed.closed, flushed.files.trans ?_⟩
        rw [← located]
        exact left.sameBut_emit next.location data
      · exact ⟨located, flushed.closed, flushed.files⟩

/-- The same use of a handle in two trees: the same result, the same handle, and the same
entry at its location. -/
def Alike (location : Location) (first second : Except Failure Unit × FileHandle × FileTree) :
    Prop :=
  first.1 = second.1 ∧ first.2.1 = second.2.1
    ∧ first.2.2.lookup? location = second.2.2.lookup? location

variable {tree other : FileTree}

theorem flush_alike (handle : FileHandle)
    (alike : tree.lookup? handle.location = other.lookup? handle.location) :
    Alike handle.location (handle.flush tree) (handle.flush other) := by
  obtain ⟨outcome, entry⟩ := FileTree.emit_alike alike handle.pending
  rw [flush, flush]
  generalize tree.emit handle.location handle.pending = emitted at outcome entry ⊢
  generalize other.emit handle.location handle.pending = given at outcome entry ⊢
  obtain ⟨result, left⟩ := emitted
  obtain ⟨_, right⟩ := given
  obtain rfl : result = _ := outcome
  cases result with
  | error failure => exact ⟨rfl, rfl, entry⟩
  | ok _ => exact ⟨rfl, rfl, entry⟩

theorem write_alike (handle : FileHandle) (data : Bytes)
    (alike : tree.lookup? handle.location = other.lookup? handle.location) :
    Alike handle.location (handle.write tree data) (handle.write other data) := by
  have flushed := handle.flush_alike alike
  have located : (handle.flush tree).2.1.location = handle.location :=
    (handle.uses_flush tree).location
  rw [write, write]
  split
  · exact ⟨rfl, rfl, alike⟩
  split
  · exact ⟨rfl, rfl, alike⟩
  generalize handle.flush tree = done at flushed located ⊢
  generalize handle.flush other = ended at flushed ⊢
  obtain ⟨result, next, left⟩ := done
  obtain ⟨_, also, right⟩ := ended
  obtain ⟨rfl, rfl, entry⟩ := flushed
  cases result with
  | error failure => exact ⟨rfl, rfl, entry⟩
  | ok _ =>
      dsimp only at located entry ⊢
      split
      · rw [← located] at entry ⊢
        obtain ⟨outcome, grown⟩ := FileTree.emit_alike entry data
        exact ⟨outcome, rfl, grown⟩
      · exact ⟨rfl, rfl, entry⟩

end FileHandle

/-! ## Handles of files -/

namespace FileTree

variable {tree : FileTree} {location : Location} {content : Bytes}

theorem replace_self {entry : FileEntry} {entries : List (Location × FileEntry)}
    (found : find? location entries = some entry) : replace location entry entries = entries := by
  induction entries with
  | nil => cases found
  | cons former entries hypothesis =>
      rw [find?] at found
      rw [replace]
      by_cases here : former.1 = location
      · rw [if_pos here] at found ⊢
        rw [← Option.some.inj found]
      · rw [if_neg here] at found ⊢
        rw [hypothesis found]

/-- A file to which nothing is added is as it was. -/
theorem appendTo_nil (found : tree.content? location = some content) :
    tree.appendTo location [] = tree := by
  have below := ne_nil_of_content? found
  have listed := content?_eq_some_iff.mp found
  rw [lookup?, if_neg (by simpa using below)] at listed
  rw [appendTo, found]
  dsimp only
  rw [List.append_nil, put, replace_self listed]

/-- A file takes what it is given. -/
theorem emit_of_content? (found : tree.content? location = some content) (data : Bytes) :
    tree.emit location data = (.ok (), tree.appendTo location data) := by
  rw [emit, content?_eq_some_iff.mp found]

theorem content?_appendTo (found : tree.content? location = some content) (data : Bytes) :
    (tree.appendTo location data).content? location = some (content ++ data) := by
  rw [content?_eq_some_iff, lookup?_appendTo, content?_eq_some_iff.mp found]
  rfl

theorem content?_appendTo_of_ne {place : Location} (apart : place ≠ location) (data : Bytes) :
    (tree.appendTo location data).content? place = tree.content? place := by
  rw [content?, content?, (tree.sameBut_appendTo location data).elsewhere place apart]

end FileTree

namespace FileHandle

variable {tree : FileTree} {handle : FileHandle} {content : Bytes}
  (found : tree.content? handle.location = some content) (idle : handle.pending = [])

include found idle

/-- Where nothing waits there is nothing to be passed on. -/
theorem flush_of_idle : handle.flush tree = (.ok (), handle, tree) := by
  have same : { handle with pending := [] } = handle := by
    rw [← idle]
  rw [flush, FileTree.emit_of_content? found, idle]
  dsimp only
  rw [same, FileTree.appendTo_nil found]

/-- **What is written to a file and flushed is at its end**, and nothing waits any more,
whether it had room to wait or not. -/
theorem flush_write (is_open : handle.closed = false) (data : Bytes) :
    (handle.write tree data).1 = .ok ()
      ∧ (handle.write tree data).2.1.flush (handle.write tree data).2.2
        = (.ok (), handle, tree.appendTo handle.location data) := by
  have grown := FileTree.content?_appendTo found data
  have usable : ¬ handle.closed = true := by
    rw [is_open]
    exact Bool.false_ne_true
  rw [write, if_neg usable, idle]
  split
  · refine ⟨rfl, ?_⟩
    rw [flush]
    dsimp only
    rw [List.nil_append, FileTree.emit_of_content? found]
    dsimp only
    rw [← idle]
  · next full =>
      have large : capacity < data.length := by simpa using full
      rw [flush_of_idle found idle]
      dsimp only
      rw [if_pos large, FileTree.emit_of_content? found]
      exact ⟨rfl, flush_of_idle grown idle⟩

/-- **What is written to a file is at its end when the handle is closed.** -/
theorem close_write (is_open : handle.closed = false) (data : Bytes) :
    ∃ written, handle.write tree data = (.ok (), written)
      ∧ written.1.close written.2
        = (.ok (), { handle with pending := [], closed := true },
          tree.appendTo handle.location data) := by
  obtain ⟨accepted, flushed⟩ := flush_write found idle is_open data
  have still_open := (handle.uses_write tree data).closed
  generalize handle.write tree data = done at accepted flushed still_open ⊢
  obtain ⟨_, written, left⟩ := done
  obtain rfl : _ = Except.ok () := accepted
  refine ⟨(written, left), rfl, ?_⟩
  have usable : ¬ written.closed = true := by
    rw [still_open, is_open]
    exact Bool.false_ne_true
  dsimp only at flushed ⊢
  rw [close, if_neg usable, flushed]

/-- Closing a file to which nothing waits to be passed on leaves the file as it is. -/
theorem close_of_idle : (handle.close tree).1 = .ok () ∧ (handle.close tree).2.2 = tree := by
  rw [close, flush_of_idle found idle]
  split
  · exact ⟨rfl, rfl⟩
  · exact ⟨rfl, rfl⟩

end FileHandle

end Heartbeat
