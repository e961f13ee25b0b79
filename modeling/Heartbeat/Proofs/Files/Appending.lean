import Heartbeat.Proofs.Files.Reopening

/-!
# The metrics file only grows

Opening the metrics file touches nothing but what its path passes on the way
(`FileTree.Passes`).  Where something is missing on the way a directory is made, and that is
all that can happen before the file itself is opened (`FileTree.ExtendsAlong`), whether
opening succeeds or fails half way.

So what was written through the handle is at the end of the file when it was closed, all
directories on the way are there, and everything else is as it was
(`FileTree.openMetricsFile_appends`).
-/

namespace Heartbeat

set_option autoImplicit false

namespace FileTree

/-! ## The way of a path -/

/-- A path passes a place if its first names lead there. -/
def Passes (tree : FileTree) (path : Path) (place : Location) : Prop :=
  ∃ names, names <+: path.names ∧ tree.enter (tree.start path) names = .ok place

/-- The later tree has what the earlier one has, and besides only directories that the path
passes. -/
structure ExtendsAlong (path : Path) (tree later : FileTree) : Prop where
  workingDirectory : later.workingDirectory = tree.workingDirectory
  entry : ∀ place, later.lookup? place = tree.lookup? place
    ∨ tree.lookup? place = none ∧ later.lookup? place = some .directory ∧ later.Passes path place

variable {tree made later final : FileTree} {path longer : Path} {place : Location}

theorem Passes.of_keeps (keeps : KeepsDirectories tree later) (passes : tree.Passes path place) :
    later.Passes path place := by
  obtain ⟨names, begins, leads⟩ := passes
  exact ⟨names, begins, start_of_keeps keeps path ▸ enter_of_keeps keeps leads⟩

/-- A longer path passes what a shorter one does. -/
theorem Passes.mono (passes : tree.Passes path place) (slashes : path.slashes = longer.slashes)
    (names : path.names <+: longer.names) : tree.Passes longer place := by
  obtain ⟨first, begins, leads⟩ := passes
  refine ⟨first, begins.trans names, ?_⟩
  rw [start, Path.isAbsolute] at leads ⊢
  rw [← slashes]
  exact leads

namespace ExtendsAlong

theorem refl : ExtendsAlong path tree tree := ⟨rfl, fun _ => .inl rfl⟩

theorem adds (extends_along : ExtendsAlong path tree later) : AddsDirectories tree later :=
  ⟨extends_along.workingDirectory,
    fun place => (extends_along.entry place).imp_right fun ⟨nothing, added, _⟩ => ⟨nothing, added⟩⟩

theorem trans (first : ExtendsAlong path tree later) (second : ExtendsAlong path later final) :
    ExtendsAlong path tree final := by
  refine ⟨second.workingDirectory.trans first.workingDirectory, fun place => ?_⟩
  rcases first.entry place with same | ⟨nothing, added, passes⟩
  · rw [← same]
    exact second.entry place
  · have keeps := second.adds.keeps
    exact .inr ⟨nothing, keeps.directory place added, passes.of_keeps keeps⟩

theorem mono (extends_along : ExtendsAlong path tree later)
    (slashes : path.slashes = longer.slashes) (names : path.names <+: longer.names) :
    ExtendsAlong longer tree later :=
  ⟨extends_along.workingDirectory, fun place => (extends_along.entry place).imp_right
    fun ⟨nothing, added, passes⟩ => ⟨nothing, added, passes.mono slashes names⟩⟩

end ExtendsAlong

/-! ## Making directories -/

/-- A directory that is made is at the end of the path. -/
theorem extendsAlong_of_makeLastDirectory (makes : tree.makeLastDirectory path = .ok later) :
    ExtendsAlong path tree later := by
  rw [makeLastDirectory] at makes
  split at makes
  · next makes_last =>
      obtain rfl := Except.ok.inj makes
      obtain ⟨directory, name, located, nothing, rfl⟩ := makeDirectory_eq_ok makes_last
      refine ⟨rfl, fun place => ?_⟩
      by_cases here : place = directory ++ [name]
      · subst here
        have below : directory ++ [name] ≠ [] :=
          List.append_ne_nil_of_right_ne_nil _ (List.cons_ne_nil name [])
        refine .inr ⟨nothing, ?_, path.names, List.prefix_refl _,
          enter_put_directory located nothing⟩
        rw [lookup?_put _ _ _ _ below, if_pos rfl]
      · exact .inl ((SameBut.put tree _ _).elsewhere place here)
  · split at makes
    · obtain rfl := Except.ok.inj makes
      exact .refl
    · cases makes

/-- Whether directories are made or not, there are new ones on the way at most. -/
theorem extendsAlong_of_makeDirectories {slashes : Nat} {names : List Text}
    {result : Except Failure Unit} (makes : tree.makeDirectories slashes names = (result, later)) :
    ExtendsAlong ⟨slashes, names.reverse⟩ tree later := by
  induction names generalizing result later with
  | nil =>
      obtain rfl := (Prod.mk.inj makes).2
      exact .refl
  | cons name above hypothesis =>
      have begins : above.reverse <+: (name :: above).reverse := by
        rw [List.reverse_cons]
        exact List.prefix_append _ _
      rw [makeDirectories] at makes
      split at makes
      · obtain rfl := (Prod.mk.inj makes).2
        exact .refl
      split at makes
      · next makes_last =>
          obtain rfl := (Prod.mk.inj makes).2
          exact extendsAlong_of_makeLastDirectory makes_last
      · split at makes
        · next makes_above =>
            obtain rfl := (Prod.mk.inj makes).2
            exact (hypothesis makes_above).mono rfl begins
        · next found makes_above =>
            have first : ExtendsAlong ⟨slashes, (name :: above).reverse⟩ tree found :=
              (hypothesis makes_above).mono rfl begins
            split at makes
            · next makes_last =>
                obtain rfl := (Prod.mk.inj makes).2
                exact first.trans (extendsAlong_of_makeLastDirectory makes_last)
            · obtain rfl := (Prod.mk.inj makes).2
              exact first
      · obtain rfl := (Prod.mk.inj makes).2
        exact .refl

/-- Directories that were made are there. -/
theorem isDirectory_of_makeDirectories {slashes : Nat} {names : List Text}
    (makes : tree.makeDirectories slashes names = (.ok (), later)) :
    later.isDirectory ⟨slashes, names.reverse⟩ = true := by
  cases names with
  | nil => rfl
  | cons name above =>
      rw [makeDirectories] at makes
      split at makes
      · cases makes
      split at makes
      · next makes_last =>
          obtain rfl := (Prod.mk.inj makes).2
          exact (makeLastDirectory_eq_ok makes_last).2
      · split at makes
        · cases makes
        · split at makes
          · next makes_last =>
              obtain rfl := (Prod.mk.inj makes).2
              exact (makeLastDirectory_eq_ok makes_last).2
          · cases makes
      · cases makes

/-- Above a directory there are directories. -/
theorem isDirectory_of_isPrefix {names more : List Text} {slashes : Nat} (begins : names <+: more)
    (found : tree.isDirectory ⟨slashes, more⟩ = true) :
    tree.isDirectory ⟨slashes, names⟩ = true := by
  obtain ⟨rest, rfl⟩ := begins
  obtain ⟨reached, leads⟩ := isDirectory_iff.mp found
  rw [enter_append] at leads
  obtain ⟨above, leads, _⟩ := eq_ok_of_bind leads
  exact isDirectory_iff.mpr ⟨above, leads⟩

/-! ## Opening, writing and closing -/

/-- Where a file is not opened nothing has changed. -/
theorem openAt_error_eq {failure : Failure} (failed : tree.openAt path = (.error failure, later)) :
    later = tree := by
  rw [openAt] at failed
  split at failed
  · exact (Prod.mk.inj failed).2.symm
  · split at failed
    · exact (Prod.mk.inj failed).2.symm
    · exact (Prod.mk.inj failed).2.symm
    · dsimp only at failed
      split at failed
      · exact (Prod.mk.inj failed).2.symm
      · cases failed
      · cases failed

/-- Data were put at the end of the file at the end of a path, and nothing else has changed
but that all directories on the way are there. -/
structure Appended (path : Path) (target : Location) (data : Bytes) (tree later : FileTree) :
    Prop where
  /-- The path leads to the target. -/
  leads : ∃ directory name, later.locate path = .ok (directory, some name)
    ∧ target = directory ++ [name]
  /-- A target that was missing had nothing in it. -/
  content : later.content? target = some ((tree.content? target).getD [] ++ data)
  /-- Elsewhere there may be new directories on the way. -/
  elsewhere : ∀ place, place ≠ target → later.lookup? place = tree.lookup? place
    ∨ tree.lookup? place = none ∧ later.lookup? place = some .directory
      ∧ later.Passes path.parent place
  parents : ∀ names, names <+: path.parent.names →
    later.isDirectory ⟨path.slashes, names⟩ = true

/-- A file that was opened behind new directories on its way takes data. -/
theorem appended_of_openAt {handle : FileHandle}
    (extends_along : ExtendsAlong path.parent tree made)
    (there : made.isDirectory path.parent = true) (opens : made.openAt path = (.ok handle, later))
    (content : later.content? handle.location = some ((tree.content? handle.location).getD []))
    (data : Bytes) :
    Appended path handle.location data tree (later.appendTo handle.location data) := by
  have same := later.sameBut_appendTo handle.location data
  have no_directory : later.lookup? handle.location ≠ some .directory := by
    rw [content?_eq_some_iff.mp content]
    exact nofun
  have keeps : KeepsDirectories made (later.appendTo handle.location data) :=
    (keepsDirectories_of_openAt opens).trans (.of_sameBut same no_directory)
  obtain ⟨_, directory, name, located, is_handle, origin⟩ := openAt_eq_ok opens
  have untouched : ∀ place, place ≠ handle.location → later.lookup? place = made.lookup? place := by
    intro place apart
    rcases origin with ⟨_, rfl⟩ | ⟨_, _, _, rfl⟩
    · exact (SameBut.put made handle.location _).elsewhere place apart
    · rfl
  refine ⟨⟨directory, name, locate_of_keeps keeps located, ?_⟩, content?_appendTo content data,
    fun place apart => ?_, fun names begins => ?_⟩
  · rw [is_handle]
  · rw [same.elsewhere place apart, untouched place apart]
    exact (extends_along.entry place).imp_right
      fun ⟨nothing, added, passes⟩ => ⟨nothing, added, passes.of_keeps keeps⟩
  · exact isDirectory_of_isPrefix begins (isDirectory_of_keeps keeps there)

/-- The directory of a path is made by making what is missing on the way to it. -/
theorem extendsAlong_parent {result : Except Failure Unit}
    (makes : tree.makeDirectories path.slashes path.parent.names.reverse = (result, made)) :
    ExtendsAlong path.parent tree made := by
  have extends_along := extendsAlong_of_makeDirectories makes
  rw [List.reverse_reverse] at extends_along
  exact extends_along

/-- **The metrics file only grows.**  If it can be opened, and no device is in its place,
then data can be written to it and the handle be closed, and this puts the data at its end.
Nothing is taken away, no other file has changed, and there are no new entries but the file
and the missing directories on its way, all of which are there afterwards.  If it cannot be
opened, there are no new entries but directories on its way, and nothing else has
changed. -/
theorem openMetricsFile_appends (homes : Homes) (tree : FileTree) (path : Text) :
    (∀ handle opened, openMetricsFile homes tree (.text path) = (.ok handle, opened) →
      (∀ device, tree.lookup? handle.location ≠ some (.device device)) →
      ∀ data, ∃ expanded written closed, (Path.ofText path).expandHome homes = .ok expanded
        ∧ handle.write opened data = (.ok (), written)
        ∧ written.1.close written.2 = (.ok (), closed)
        ∧ Appended expanded handle.location data tree closed.2)
      ∧ ∀ failure left, openMetricsFile homes tree (.text path) = (.error failure, left) →
        (∃ cause, (Path.ofText path).expandHome homes = .error cause ∧ left = tree)
          ∨ ∃ expanded, (Path.ofText path).expandHome homes = .ok expanded
            ∧ ExtendsAlong expanded.parent tree left := by
  constructor
  · intro handle opened opens no_device data
    obtain ⟨expanded, found, expands, makes, opens_at⟩ := openMetricsFile_eq_ok opens
    obtain ⟨idle, is_open⟩ := handle_of_opens opens
    have content := content?_of_opens opens no_device
    obtain ⟨written, writes, closes⟩ := FileHandle.close_write content idle is_open data
    have there := isDirectory_of_makeDirectories makes
    rw [List.reverse_reverse] at there
    exact ⟨expanded, written, _, expands, writes, closes,
      appended_of_openAt (extendsAlong_parent makes) there opens_at content data⟩
  · intro failure left failed
    rw [openMetricsFile_text] at failed
    split at failed
    · next cause unexpanded => exact .inl ⟨cause, unexpanded, (Prod.mk.inj failed).2.symm⟩
    · next expanded expands =>
        refine .inr ⟨expanded, expands, ?_⟩
        split at failed
        · next makes =>
            obtain rfl := (Prod.mk.inj failed).2
            exact extendsAlong_parent makes
        · next made makes =>
            obtain rfl := openAt_error_eq failed
            exact extendsAlong_parent makes

/-- A path that goes up again makes the directory that it goes up from, and the file that it
comes to gets the data.  A path on through that file makes the directory as well before it
fails. -/
theorem openMetricsFile_appends_above :
    let homes : Homes := ⟨"home", []⟩
    let tree : FileTree := ⟨[(["w"], .directory), (["w", "a"], .file [0x31])], ["w"], []⟩
    (∃ handle opened, openMetricsFile homes tree (.text "x/../a") = (.ok handle, opened)
        ∧ (∀ device, tree.lookup? handle.location ≠ some (.device device))
        ∧ opened.lookup? ["w", "x"] = some .directory
        ∧ ∃ expanded written closed, (Path.ofText "x/../a").expandHome homes = .ok expanded
          ∧ handle.write opened [0x32] = (.ok (), written)
          ∧ written.1.close written.2 = (.ok (), closed)
          ∧ Appended expanded handle.location [0x32] tree closed.2)
      ∧ ∃ failure left, openMetricsFile homes tree (.text "x/../a/b") = (.error failure, left)
        ∧ left.lookup? ["w", "x"] = some .directory
        ∧ ((∃ cause, (Path.ofText "x/../a/b").expandHome homes = .error cause ∧ left = tree)
          ∨ ∃ expanded, (Path.ofText "x/../a/b").expandHome homes = .ok expanded
            ∧ ExtendsAlong expanded.parent tree left) := by
  intro homes tree
  have opens : openMetricsFile homes tree (.text "x/../a")
      = (.ok ⟨"x/../a", ["w", "a"], [], false⟩, tree.put ["w", "x"] .directory) := rfl
  have fails : openMetricsFile homes tree (.text "x/../a/b")
      = (.error (.file .alreadyExists "x/../a"), tree.put ["w", "x"] .directory) := rfl
  have no_device : ∀ device, tree.lookup? ["w", "a"] ≠ some (.device device) := by
    intro device
    exact nofun
  have grows := (openMetricsFile_appends homes tree "x/../a").1 _ _ opens no_device [0x32]
  have stays := (openMetricsFile_appends homes tree "x/../a/b").2 _ _ fails
  exact ⟨⟨_, _, opens, no_device, rfl, grows⟩, _, _, fails, rfl, stays⟩

end FileTree

end Heartbeat
