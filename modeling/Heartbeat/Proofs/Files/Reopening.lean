import Mathlib.Data.List.Basic
import Heartbeat.Proofs.Files.Handles
import Heartbeat.Proofs.Files.Paths

/-!
# Opening the metrics file again

Opening the metrics file makes directories and, where there is nothing yet, an empty file.
Whatever else there is stays as it is, and what was in the file is still in it
(`FileTree.content?_of_opens`).  All that the path wants is there then: as long as no
directory is taken away and the file is there, the same path leads to the same place once
more, and opening it changes nothing (`FileTree.opens_again`).
-/

namespace Heartbeat

set_option autoImplicit false

namespace FileTree

/-! ## Trees with more directories -/

/-- What was a directory is one, and the working directory is the same. -/
structure KeepsDirectories (tree later : FileTree) : Prop where
  workingDirectory : later.workingDirectory = tree.workingDirectory
  directory : ∀ place, tree.lookup? place = some .directory →
    later.lookup? place = some .directory

/-- There may be directories where there was nothing, and that is all. -/
structure AddsDirectories (tree later : FileTree) : Prop where
  workingDirectory : later.workingDirectory = tree.workingDirectory
  entry : ∀ place, later.lookup? place = tree.lookup? place
    ∨ tree.lookup? place = none ∧ later.lookup? place = some .directory

variable {tree made later final : FileTree}

theorem KeepsDirectories.refl : KeepsDirectories tree tree := ⟨rfl, fun _ found => found⟩

theorem KeepsDirectories.trans (first : KeepsDirectories tree later)
    (second : KeepsDirectories later final) : KeepsDirectories tree final :=
  ⟨second.workingDirectory.trans first.workingDirectory,
    fun place found => second.directory place (first.directory place found)⟩

namespace AddsDirectories

theorem refl : AddsDirectories tree tree := ⟨rfl, fun _ => .inl rfl⟩

theorem trans (first : AddsDirectories tree later) (second : AddsDirectories later final) :
    AddsDirectories tree final := by
  refine ⟨second.workingDirectory.trans first.workingDirectory, ?_⟩
  intro place
  rcases first.entry place with same | ⟨nothing, added⟩
  · rcases second.entry place with also | ⟨nothing, added⟩
    · exact .inl (also.trans same)
    · exact .inr ⟨same ▸ nothing, added⟩
  · rcases second.entry place with also | ⟨absent, _⟩
    · exact .inr ⟨nothing, also.trans added⟩
    · rw [added] at absent
      cases absent

theorem keeps (adds : AddsDirectories tree later) : KeepsDirectories tree later := by
  refine ⟨adds.workingDirectory, ?_⟩
  intro place found
  rcases adds.entry place with same | ⟨nothing, _⟩
  · exact same.trans found
  · rw [found] at nothing
    cases nothing

/-- Directories have no content. -/
theorem content?_eq (adds : AddsDirectories tree later) (place : Location) :
    later.content? place = tree.content? place := by
  rw [content?, content?]
  rcases adds.entry place with same | ⟨nothing, added⟩
  · rw [same]
  · rw [nothing, added]

/-- A directory is added by putting it where nothing was. -/
theorem put {location : Location} (nothing : tree.lookup? location = none) :
    AddsDirectories tree (tree.put location .directory) := by
  refine ⟨rfl, ?_⟩
  intro place
  by_cases here : place = location
  · subst here
    have below : place ≠ [] := by
      rintro rfl
      cases nothing
    exact .inr ⟨nothing, by rw [lookup?_put _ _ _ _ below, if_pos rfl]⟩
  · exact .inl ((SameBut.put tree location .directory).elsewhere place here)

end AddsDirectories

/-- A change at a place where there is no directory takes none away. -/
theorem KeepsDirectories.of_sameBut {location : Location} (same : SameBut location tree later)
    (other : tree.lookup? location ≠ some .directory) : KeepsDirectories tree later := by
  refine ⟨same.workingDirectory, ?_⟩
  intro place found
  by_cases here : place = location
  · rw [here] at found
    exact absurd found other
  · rw [same.elsewhere place here, found]

/-! ## Following paths again -/

/-- Names lead further if they lead somewhere first. -/
theorem enter_append (tree : FileTree) (location : Location) (names more : List Text) :
    tree.enter location (names ++ more)
      = tree.enter location names >>= fun reached => tree.enter reached more := by
  induction names generalizing location with
  | nil => rfl
  | cons name names hypothesis =>
      rw [List.cons_append, enter, enter]
      split
      · exact hypothesis _
      · split
        · rfl
        · split
          · exact hypothesis _
          · rfl
          · rfl

/-- Names lead where they led before if the directories are still there. -/
theorem enter_of_keeps (keeps : KeepsDirectories tree later) {location reached : Location}
    {names : List Text} (leads : tree.enter location names = .ok reached) :
    later.enter location names = .ok reached := by
  induction names generalizing location with
  | nil => exact leads
  | cons name names hypothesis =>
      rw [enter] at leads ⊢
      split at leads
      · next above =>
          rw [if_pos above]
          exact hypothesis leads
      · next below =>
          rw [if_neg below]
          split at leads
          · cases leads
          · next short =>
              rw [if_neg short]
              split at leads
              · next found =>
                  rw [keeps.directory _ found]
                  exact hypothesis leads
              · cases leads
              · cases leads

theorem start_of_keeps (keeps : KeepsDirectories tree later) (path : Path) :
    later.start path = tree.start path := by
  rw [start, start, keeps.workingDirectory]

/-- What it means for a path to have a last name in a directory that is there. -/
theorem locate_eq_some_iff {path : Path} {directory : Location} {name : Text} :
    tree.locate path = .ok (directory, some name)
      ↔ ¬ pathLimit < path.toText.nativeBytes.length ∧ path.names.getLast? = some name
        ∧ tree.enter (tree.start path) path.names.dropLast = .ok directory
        ∧ name ≠ Path.above ∧ ¬ nameLimit < name.nativeBytes.length := by
  rw [locate]
  by_cases long : pathLimit < path.toText.nativeBytes.length
  · simp [long]
  rw [if_neg long]
  cases last : path.names.getLast? with
  | none => simp
  | some final =>
      dsimp only
      cases reached : tree.enter (tree.start path) path.names.dropLast with
      | error fault =>
          constructor
          · intro found
            cases found
          · rintro ⟨_, _, found, _⟩
            cases found
      | ok place =>
          show (if final = Path.above then _ else _) = _ ↔ _
          by_cases up : final = Path.above
          · rw [if_pos up]
            constructor
            · intro found
              cases found
            · rintro ⟨_, same, _, other, _⟩
              exact absurd (Option.some.inj same ▸ up) other
          · rw [if_neg up]
            by_cases wide : nameLimit < final.nativeBytes.length
            · rw [if_pos wide]
              constructor
              · intro found
                cases found
              · rintro ⟨_, same, _, _, narrow⟩
                exact absurd (Option.some.inj same ▸ wide) narrow
            · rw [if_neg wide]
              constructor
              · intro found
                cases found
                exact ⟨long, rfl, rfl, up, wide⟩
              · rintro ⟨_, same, found, _, _⟩
                cases same
                cases found
                rfl

/-- Such a path leads to the same place if the directories are still there. -/
theorem locate_of_keeps (keeps : KeepsDirectories tree later) {path : Path}
    {directory : Location} {name : Text} (found : tree.locate path = .ok (directory, some name)) :
    later.locate path = .ok (directory, some name) := by
  rw [locate_eq_some_iff] at found ⊢
  obtain ⟨short, last, leads, rest⟩ := found
  rw [start_of_keeps keeps]
  exact ⟨short, last, enter_of_keeps keeps leads, rest⟩

/-! ## Making directories again -/

theorem isDirectory_iff {path : Path} :
    tree.isDirectory path = true
      ↔ ∃ reached, tree.enter (tree.start path) path.names = .ok reached := by
  rw [isDirectory]
  cases tree.enter (tree.start path) path.names with
  | ok reached => simp
  | error fault => simp

theorem isDirectory_of_keeps (keeps : KeepsDirectories tree later) {path : Path}
    (found : tree.isDirectory path = true) : later.isDirectory path = true := by
  rw [isDirectory_iff] at found ⊢
  obtain ⟨reached, leads⟩ := found
  exact ⟨reached, start_of_keeps keeps path ▸ enter_of_keeps keeps leads⟩

/-- A directory is made at the end of a path through directories, where nothing is. -/
theorem makeDirectory_of_locate {path : Path} {directory : Location} {name : Text}
    (located : tree.locate path = .ok (directory, some name)) :
    tree.makeDirectory path = match tree.lookup? (directory ++ [name]) with
      | some _ => .error .alreadyExists
      | none => .ok (tree.put (directory ++ [name]) .directory) := by
  rw [makeDirectory, located]
  rfl

theorem makeDirectory_eq_ok {path : Path} (makes : tree.makeDirectory path = .ok later) :
    ∃ directory name, tree.locate path = .ok (directory, some name)
      ∧ tree.lookup? (directory ++ [name]) = none
      ∧ later = tree.put (directory ++ [name]) .directory := by
  obtain ⟨⟨directory, name⟩, located, makes⟩ := eq_ok_of_bind makes
  cases name with
  | none => cases makes
  | some name =>
      dsimp only at makes
      split at makes
      · cases makes
      · next nothing => exact ⟨directory, name, located, nothing, (Except.ok.inj makes).symm⟩

/-- Where there is a directory none is made, and the reason is not that something is
missing. -/
theorem makeDirectory_of_isDirectory {path : Path} (found : tree.isDirectory path = true) :
    ∃ fault, tree.makeDirectory path = .error fault ∧ fault ≠ .notFound := by
  obtain ⟨reached, leads⟩ := isDirectory_iff.mp found
  by_cases long : pathLimit < path.toText.nativeBytes.length
  · refine ⟨.nameTooLong, ?_, nofun⟩
    rw [makeDirectory, locate, if_pos long]
    rfl
  cases last : path.names.getLast? with
  | none =>
      refine ⟨.alreadyExists, ?_, nofun⟩
      rw [makeDirectory, locate, if_neg long, last]
      rfl
  | some name =>
      have parts : path.names.dropLast ++ [name] = path.names :=
        List.dropLast_append_getLast? name last
      rw [← parts, enter_append] at leads
      obtain ⟨directory, above, leads⟩ := eq_ok_of_bind leads
      refine ⟨.alreadyExists, ?_, nofun⟩
      by_cases up : name = Path.above
      · rw [makeDirectory, locate, if_neg long, last]
        dsimp only
        rw [above]
        show ((if name = Path.above then _ else _) >>= _) = _
        rw [if_pos up]
        rfl
      · rw [enter, if_neg up] at leads
        split at leads
        · cases leads
        next short =>
        split at leads
        · next here =>
            have located : tree.locate path = .ok (directory, some name) :=
              locate_eq_some_iff.mpr ⟨long, last, above, up, short⟩
            rw [makeDirectory_of_locate located, here]
        · cases leads
        · cases leads

theorem makeLastDirectory_of_isDirectory {path : Path} (found : tree.isDirectory path = true) :
    tree.makeLastDirectory path = .ok tree := by
  obtain ⟨fault, refused, other⟩ := makeDirectory_of_isDirectory found
  rw [makeLastDirectory, refused]
  exact if_pos ⟨other, found⟩

/-- A path leads to the directory that was made at its end. -/
theorem enter_put_directory {path : Path} {directory : Location} {name : Text}
    (located : tree.locate path = .ok (directory, some name))
    (nothing : tree.lookup? (directory ++ [name]) = none) :
    (tree.put (directory ++ [name]) .directory).enter
        ((tree.put (directory ++ [name]) .directory).start path) path.names
      = .ok (directory ++ [name]) := by
  have adds : AddsDirectories tree (tree.put (directory ++ [name]) .directory) := .put nothing
  obtain ⟨_, last, leads, below, short⟩ :=
    locate_eq_some_iff.mp (locate_of_keeps adds.keeps located)
  have parts : path.names.dropLast ++ [name] = path.names :=
    List.dropLast_append_getLast? name last
  have here : (tree.put (directory ++ [name]) .directory).lookup? (directory ++ [name])
      = some .directory := by
    rw [lookup?_put _ _ _ _ (List.append_ne_nil_of_right_ne_nil _ (List.cons_ne_nil name [])),
      if_pos rfl]
  rw [← parts, enter_append, leads]
  show enter _ directory [name] = _
  rw [enter, if_neg below, if_neg short, here]
  rfl

/-- After a directory was made it is there. -/
theorem makeLastDirectory_eq_ok {path : Path} (makes : tree.makeLastDirectory path = .ok later) :
    AddsDirectories tree later ∧ later.isDirectory path = true := by
  rw [makeLastDirectory] at makes
  split at makes
  · next made makes_last =>
      obtain rfl := Except.ok.inj makes
      obtain ⟨directory, name, located, nothing, rfl⟩ := makeDirectory_eq_ok makes_last
      exact ⟨.put nothing, isDirectory_iff.mpr ⟨_, enter_put_directory located nothing⟩⟩
  · split at makes
    · next found =>
        obtain rfl := Except.ok.inj makes
        exact ⟨.refl, found.2⟩
    · cases makes

/-- Making directories adds nothing else, and where the directories were made once there
is nothing to be made. -/
theorem makeDirectories_eq_ok {slashes : Nat} {names : List Text}
    (makes : tree.makeDirectories slashes names = (.ok (), made)) :
    AddsDirectories tree made
      ∧ ∀ later, KeepsDirectories made later →
        later.makeDirectories slashes names = (.ok (), later) := by
  induction names generalizing made with
  | nil =>
      obtain rfl := (Prod.mk.inj makes).2
      exact ⟨.refl, fun _ _ => rfl⟩
  | cons name above hypothesis =>
      rw [makeDirectories] at makes
      split at makes
      · cases makes
      next checked =>
      -- The last directory may be made at once, or after those above it.
      have settled : ∀ {found : FileTree}, AddsDirectories tree found →
          found.makeLastDirectory ⟨slashes, (name :: above).reverse⟩ = .ok made →
          AddsDirectories tree made ∧ ∀ later, KeepsDirectories made later →
            later.makeDirectories slashes (name :: above) = (.ok (), later) := by
        intro found adds makes_last
        obtain ⟨added, directory⟩ := makeLastDirectory_eq_ok makes_last
        refine ⟨adds.trans added, ?_⟩
        intro later keeps
        have again := makeLastDirectory_of_isDirectory (isDirectory_of_keeps keeps directory)
        rw [makeDirectories, checked]
        dsimp only
        rw [again]
      split at makes
      · next makes_last =>
          obtain rfl := (Prod.mk.inj makes).2
          exact settled .refl makes_last
      · split at makes
        · cases makes
        · next found makes_above =>
            split at makes
            · next makes_last =>
                obtain rfl := (Prod.mk.inj makes).2
                exact settled (hypothesis makes_above).1 makes_last
            · cases makes
      · cases makes

/-! ## Opening files again -/

/-- A file is opened at the end of a path through directories.  It is made if nothing is
there. -/
theorem openAt_eq_ok {path : Path} {handle : FileHandle}
    (opens : tree.openAt path = (.ok handle, made)) :
    Path.checkText path.toText = .ok ()
      ∧ ∃ directory name, tree.locate path = .ok (directory, some name)
        ∧ handle = ⟨path.toText, directory ++ [name], [], false⟩
        ∧ ((tree.lookup? handle.location = none ∧ made = tree.put handle.location (.file []))
          ∨ ∃ entry, entry ≠ .directory ∧ tree.lookup? handle.location = some entry
            ∧ made = tree) := by
  rw [openAt] at opens
  split at opens
  · cases opens
  next checked =>
  refine ⟨checked, ?_⟩
  split at opens
  · cases opens
  · cases opens
  next directory name located =>
  dsimp only at opens
  split at opens
  · cases opens
  · next entry other found =>
      obtain ⟨is_handle, rfl⟩ := Prod.mk.inj opens
      obtain rfl := Except.ok.inj is_handle
      exact ⟨directory, name, located, rfl, .inr ⟨entry, other, found, rfl⟩⟩
  · next nothing =>
      obtain ⟨is_handle, rfl⟩ := Prod.mk.inj opens
      obtain rfl := Except.ok.inj is_handle
      exact ⟨directory, name, located, rfl, .inl ⟨nothing, rfl⟩⟩

/-- Opening a file takes no directory away. -/
theorem keepsDirectories_of_openAt {path : Path} {handle : FileHandle}
    (opens : tree.openAt path = (.ok handle, made)) : KeepsDirectories tree made := by
  obtain ⟨_, _, _, _, _, ⟨nothing, rfl⟩ | ⟨_, _, _, rfl⟩⟩ := openAt_eq_ok opens
  · apply KeepsDirectories.of_sameBut (.put tree handle.location _)
    rw [nothing]
    exact nofun
  · exact .refl

/-- It is opened again where it was. -/
theorem openAt_of_keeps {path : Path} {handle : FileHandle}
    (opens : tree.openAt path = (.ok handle, made)) (keeps : KeepsDirectories tree later)
    {content : Bytes} (found : later.content? handle.location = some content) :
    later.openAt path = (.ok handle, later) := by
  obtain ⟨checked, directory, name, located, rfl, _⟩ := openAt_eq_ok opens
  rw [openAt, checked]
  dsimp only
  rw [locate_of_keeps keeps located]
  dsimp only
  rw [content?_eq_some_iff.mp found]

/-! ## The metrics file -/

section Opened

variable {homes : Homes} {path : Text} {handle : FileHandle} {opened : FileTree}
  (opens : openMetricsFile homes tree (.text path) = (.ok handle, opened))

include opens

/-- The metrics file is opened after its directory was made. -/
theorem openMetricsFile_eq_ok :
    ∃ expanded found, (Path.ofText path).expandHome homes = .ok expanded
      ∧ tree.makeDirectories expanded.slashes expanded.parent.names.reverse = (.ok (), found)
      ∧ found.openAt expanded = (.ok handle, opened) := by
  rw [openMetricsFile_text] at opens
  split at opens
  · cases opens
  · next expanded expands =>
      split at opens
      · cases opens
      · next found makes => exact ⟨expanded, found, expands, makes, opens⟩

/-- A path with a zero is never opened. -/
theorem zero_notMem_of_opens : (0 : CodePoint) ∉ path := by
  obtain ⟨_, _, expands, _, opens⟩ := openMetricsFile_eq_ok opens
  obtain ⟨checked, _⟩ := openAt_eq_ok opens
  intro member
  obtain ⟨name, among, inside⟩ :=
    Path.exists_mem_names_of_expandHome expands (Path.exists_mem_names member)
  exact Path.zero_notMem_of_checkText checked (Path.mem_toText among inside)

/-- Nothing waits in the handle. -/
theorem handle_of_opens : handle.pending = [] ∧ handle.closed = false := by
  obtain ⟨_, _, _, _, opens⟩ := openMetricsFile_eq_ok opens
  obtain ⟨_, _, _, _, rfl, _⟩ := openAt_eq_ok opens
  exact ⟨rfl, rfl⟩

/-- Opening the metrics file takes no directory away. -/
theorem keepsDirectories_of_opens : KeepsDirectories tree opened := by
  obtain ⟨_, _, _, makes, opens⟩ := openMetricsFile_eq_ok opens
  exact (makeDirectories_eq_ok makes).1.keeps.trans (keepsDirectories_of_openAt opens)

/-- **Opening the metrics file leaves other files alone.** -/
theorem content?_elsewhere_of_opens {place : Location} (apart : place ≠ handle.location) :
    opened.content? place = tree.content? place := by
  obtain ⟨_, found, _, makes, opens⟩ := openMetricsFile_eq_ok opens
  have adds := (makeDirectories_eq_ok makes).1
  rw [← adds.content?_eq place]
  obtain ⟨_, _, _, _, _, ⟨_, rfl⟩ | ⟨_, _, _, rfl⟩⟩ := openAt_eq_ok opens
  · rw [content?, content?, (SameBut.put found handle.location _).elsewhere place apart]
  · rfl

/-- **What was in the metrics file is in it after it was opened**, which is nothing if there
was no file. -/
theorem content?_of_opens
    (no_device : ∀ device, tree.lookup? handle.location ≠ some (.device device)) :
    opened.content? handle.location = some ((tree.content? handle.location).getD []) := by
  obtain ⟨_, found, _, makes, opens⟩ := openMetricsFile_eq_ok opens
  have adds := (makeDirectories_eq_ok makes).1
  rw [← adds.content?_eq]
  obtain ⟨_, directory, name, _, is_handle, cases_of_entry⟩ := openAt_eq_ok opens
  have below : handle.location ≠ [] := by
    rw [is_handle]
    exact List.append_ne_nil_of_right_ne_nil _ (List.cons_ne_nil name [])
  rcases cases_of_entry with ⟨nothing, rfl⟩ | ⟨entry, other, here, rfl⟩
  · have empty : (found.put handle.location (.file [])).lookup? handle.location
        = some (.file []) := by
      rw [lookup?_put _ _ _ _ below, if_pos rfl]
    rw [content?_eq_some_iff.mpr empty, content?, nothing]
    rfl
  · cases entry with
    | directory => exact absurd rfl other
    | file content =>
        rw [content?_eq_some_iff.mpr here]
        rfl
    | device device =>
        rcases adds.entry handle.location with same | ⟨_, added⟩
        · exact absurd (same ▸ here) (no_device device)
        · rw [added] at here
          cases here

/-- **The metrics file is opened again by the same path** as long as no directory was
taken away and the file is there, and that changes nothing. -/
theorem opens_again (keeps : KeepsDirectories opened later) {content : Bytes}
    (found : later.content? handle.location = some content) :
    openMetricsFile homes later (.text path) = (.ok handle, later) := by
  obtain ⟨expanded, before, expands, makes, opens_at⟩ := openMetricsFile_eq_ok opens
  have kept : KeepsDirectories before later := (keepsDirectories_of_openAt opens_at).trans keeps
  rw [openMetricsFile_text, expands]
  dsimp only
  rw [(makeDirectories_eq_ok makes).2 later kept]
  exact openAt_of_keeps opens_at kept found

end Opened

end FileTree

end Heartbeat
