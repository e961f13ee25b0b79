import Heartbeat.Files.Append
import Heartbeat.Proofs.Text.Utf8
import Heartbeat.Proofs.Value.Display

/-!
# Why the metrics file cannot be opened

Opening the metrics file may fail in two ways.  Either the system refuses, and then the
failure is one of the system.  Or the path is hopeless: it begins with a tilde and
there is no home directory for it, or a name in it holds a zero or a surrogate that
stands for no byte.  The failures of hopeless paths are none of the system, and there
are no others (`FileTree.openMetricsFile_error`, `FileTree.hopeless_iff`).  A path that is written plainly,
without a tilde in front and without such points, is never hopeless
(`FileTree.isSystem_of_plain`).
-/

namespace Heartbeat

set_option autoImplicit false

/-! ## Points that are in no path -/

/-- A code point that can stand in no path: zero, or a surrogate that stands for no
byte. -/
def CodePoint.Unfit (point : CodePoint) : Prop :=
  point.val = 0 ∨ point.isSurrogate = true ∧ point.isStrayByte = false

/-- The failures by which unfit points are refused. -/
inductive Failure.RefusesUnfit : Failure → Prop where
  | zero : RefusesUnfit .embeddedNull
  | surrogates (run : SurrogateRun) : RefusesUnfit (.surrogates run)

/-- Only the point zero has a zero among its bytes. -/
theorem CodePoint.val_eq_zero_of_mem_utf8 {point : CodePoint} (member : (0 : UInt8) ∈ point.utf8) :
    point.val = 0 := by
  rcases Nat.lt_or_ge point.val 0x20 with small | large
  · rw [utf8, if_pos (by omega), List.mem_singleton] at member
    have value := congrArg UInt8.toNat member
    rw [UInt8.toNat_ofNat', UInt8.toNat_zero] at value
    omega
  · exact absurd (CodePoint.le_toNat_of_mem_utf8 large member) (by decide)

namespace Text

/-- A text has an unfit point. -/
def HasUnfit (text : Text) : Prop := ∃ point ∈ text, point.Unfit

theorem hasUnfit_of_nativeRun? {text : Text} {run : SurrogateRun}
    (found : text.nativeRun? = some run) : text.HasUnfit := by
  rw [nativeRun?, drop_length_takeWhile] at found
  have begins := List.head?_dropWhile_not (fun point => !point.isSurrogate || point.isStrayByte) text
  have inside := (List.dropWhile_suffix (l := text)
    fun point => !point.isSurrogate || point.isStrayByte).subset
  split at found
  · cases found
  · next first rest left =>
      rw [left] at begins inside
      have refused : first.isSurrogate = true ∧ first.isStrayByte = false := by simpa using begins
      exact ⟨first, inside (List.mem_cons_self ..), .inr refused⟩

theorem hasUnfit_of_zero_mem {text : Text} (member : (0 : UInt8) ∈ text.nativeBytes) :
    text.HasUnfit := by
  obtain ⟨point, inside, part⟩ := List.mem_flatMap.mp member
  refine ⟨point, inside, .inl ?_⟩
  split at part
  · next stray =>
      rw [CodePoint.isStrayByte, Bool.and_eq_true, decide_eq_true_iff, decide_eq_true_iff] at stray
      have value := congrArg UInt8.toNat (List.mem_singleton.mp part)
      rw [UInt8.toNat_ofNat', UInt8.toNat_zero] at value
      omega
  · exact CodePoint.val_eq_zero_of_mem_utf8 part

/-- What is joined has no other points than the pieces and the separator. -/
theorem mem_join {separator : Text} {pieces : List Text} {point : CodePoint}
    (member : point ∈ join separator pieces) :
    point ∈ separator ∨ ∃ piece ∈ pieces, point ∈ piece := by
  induction pieces with
  | nil => cases member
  | cons piece pieces hypothesis =>
      cases pieces with
      | nil => exact .inr ⟨piece, List.mem_cons_self .., member⟩
      | cons next pieces =>
          rw [join, List.mem_append, List.mem_append] at member
          rcases member with (first | between) | later
          · exact .inr ⟨piece, List.mem_cons_self .., first⟩
          · exact .inl between
          · refine (hypothesis later).imp_right ?_
            rintro ⟨found, among, inside⟩
            exact ⟨found, List.mem_cons_of_mem _ among, inside⟩

/-- What is split has no other points than the text. -/
theorem mem_of_mem_split {separator : CodePoint} {text piece : Text} {point : CodePoint}
    (among : piece ∈ split separator text) (inside : point ∈ piece) : point ∈ text := by
  induction text generalizing piece with
  | nil =>
      obtain rfl := List.mem_singleton.mp among
      cases inside
  | cons first rest hypothesis =>
      rw [split] at among
      split at among
      · rcases List.mem_cons.mp among with rfl | later
        · cases inside
        · exact List.mem_cons_of_mem _ (hypothesis later inside)
      · split at among
        · obtain rfl := List.mem_singleton.mp among
          exact List.mem_cons.mpr ((List.mem_cons.mp inside).imp_right fun impossible => by
            cases impossible)
        · next begins others pieces =>
            rcases List.mem_cons.mp among with rfl | later
            · rcases List.mem_cons.mp inside with rfl | later
              · exact List.mem_cons_self ..
              · exact List.mem_cons_of_mem _ (hypothesis (pieces ▸ List.mem_cons_self ..) later)
            · exact List.mem_cons_of_mem _
                (hypothesis (pieces ▸ List.mem_cons_of_mem _ later) inside)

end Text

/-! ## Paths -/

namespace Path

/-- A name on the way of a path has an unfit point. -/
def HasUnfit (path : Path) : Prop := ∃ name ∈ path.names, name.HasUnfit

theorem hasUnfit_of_toText {path : Path} (unfit : path.toText.HasUnfit) : path.HasUnfit := by
  have slash_fit : ¬ slash.Unfit := by
    rintro (zero | ⟨surrogate, _⟩)
    · cases zero
    · cases surrogate
  obtain ⟨point, member, refused⟩ := unfit
  rw [toText] at member
  split at member
  · obtain rfl : point = 0x2E := List.mem_singleton.mp member
    rcases refused with zero | ⟨surrogate, _⟩
    · cases zero
    · cases surrogate
  · rcases List.mem_append.mp member with leading | joined
    · obtain ⟨_, rfl⟩ := List.mem_replicate.mp leading
      exact absurd refused slash_fit
    · rcases Text.mem_join joined with between | ⟨name, among, inside⟩
      · obtain rfl := List.mem_singleton.mp between
        exact absurd refused slash_fit
      · exact ⟨name, among, point, inside, refused⟩

/-- A text that is refused has an unfit point. -/
theorem checkText_error {text : Text} {failure : Failure}
    (failed : checkText text = .error failure) : failure.RefusesUnfit ∧ text.HasUnfit := by
  rw [checkText, Text.encodeNative] at failed
  cases found : text.nativeRun? with
  | some run =>
      simp only [found] at failed
      obtain rfl := Except.error.inj failed
      exact ⟨.surrogates run, Text.hasUnfit_of_nativeRun? found⟩
  | none =>
      simp only [found] at failed
      split at failed
      · next zero =>
          obtain rfl := Except.error.inj failed
          exact ⟨.zero, Text.hasUnfit_of_zero_mem (List.contains_iff_mem.mp zero)⟩
      · cases failed

/-- A failure that is none of the system and lies in a path: there is no home directory
for the tilde in front of it, or a name in it is unfit, as it is written or after
the home directory took the place of the tilde. -/
inductive Hopeless (homes : Homes) (path : Path) : Failure → Prop where
  | homeless (lost : path.expandHome homes = .error .homeless) : Hopeless homes path .homeless
  | unfit {failure : Failure} (refuses : failure.RefusesUnfit) (unfit : path.HasUnfit) :
      Hopeless homes path failure
  | unfitOnWay {failure : Failure} {expanded : Path} (refuses : failure.RefusesUnfit)
      (found : path.expandHome homes = .ok expanded) (unfit : expanded.HasUnfit) :
      Hopeless homes path failure

/-- A hopeless path is none of the system's business. -/
theorem Hopeless.isSystem_eq_false {homes : Homes} {path : Path} {failure : Failure}
    (hopeless : path.Hopeless homes failure) : failure.isSystem = false := by
  cases hopeless with
  | homeless => rfl
  | unfit refuses | unfitOnWay refuses => cases refuses <;> rfl

/-- A path without a home directory is hopeless. -/
theorem hopeless_of_expandHome {homes : Homes} {path : Path} {failure : Failure}
    (failed : path.expandHome homes = .error failure) : path.Hopeless homes failure := by
  have expanding := failed
  rw [expandHome] at failed
  split at failed
  · next name names _ named =>
      split at failed
      · rcases eq_error_of_bind failed with unknown | ⟨home, _, failed⟩
        · rw [homeOf] at unknown
          split at unknown
          · cases unknown
          · next account =>
              rcases eq_error_of_bind unknown with refused | ⟨_, _, unknown⟩
              · obtain ⟨refuses, point, member, unfit⟩ := checkText_error refused
                refine .unfit refuses ⟨name, ?_, point, List.mem_of_mem_drop member, unfit⟩
                rw [named]
                exact List.mem_cons_self ..
              · split at unknown
                · cases unknown
                · obtain rfl := Except.error.inj unknown
                  exact .homeless expanding
        · split at failed
          · obtain rfl := Except.error.inj failed
            exact .homeless expanding
          · cases failed
      · cases failed
  · cases failed

end Path

/-! ## Directories and files -/

namespace FileTree

/-- Directories are not made because the system refuses, or because a name is
unfit. -/
theorem makeDirectories_error {tree : FileTree} {slashes : Nat} {names : List Text}
    {failure : Failure} (failed : (tree.makeDirectories slashes names).1 = .error failure) :
    failure.isSystem = true ∨ failure.RefusesUnfit ∧ ∃ name ∈ names, name.HasUnfit := by
  induction names generalizing tree with
  | nil => cases failed
  | cons name above hypothesis =>
      rw [makeDirectories] at failed
      split at failed
      · next refused checked =>
          obtain rfl := Except.error.inj failed
          obtain ⟨refuses, unfit⟩ := Path.checkText_error checked
          obtain ⟨found, among, inside⟩ := Path.hasUnfit_of_toText unfit
          exact .inr ⟨refuses, found, List.mem_reverse.mp among, inside⟩
      · split at failed
        · cases failed
        · split at failed
          · next refused left above_failed =>
              obtain rfl := Except.error.inj failed
              exact (hypothesis (congrArg Prod.fst above_failed)).imp_right
                fun ⟨refuses, found, among, inside⟩ =>
                  ⟨refuses, found, List.mem_cons_of_mem _ among, inside⟩
          · split at failed
            · cases failed
            · next fault _ =>
                obtain rfl := Except.error.inj failed
                exact .inl fault.isSystem_kind
        · next fault _ _ =>
            obtain rfl := Except.error.inj failed
            exact .inl fault.isSystem_kind

/-- A file is not opened for one of the same two reasons. -/
theorem openAt_error {tree : FileTree} {path : Path} {failure : Failure}
    (failed : (tree.openAt path).1 = .error failure) :
    failure.isSystem = true ∨ failure.RefusesUnfit ∧ path.HasUnfit := by
  rw [openAt] at failed
  split at failed
  · next refused checked =>
      obtain rfl := Except.error.inj failed
      obtain ⟨refuses, unfit⟩ := Path.checkText_error checked
      exact .inr ⟨refuses, Path.hasUnfit_of_toText unfit⟩
  · split at failed
    · next fault _ =>
        obtain rfl := Except.error.inj failed
        exact .inl fault.isSystem_kind
    · obtain rfl := Except.error.inj failed
      exact .inl rfl
    · dsimp only at failed
      split at failed
      · obtain rfl := Except.error.inj failed
        exact .inl rfl
      · cases failed
      · cases failed

/-- A text stands for the path that it is taken apart to. -/
theorem openMetricsFile_text (homes : Homes) (tree : FileTree) (path : Text) :
    openMetricsFile homes tree (.text path) = match (Path.ofText path).expandHome homes with
      | .error failure => (.error failure, tree)
      | .ok expanded =>
        match tree.makeDirectories expanded.slashes expanded.parent.names.reverse with
        | (.error failure, made) => (.error failure, made)
        | (.ok (), made) => made.openAt expanded := rfl

/-- **The metrics file is not opened because the system refuses, or because its path is
hopeless.** -/
theorem openMetricsFile_error {homes : Homes} {tree : FileTree} {path : Text} {failure : Failure}
    (failed : (openMetricsFile homes tree (.text path)).1 = .error failure) :
    failure.isSystem = true ∨ (Path.ofText path).Hopeless homes failure := by
  rw [openMetricsFile_text] at failed
  split at failed
  · next refused unexpanded =>
      obtain rfl := Except.error.inj failed
      exact .inr (Path.hopeless_of_expandHome unexpanded)
  · next expanded found =>
      split at failed
      · next refused left above_failed =>
          obtain rfl := Except.error.inj failed
          rcases makeDirectories_error (congrArg Prod.fst above_failed) with
            system | ⟨refuses, name, among, unfit⟩
          · exact .inl system
          · refine .inr (.unfitOnWay refuses found ⟨name, ?_, unfit⟩)
            exact List.dropLast_subset _ (List.mem_reverse.mp among)
      · rcases openAt_error failed with system | ⟨refuses, unfit⟩
        · exact .inl system
        · exact .inr (.unfitOnWay refuses found unfit)

/-- The two are exclusive: what keeps the metrics file from being opened is none of the
system if and only if the path is hopeless. -/
theorem hopeless_iff {homes : Homes} {tree : FileTree} {path : Text} {failure : Failure}
    (failed : (openMetricsFile homes tree (.text path)).1 = .error failure) :
    (Path.ofText path).Hopeless homes failure ↔ failure.isSystem = false := by
  refine ⟨fun hopeless => hopeless.isSystem_eq_false, fun other => ?_⟩
  rcases openMetricsFile_error failed with system | hopeless
  · rw [other] at system
    cases system
  · exact hopeless

end FileTree

/-! ## Plain paths -/

/-- A text that writes a path without a tilde in front and without unfit points. -/
structure Text.PlainPath (path : Text) : Prop where
  fit : ¬ path.HasUnfit
  homely : ∀ name ∈ (Path.ofText path).names.head?, name.head? ≠ some (CodePoint.ofChar '~')

namespace Path

theorem hasUnfit_of_ofText {text : Text} (unfit : (ofText text).HasUnfit) : text.HasUnfit := by
  obtain ⟨name, among, point, inside, refused⟩ := unfit
  exact ⟨point, Text.mem_of_mem_split ((List.mem_filter.mp among).1) inside, refused⟩

theorem expandHome_of_plain (homes : Homes) {path : Text} (plain : path.PlainPath) :
    (ofText path).expandHome homes = .ok (ofText path) := by
  rw [expandHome]
  split
  · next name names _ named =>
      have apart := plain.homely name (by rw [named]; rfl)
      rw [if_neg apart]
      rfl
  · rfl

end Path

/-- Only the system can refuse to open a path that is written plainly. -/
theorem FileTree.isSystem_of_plain {homes : Homes} {tree : FileTree} {path : Text}
    {failure : Failure} (plain : path.PlainPath)
    (failed : (openMetricsFile homes tree (.text path)).1 = .error failure) :
    failure.isSystem = true := by
  have whole := Path.expandHome_of_plain homes plain
  have fit : ¬ (Path.ofText path).HasUnfit := fun unfit => plain.fit (Path.hasUnfit_of_ofText unfit)
  rcases openMetricsFile_error failed with system | hopeless
  · exact system
  · cases hopeless with
    | homeless lost =>
        rw [whole] at lost
        cases lost
    | unfit _ unfit => exact absurd unfit fit
    | unfitOnWay _ found unfit =>
        rw [whole] at found
        obtain rfl := Except.ok.inj found
        exact absurd unfit fit

end Heartbeat
