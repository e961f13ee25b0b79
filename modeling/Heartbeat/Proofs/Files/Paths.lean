import Heartbeat.Proofs.Files.Opening

/-!
# Texts of paths

Taking a text apart drops what makes no difference, and a path that came about this way is
normal: each of its names leads somewhere and is of one piece.  A normal path is got back
from its text (`Path.ofText_toText`), so it makes no difference whether a path is handed on
as it was written or as the text of what it was taken apart to (`Path.ofText_toText_ofText`).

Nothing that could stand in the way of opening a file is dropped either: a zero in the text
is in one of the names (`Path.exists_mem_names`), and stays there when the tilde in front is
replaced.
-/

namespace Heartbeat

set_option autoImplicit false

/-! ## Splitting and joining -/

namespace Text

variable {separator point : CodePoint} {text piece : Text}

/-- No piece holds the separator. -/
theorem separator_notMem_of_mem_split (among : piece ∈ split separator text) :
    separator ∉ piece := by
  induction text generalizing piece with
  | nil =>
      obtain rfl := List.mem_singleton.mp among
      exact List.not_mem_nil
  | cons first rest hypothesis =>
      rw [split] at among
      by_cases here : first = separator
      · rw [if_pos here] at among
        rcases List.mem_cons.mp among with rfl | later
        · exact List.not_mem_nil
        · exact hypothesis later
      · rw [if_neg here] at among
        have apart : separator ≠ first := Ne.symm here
        cases pieces : split separator rest with
        | nil => exact absurd pieces (split_ne_nil separator rest)
        | cons begins others =>
            rw [pieces] at among hypothesis
            rcases List.mem_cons.mp among with rfl | later
            · rw [List.mem_cons, not_or]
              exact ⟨apart, hypothesis (List.mem_cons_self ..)⟩
            · exact hypothesis (List.mem_cons_of_mem _ later)

/-- Every other point is in one of the pieces. -/
theorem exists_mem_split (member : point ∈ text) (other : point ≠ separator) :
    ∃ piece ∈ split separator text, point ∈ piece := by
  rw [← join_split separator text] at member
  rcases mem_join member with between | found
  · exact absurd (List.mem_singleton.mp between) other
  · exact found

/-- A text without the separator is of one piece. -/
theorem split_append (free : separator ∉ piece) (text : Text) :
    split separator (piece ++ text) = match split separator text with
      | [] => [piece]
      | begins :: others => (piece ++ begins) :: others := by
  induction piece with
  | nil =>
      cases pieces : split separator text with
      | nil => exact absurd pieces (split_ne_nil separator text)
      | cons begins others => simp [pieces]
  | cons first rest hypothesis =>
      rw [List.mem_cons, not_or] at free
      rw [List.cons_append, split, if_neg (Ne.symm free.1), hypothesis free.2]
      cases split separator text with
      | nil => rfl
      | cons begins others => rfl

/-- Pieces without the separator are got back from the text that joins them. -/
theorem split_join {pieces : List Text} (some : pieces ≠ [])
    (free : ∀ piece ∈ pieces, separator ∉ piece) :
    split separator (join [separator] pieces) = pieces := by
  induction pieces with
  | nil => exact absurd rfl some
  | cons piece pieces hypothesis =>
      have whole := free piece (List.mem_cons_self ..)
      cases pieces with
      | nil =>
          have single := split_append whole []
          rw [List.append_nil] at single
          rw [join, single]
          simp [split]
      | cons next pieces =>
          have others := hypothesis (List.cons_ne_nil next pieces) fun other inside =>
            free other (List.mem_cons_of_mem _ inside)
          have separated : split separator ([separator] ++ join [separator] (next :: pieces))
              = [] :: next :: pieces := by
            rw [List.singleton_append, split, if_pos rfl, others]
          rw [join, List.append_assoc, split_append whole, separated]
          simp

end Text

/-! ## Normal paths -/

namespace Path

/-- A path as it comes about when a text is taken apart. -/
structure Normal (path : Path) : Prop where
  slashes : path.slashes ≤ 2
  names : ∀ name ∈ path.names, name ≠ [] ∧ name ≠ here ∧ slash ∉ name

theorem normal_ofText (text : Text) : (ofText text).Normal := by
  constructor
  · rw [ofText]
    dsimp only
    split
    · omega
    · split <;> omega
  · intro name among
    obtain ⟨listed, leads⟩ := List.mem_filter.mp among
    rw [Bool.and_eq_true, Bool.not_eq_true', List.isEmpty_eq_false_iff, decide_eq_true_iff] at leads
    exact ⟨leads.1, leads.2, Text.separator_notMem_of_mem_split listed⟩

/-- Leading slashes make no names. -/
theorem namesOf_slashes (slashes : Nat) (text : Text) :
    namesOf (List.replicate slashes slash ++ text) = namesOf text := by
  induction slashes with
  | zero => rfl
  | succ slashes hypothesis =>
      have further : namesOf (slash :: (List.replicate slashes slash ++ text))
          = namesOf (List.replicate slashes slash ++ text) := by
        rw [namesOf, Text.split, if_pos rfl]
        rfl
      rw [List.replicate_succ, List.cons_append, further, hypothesis]

variable {path : Path}

/-- What joins the names of a normal path does not begin with a slash. -/
theorem Normal.head?_join (normal : path.Normal) :
    (Text.join [slash] path.names).head? ≠ some slash := by
  cases named : path.names with
  | nil => exact nofun
  | cons name names =>
      obtain ⟨occupied, _, free⟩ := normal.names name (named ▸ List.mem_cons_self ..)
      obtain ⟨first, rest, rfl⟩ := List.exists_cons_of_ne_nil occupied
      have begins : (Text.join [slash] ((first :: rest) :: names)).head? = some first := by
        cases names <;> rfl
      rw [begins]
      intro same
      rw [Option.some.inj same] at free
      exact free (List.mem_cons_self ..)

/-- The names of a normal path are those in the text that joins them. -/
theorem Normal.namesOf_join (normal : path.Normal) :
    namesOf (Text.join [slash] path.names) = path.names := by
  cases named : path.names with
  | nil => rfl
  | cons name names =>
      rw [namesOf, Text.split_join (List.cons_ne_nil name names), List.filter_eq_self]
      · intro other among
        obtain ⟨occupied, leads, _⟩ := normal.names other (named ▸ among)
        simp [occupied, leads]
      · intro other among
        exact (normal.names other (named ▸ among)).2.2

/-- As many slashes lead as a normal path has. -/
theorem Normal.leading_join (normal : path.Normal) :
    (List.replicate path.slashes slash ++ Text.join [slash] path.names).takeWhile
        (fun point => decide (point = slash))
      = List.replicate path.slashes slash := by
  have begins := normal.head?_join
  have stops : (Text.join [slash] path.names).takeWhile (fun point => decide (point = slash))
      = [] := by
    cases joined : Text.join [slash] path.names with
    | nil => rfl
    | cons first others =>
        rw [joined] at begins
        rw [List.takeWhile_cons_of_neg]
        simpa using begins
  rw [List.takeWhile_append_of_pos, stops, List.append_nil]
  intro point member
  exact decide_eq_true (List.eq_of_mem_replicate member)

/-- **A normal path is got back from its text.** -/
theorem ofText_toText (normal : path.Normal) : ofText path.toText = path := by
  have few := normal.slashes
  have leading := normal.leading_join
  have named := normal.namesOf_join
  obtain ⟨slashes, names⟩ := path
  by_cases nowhere : slashes = 0 ∧ names.isEmpty = true
  · obtain ⟨rfl, empty⟩ := nowhere
    rw [List.isEmpty_iff] at empty
    subst empty
    rfl
  · have joined : (⟨slashes, names⟩ : Path).toText
        = List.replicate slashes slash ++ Text.join [slash] names := if_neg nowhere
    dsimp only at few leading named
    rw [joined, ofText, leading, List.length_replicate, namesOf_slashes, named]
    congr 1
    -- There are no more than two slashes.
    split
    · omega
    · split <;> omega

/-- Taking a path apart twice is taking it apart once. -/
theorem ofText_toText_ofText (text : Text) : ofText (ofText text).toText = ofText text :=
  ofText_toText (normal_ofText text)

/-- The text of a normal path is never empty. -/
theorem toText_ne_nil (normal : path.Normal) : path.toText ≠ [] := by
  rw [toText]
  split
  · exact List.cons_ne_nil _ _
  · next somewhere =>
      intro empty
      obtain ⟨rooted, joined⟩ := List.append_eq_nil_iff.mp empty
      have relative : path.slashes = 0 := by
        have none := congrArg List.length rooted
        simpa using none
      have nameless := normal.namesOf_join
      rw [joined] at nameless
      have unnamed : path.names = [] := nameless.symm
      exact somewhere ⟨relative, by rw [unnamed]; rfl⟩

/-! ## Zeros -/

/-- What can be handed to the system holds no zero. -/
theorem zero_notMem_of_checkText {text : Text} (checked : checkText text = .ok ()) :
    (0 : CodePoint) ∉ text := by
  intro member
  have written : (0 : UInt8) ∈ text.nativeBytes := by
    refine List.mem_flatMap.mpr ⟨0, member, ?_⟩
    decide
  rw [checkText, Text.encodeNative] at checked
  cases run : text.nativeRun? with
  | some run =>
      rw [run] at checked
      cases checked
  | none =>
      simp only [run, List.contains_iff_mem.mpr written, if_true] at checked
      cases checked

/-- A zero in a text is in a name of the path that it writes. -/
theorem exists_mem_names {text : Text} (member : (0 : CodePoint) ∈ text) :
    ∃ name ∈ (ofText text).names, (0 : CodePoint) ∈ name := by
  have other : (0 : CodePoint) ≠ slash := by decide
  obtain ⟨name, among, inside⟩ := Text.exists_mem_split member other
  refine ⟨name, List.mem_filter.mpr ⟨among, ?_⟩, inside⟩
  have occupied : name ≠ [] := List.ne_nil_of_mem inside
  have leads : name ≠ here := by
    rintro rfl
    exact absurd inside (by decide)
  simp [occupied, leads]

/-- The points of a name are in the text of the path. -/
theorem mem_toText {name : Text} {point : CodePoint} (among : name ∈ path.names)
    (inside : point ∈ name) : point ∈ path.toText := by
  have named : ¬ (path.slashes = 0 ∧ path.names.isEmpty = true) := by
    rintro ⟨_, empty⟩
    rw [List.isEmpty_iff.mp empty] at among
    cases among
  rw [toText, if_neg named]
  apply List.mem_append_right
  generalize path.names = names at among
  induction names with
  | nil => cases among
  | cons first names hypothesis =>
      cases names with
      | nil =>
          obtain rfl := List.mem_singleton.mp among
          exact inside
      | cons next names =>
          rw [Text.join]
          rcases List.mem_cons.mp among with rfl | later
          · exact List.mem_append_left _ (List.mem_append_left _ inside)
          · exact List.mem_append_right _ (hypothesis later)

/-- Nobody whose name has a zero has a home directory. -/
theorem zero_notMem_of_homeOf {homes : Homes} {name home : Text}
    (tilde : name.head? = some (CodePoint.ofChar '~')) (found : homeOf homes name = .ok home) :
    (0 : CodePoint) ∉ name := by
  cases name with
  | nil => cases tilde
  | cons begins account =>
      obtain rfl := Option.some.inj tilde
      have apart : (0 : CodePoint) ≠ CodePoint.ofChar '~' := by decide
      rw [List.mem_cons, not_or]
      refine ⟨apart, ?_⟩
      cases account with
      | nil => exact List.not_mem_nil
      | cons first rest =>
          obtain ⟨_, checked, _⟩ := eq_ok_of_bind found
          exact zero_notMem_of_checkText checked

/-- A zero in a path does not go away when the tilde is replaced. -/
theorem exists_mem_names_of_expandHome {homes : Homes} {expanded : Path}
    (expands : path.expandHome homes = .ok expanded)
    (zero : ∃ name ∈ path.names, (0 : CodePoint) ∈ name) :
    ∃ name ∈ expanded.names, (0 : CodePoint) ∈ name := by
  rw [expandHome] at expands
  split at expands
  · next first names _ named =>
      split at expands
      · next tilde =>
          obtain ⟨home, is_home, expands⟩ := eq_ok_of_bind expands
          split at expands
          · cases expands
          · obtain rfl := Except.ok.inj expands
            obtain ⟨name, among, inside⟩ := zero
            rw [named] at among
            rcases List.mem_cons.mp among with rfl | later
            · exact absurd inside (zero_notMem_of_homeOf tilde is_home)
            · exact ⟨name, List.mem_append_right _ later, inside⟩
      · obtain rfl := Except.ok.inj expands
        exact zero
  · obtain rfl := Except.ok.inj expands
    exact zero

end Path

end Heartbeat
