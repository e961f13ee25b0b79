import Heartbeat.Settings.Resolve
import Mathlib.Data.List.Induction

/-!
# Which variable counts

Where settings come from is a list of names and values, in which one name may come up more
than once, spelled in letters of either case.  Of arguments and of the environment the last
one counts (`Sources.lastOf_eq_some_iff`).

In an environment file a variable keeps the place where it came up first and takes the value
that it was given last.  So the spelling counts that came up last, and of its declarations
the last one (`EnvironmentFile.join_lastOf_assign_eq_some_iff`).

Other names do not matter: they can be left out of an environment file
(`EnvironmentFile.filter_assign`) and of every list (`Sources.lastOf_filter`).
-/

namespace Heartbeat

set_option autoImplicit false

namespace Sources

/-! ## The last of a name -/

section LastOf

variable {α : Type} {name : Text} {entries : List (Text × α)} {value : α}

/-- Nothing has a name, in letters of either case. -/
def Unnamed (name : Text) (entries : List (Text × α)) : Prop :=
  ∀ entry ∈ entries, entry.1.toLowerAscii ≠ name

/-- The last that has a name, in letters of either case, has a value. -/
def Last (name : Text) (entries : List (Text × α)) (value : α) : Prop :=
  ∃ before written after, entries = before ++ (written, value) :: after
    ∧ written.toLowerAscii = name ∧ Unnamed name after

theorem lastOf_eq_none_iff : lastOf name entries = none ↔ Unnamed name entries := by
  rw [lastOf, Option.map_eq_none_iff, List.find?_eq_none]
  simp only [List.mem_reverse, decide_eq_true_iff]
  rfl

theorem lastOf_eq_some_iff : lastOf name entries = some value ↔ Last name entries value := by
  rw [lastOf, Option.map_eq_some_iff]
  constructor
  · rintro ⟨⟨written, _⟩, found, rfl⟩
    obtain ⟨named, before, after, same, earlier⟩ := List.find?_eq_some_iff_append.mp found
    refine ⟨after.reverse, written, before.reverse, ?_, of_decide_eq_true named, ?_⟩
    · rw [← List.reverse_reverse entries, same]
      simp
    · intro entry member
      simpa using earlier entry (List.mem_reverse.mp member)
  · rintro ⟨before, written, after, rfl, named, unnamed⟩
    refine ⟨(written, value), List.find?_eq_some_iff_append.mpr ⟨decide_eq_true named,
      after.reverse, before.reverse, by simp, ?_⟩, rfl⟩
    intro entry member
    simpa using unnamed entry (List.mem_reverse.mp member)

/-- Other names do not matter. -/
theorem lastOf_filter {kept : Text → Bool}
    (keeps : ∀ written : Text, written.toLowerAscii = name → kept written = true) :
    lastOf name (entries.filter fun entry => kept entry.1) = lastOf name entries := by
  rw [lastOf, lastOf, ← List.filter_reverse, List.find?_filter]
  congr 2
  funext entry
  by_cases named : entry.1.toLowerAscii = name
  · simp [named, keeps entry.1 named]
  · simp [named]

end LastOf

end Sources

namespace EnvironmentFile

/-! ## Declared variables -/

/-- What is declared, one after the other: a name that is known keeps its place. -/
def assign (declared : List (Text × Option Text)) : List (Text × Option Text) :=
  declared.foldl (fun former given => set given.1 given.2 former) []

section Set

variable {name : Text} {value : Option Text} {declared : List (Text × Option Text)}

/-- Setting a variable keeps the names if its name is there, and adds it to the end
otherwise. -/
theorem map_fst_set (name : Text) (value : Option Text) (former : List (Text × Option Text)) :
    name ∈ former.map Prod.fst ∧ (set name value former).map Prod.fst = former.map Prod.fst
      ∨ name ∉ former.map Prod.fst
        ∧ (set name value former).map Prod.fst = former.map Prod.fst ++ [name] := by
  induction former with
  | nil => exact .inr ⟨List.not_mem_nil, rfl⟩
  | cons entry former hypothesis =>
      obtain ⟨candidate, old⟩ := entry
      rw [set]
      split
      · next same =>
          subst same
          exact .inl ⟨List.mem_cons_self .., rfl⟩
      · next other =>
          rw [List.map_cons, List.map_cons, List.mem_cons, not_or]
          exact hypothesis.imp (fun known => ⟨.inr known.1, congrArg _ known.2⟩)
            fun fresh => ⟨⟨Ne.symm other, fresh.1⟩, congrArg _ fresh.2⟩

/-- What is set is the new value, or it was set before under another name. -/
theorem mem_set {former : List (Text × Option Text)} (nodup : (former.map Prod.fst).Nodup)
    {entry : Text × Option Text} (member : entry ∈ set name value former) :
    entry = (name, value) ∨ entry.1 ≠ name ∧ entry ∈ former := by
  induction former with
  | nil => exact .inl (List.mem_singleton.mp member)
  | cons first former hypothesis =>
      obtain ⟨candidate, old⟩ := first
      rw [List.map_cons, List.nodup_cons] at nodup
      rw [set] at member
      split at member
      · next same =>
          subst same
          rcases List.mem_cons.mp member with rfl | later
          · exact .inl rfl
          · exact .inr ⟨fun same => nodup.1 (List.mem_map.mpr ⟨entry, later, same⟩),
              List.mem_cons_of_mem _ later⟩
      · next other =>
          rcases List.mem_cons.mp member with rfl | later
          · exact .inr ⟨other, List.mem_cons_self ..⟩
          · exact (hypothesis nodup.2 later).imp_right fun found =>
              ⟨found.1, List.mem_cons_of_mem _ found.2⟩

theorem assign_concat (given : Text × Option Text) :
    assign (declared ++ [given]) = set given.1 given.2 (assign declared) := by
  rw [assign, List.foldl_append]
  rfl

/-- The names that are assigned are those that are declared. -/
theorem mem_map_fst_assign :
    name ∈ (assign declared).map Prod.fst ↔ name ∈ declared.map Prod.fst := by
  induction declared using List.reverseRecOn with
  | nil => rfl
  | append_singleton declared given hypothesis =>
      rw [assign_concat, List.map_append, List.mem_append, ← hypothesis]
      rcases map_fst_set given.1 given.2 (assign declared) with ⟨known, same⟩ | ⟨_, same⟩
      · rw [same]
        refine ⟨.inl, fun member => member.elim id fun last => ?_⟩
        obtain rfl := List.mem_singleton.mp last
        exact known
      · rw [same]
        exact List.mem_append

/-- Each name is assigned once. -/
theorem nodup_map_fst_assign (declared : List (Text × Option Text)) :
    ((assign declared).map Prod.fst).Nodup := by
  induction declared using List.reverseRecOn with
  | nil => exact List.nodup_nil
  | append_singleton declared given hypothesis =>
      rw [assign_concat]
      rcases map_fst_set given.1 given.2 (assign declared) with ⟨_, same⟩ | ⟨fresh, same⟩
      · rw [same]
        exact hypothesis
      · rw [same]
        refine List.nodup_append.mpr ⟨hypothesis, List.pairwise_singleton .., ?_⟩
        intro name member other last
        obtain rfl := List.mem_singleton.mp last
        rintro rfl
        exact fresh member

/-- The last declaration of a spelling has a value. -/
def LastSpelled (spelling : Text) (declared : List (Text × Option Text)) (value : Option Text) :
    Prop :=
  ∃ before after, declared = before ++ (spelling, value) :: after
    ∧ spelling ∉ after.map Prod.fst

/-- What is assigned to a spelling is in its last declaration. -/
theorem lastSpelled_of_mem_assign {spelling : Text} (member : (spelling, value) ∈ assign declared) :
    LastSpelled spelling declared value := by
  induction declared using List.reverseRecOn with
  | nil => cases member
  | append_singleton declared given hypothesis =>
      rw [assign_concat] at member
      rcases mem_set (nodup_map_fst_assign declared) member with same | ⟨other, earlier⟩
      · exact ⟨declared, [], by rw [same], nofun⟩
      · obtain ⟨before, after, rfl, last⟩ := hypothesis earlier
        refine ⟨before, after ++ [given], by simp, ?_⟩
        rw [List.map_append, List.mem_append, not_or]
        exact ⟨last, fun same => other (List.mem_singleton.mp same)⟩

/-- The names are assigned in the order in which they come up. -/
theorem split_of_map_fst_assign {front back : List Text} {spelling : Text}
    (split : (assign declared).map Prod.fst = front ++ spelling :: back) :
    ∃ before first after, declared = before ++ (spelling, first) :: after
      ∧ (assign before).map Prod.fst = front := by
  induction declared using List.reverseRecOn generalizing back with
  | nil => cases front <;> cases split
  | append_singleton declared given hypothesis =>
      have earlier : ∀ {back}, (assign declared).map Prod.fst = front ++ spelling :: back →
          ∃ before first after, declared ++ [given] = before ++ (spelling, first) :: after
            ∧ (assign before).map Prod.fst = front := fun split => by
        obtain ⟨before, first, after, rfl, same⟩ := hypothesis split
        exact ⟨before, first, after ++ [given], by simp, same⟩
      rw [assign_concat] at split
      rcases map_fst_set given.1 given.2 (assign declared) with ⟨_, same⟩ | ⟨_, same⟩
      · exact earlier (same ▸ split)
      · rw [same] at split
        obtain rfl | ⟨back, last, rfl⟩ := List.eq_nil_or_concat back
        · obtain ⟨same, last⟩ := List.append_inj' split rfl
          obtain rfl := (List.cons.inj last).1
          exact ⟨declared, given.2, [], rfl, same⟩
        · rw [List.concat_eq_append, ← List.cons_append, ← List.append_assoc] at split
          exact earlier (List.append_inj' split rfl).1

end Set

/-! ## The value of a name -/

variable {declared : List (Text × Option Text)} {name value : Text}

/-- What is declared gives a value to a name in small letters.  The value is in the last
declaration of one spelling of the name, and every other spelling came up before that one
did. -/
def Gives (declared : List (Text × Option Text)) (name value : Text) : Prop :=
  ∃ spelling, spelling.toLowerAscii = name ∧ LastSpelled spelling declared (some value)
    ∧ ∃ before first after, declared = before ++ (spelling, first) :: after
      ∧ spelling ∉ before.map Prod.fst
      ∧ ∀ other ∈ after, other.1.toLowerAscii = name → other.1 ≠ spelling →
        other.1 ∈ before.map Prod.fst

/-- A list is split in one way where a name comes up. -/
theorem eq_of_split {spelling : Text} {before others after rest : List (Text × Option Text)}
    {first second : Option Text}
    (same : before ++ (spelling, first) :: after = others ++ (spelling, second) :: rest)
    (fresh : spelling ∉ before.map Prod.fst) (new : spelling ∉ others.map Prod.fst) :
    before = others ∧ first = second ∧ after = rest := by
  induction before generalizing others with
  | nil =>
      cases others with
      | nil =>
          obtain ⟨⟨_, rfl⟩, rfl⟩ := List.cons.inj same
          exact ⟨rfl, rfl, rfl⟩
      | cons entry others =>
          obtain ⟨rfl, _⟩ := List.cons.inj same
          exact absurd (List.mem_cons_self ..) new
  | cons entry before hypothesis =>
      cases others with
      | nil =>
          obtain ⟨rfl, _⟩ := List.cons.inj same
          exact absurd (List.mem_cons_self ..) fresh
      | cons other others =>
          obtain ⟨rfl, behind⟩ := List.cons.inj same
          rw [List.map_cons, List.mem_cons, not_or] at fresh new
          obtain ⟨rfl, found⟩ := hypothesis behind fresh.2 new.2
          exact ⟨rfl, found⟩

/-- A spelling has one last declaration. -/
theorem LastSpelled.unique {spelling : Text} {first second : Option Text}
    (spelled : LastSpelled spelling declared first)
    (again : LastSpelled spelling declared second) : first = second := by
  obtain ⟨before, after, rfl, last⟩ := spelled
  obtain ⟨others, rest, same, final⟩ := again
  have reversed := congrArg List.reverse same
  rw [List.reverse_append, List.reverse_append, List.reverse_cons, List.reverse_cons,
    List.append_assoc, List.append_assoc, List.singleton_append, List.singleton_append] at reversed
  exact (eq_of_split reversed (by simpa using last) (by simpa using final)).2.1

/-- An assigned variable splits what is declared where its name comes up first.  The names
before it are those that are assigned before it. -/
theorem split_of_assign {front back : List (Text × Option Text)} {spelling : Text}
    {found : Option Text} (same : assign declared = front ++ (spelling, found) :: back) :
    (front.map Prod.fst ++ spelling :: back.map Prod.fst).Nodup
      ∧ ∃ before first after, declared = before ++ (spelling, first) :: after
        ∧ ∀ other, other ∈ before.map Prod.fst ↔ other ∈ front.map Prod.fst := by
  have names : (assign declared).map Prod.fst
      = front.map Prod.fst ++ spelling :: back.map Prod.fst := by rw [same, List.map_append]; rfl
  obtain ⟨before, first, after, split, known⟩ := split_of_map_fst_assign names
  refine ⟨names ▸ nodup_map_fst_assign declared, before, first, after, split, fun other => ?_⟩
  rw [← mem_map_fst_assign, known]

/-- A value that a name has in the end was given to it. -/
theorem gives_of_last (last : Sources.Last name (assign declared) (some value)) :
    Gives declared name value := by
  obtain ⟨front, spelling, back, same, named, unnamed⟩ := last
  have spelled : LastSpelled spelling declared (some value) :=
    lastSpelled_of_mem_assign (same ▸ List.mem_append_right _ (List.mem_cons_self ..))
  obtain ⟨nodup, before, first, after, rfl, known⟩ := split_of_assign same
  refine ⟨spelling, named, spelled, before, first, after, rfl, ?_, ?_⟩
  · rw [known]
    exact fun member => (List.nodup_append.mp nodup).2.2 _ member _ (List.mem_cons_self ..) rfl
  · intro other member also different
    have assigned : other.1 ∈ (assign (before ++ (spelling, first) :: after)).map Prod.fst :=
      mem_map_fst_assign.mpr
        (List.mem_map_of_mem (List.mem_append_right _ (List.mem_cons_of_mem _ member)))
    rw [same, List.map_append, List.mem_append, List.map_cons, List.mem_cons] at assigned
    rcases assigned with earlier | equal | later
    · exact (known other.1).mpr earlier
    · exact absurd equal different
    · obtain ⟨entry, there, equal⟩ := List.mem_map.mp later
      exact absurd (equal ▸ also) (unnamed entry there)

/-- A value that a name was given it has in the end. -/
theorem last_of_gives (gives : Gives declared name value) :
    Sources.Last name (assign declared) (some value) := by
  obtain ⟨spelling, named, spelled, before, first, after, rfl, fresh, covered⟩ := gives
  have assigned : spelling ∈ (assign (before ++ (spelling, first) :: after)).map Prod.fst :=
    mem_map_fst_assign.mpr (by simp)
  obtain ⟨entry, member, equal⟩ := List.mem_map.mp assigned
  obtain ⟨found, rfl⟩ : ∃ found, entry = (spelling, found) := ⟨entry.2, Prod.ext equal rfl⟩
  obtain rfl := (lastSpelled_of_mem_assign member).unique spelled
  obtain ⟨front, back, same⟩ := List.append_of_mem member
  refine ⟨front, spelling, back, same, named, fun other there also => ?_⟩
  obtain ⟨nodup, others, _, _, split, known⟩ := split_of_assign same
  rw [List.nodup_append, List.nodup_cons] at nodup
  obtain ⟨_, ⟨once, _⟩, apart⟩ := nodup
  have later : other.1 ∈ back.map Prod.fst := List.mem_map_of_mem there
  have different : other.1 ≠ spelling := fun equal => once (equal ▸ later)
  have unspelled : spelling ∉ others.map Prod.fst := fun member =>
    apart _ ((known spelling).mp member) _ (List.mem_cons_self ..) rfl
  obtain ⟨rfl, _⟩ := eq_of_split split fresh unspelled
  -- Any other spelling came up before, and so it is in front and not behind.
  have earlier : other.1 ∈ before.map Prod.fst := by
    have declared : other.1 ∈ (before ++ (spelling, first) :: after).map Prod.fst := by
      rw [← mem_map_fst_assign, same, List.map_append]
      exact List.mem_append_right _ (List.mem_cons_of_mem _ later)
    obtain ⟨again, member, equal⟩ := List.mem_map.mp declared
    rw [List.mem_append, List.mem_cons] at member
    rcases member with earlier | rfl | behind
    · exact equal ▸ List.mem_map_of_mem earlier
    · exact absurd equal.symm different
    · exact equal ▸ covered again behind (equal ▸ also) (equal ▸ different)
  exact apart _ ((known other.1).mp earlier) _ (List.mem_cons_of_mem _ later) rfl

/-- The value that a name has in the end is the one that it is given. -/
theorem join_lastOf_assign_eq_some_iff :
    (Sources.lastOf name (assign declared)).join = some value ↔ Gives declared name value := by
  rw [Option.join_eq_some_iff, Sources.lastOf_eq_some_iff]
  exact ⟨gives_of_last, last_of_gives⟩

/-- A name has no value in the end if it is given none. -/
theorem join_lastOf_assign_eq_none_iff :
    (Sources.lastOf name (assign declared)).join = none ↔ ∀ value, ¬ Gives declared name value := by
  rw [Option.eq_none_iff_forall_ne_some]
  exact forall_congr' fun _ => not_congr join_lastOf_assign_eq_some_iff

/-! ## Names that do not matter -/

/-- What is set under a name that is left out is left out. -/
theorem filter_set (kept : Text → Bool) (given : Text × Option Text)
    (former : List (Text × Option Text)) :
    (set given.1 given.2 former).filter (fun entry => kept entry.1)
      = if kept given.1 then set given.1 given.2 (former.filter fun entry => kept entry.1)
        else former.filter fun entry => kept entry.1 := by
  induction former with
  | nil => rw [set, List.filter_cons]; rfl
  | cons entry former hypothesis =>
      obtain ⟨candidate, old⟩ := entry
      rw [set]
      split
      · next same =>
          subst same
          rw [List.filter_cons, List.filter_cons]
          split
          · rw [set, if_pos rfl]
          · rfl
      · next other =>
          rw [List.filter_cons, List.filter_cons, hypothesis]
          split <;> split <;> first | rfl | rw [set, if_neg other]

/-- What is assigned under names that are kept is what they are declared to be. -/
theorem filter_assign (kept : Text → Bool) (declared : List (Text × Option Text)) :
    (assign declared).filter (fun entry => kept entry.1)
      = assign (declared.filter fun entry => kept entry.1) := by
  induction declared using List.reverseRecOn with
  | nil => rfl
  | append_singleton declared given hypothesis =>
      rw [assign_concat, filter_set, List.filter_append, List.filter_cons, List.filter_nil,
        hypothesis]
      split
      · rw [assign_concat]
      · rw [List.append_nil]

end EnvironmentFile

end Heartbeat
