import Mathlib.Data.List.Basic
import Heartbeat.Proofs.Value.Writable
import Heartbeat.Value.Graph

/-!
# The first offence in a value

A value may offend against the format in many places at once.  Which of them is found is
said here without writing the value.  A place is a key or a value (`Value.Site`) and has an
address in the value that it stands in.  Whether something offends there depends on what
stands there and on how many containers are around it, never on what is in it
(`Value.Site.Offends`).

An address says what to look into, from the outside in, so that the lexicographic order of
addresses is the order of a traversal: a container comes before what is in it, what is
further left before what is further right, and a key before its value.  What keeps a value
from having a document is what is found at the first address where something offends
(`Value.toJson_error_iff`).
-/

namespace Heartbeat

set_option autoImplicit false

namespace Value

/-- Whether a value is of a class that a key may have. -/
def isKey : Value → Bool
  | .text _ | .status _ | .int _ | .double _ | .bool _ | .null => true
  | _ => false

/-! ## Sites -/

/-- What is looked at by itself when a value is written. -/
inductive Site where
  | key (occupant : Value)
  | value (occupant : Value)

namespace Site

/-- What stands at a site. -/
def occupant : Site → Value
  | .key occupant | .value occupant => occupant

/-- What is in a site, from left to right.  A key comes before its value, and is not
looked into. -/
def contents : Site → List Site
  | .value (.list items) | .value (.tuple items) => items.map .value
  | .value (.dict entries) => entries.flatMap fun entry => [.key entry.1, .value entry.2]
  | _ => []

/-- What holds of a site if it holds of all that is in it holds of every site. -/
@[elab_as_elim]
theorem contentsInduction {motive : Site → Prop}
    (step : ∀ site : Site, (∀ inner ∈ site.contents, motive inner) → motive site)
    (site : Site) : motive site := by
  have bare : ∀ site : Site, site.contents = [] → motive site := by
    intro site nothing
    apply step
    rw [nothing]
    exact fun _ inside => absurd inside List.not_mem_nil
  cases site with
  | key occupant => exact bare _ rfl
  | value occupant =>
      induction occupant using containerInduction with
      | simple value simple =>
          apply bare
          cases value with
          | list | tuple | dict => cases simple
          | _ => rfl
      | list items each | tuple items each =>
          apply step
          intro inner inside
          obtain ⟨item, member, rfl⟩ := List.mem_map.mp inside
          exact each item member
      | dict entries each =>
          apply step
          intro inner inside
          obtain ⟨entry, member, inside⟩ := List.mem_flatMap.mp inside
          rcases List.mem_pair.mp inside with rfl | rfl
          · exact bare _ rfl
          · exact each entry member

/-! ## Addresses -/

/-- The site at an address, which says by their numbers what to look into, from the
outside in. -/
def reach? : List Nat → Site → Option Site
  | [], site => some site
  | index :: address, site => site.contents[index]?.bind (reach? address)

theorem reach?_cons_eq_some_iff {site found : Site} {index : Nat} {address : List Nat} :
    site.reach? (index :: address) = some found
      ↔ ∃ inner, site.contents[index]? = some inner ∧ inner.reach? address = some found := by
  rw [reach?, Option.bind_eq_some_iff]

/-! ## Offences -/

/-- What stands at a site inside `depth` containers is an offence by itself, whatever is
in it.  A container that stands too deep is not compared with those around it. -/
inductive Offends (depth : Nat) : Site → Offence → Prop where
  | foreign (className : Text) :
      Offends depth (.value (.foreign className)) (.unserializable className)
  | command (name context source status : Value) :
      Offends depth (.value (.command name context source status)) (.unserializable "Command")
  | badKey {key : Value} (barred : key.isKey = false) :
      Offends depth (.key key) (.badKey key.className)
  | nonFinite {site : Site} {number : Double} (occupied : site.occupant = .double number)
      (unbounded : ∀ finite, number ≠ .finite finite) : Offends depth site .nonFinite
  | longInteger {site : Site} {number : Int} (occupied : site.occupant = .int number)
      (long : ¬ Short number) : Offends depth site .longInteger
  | circular (level : Nat) (shallow : depth < depthBound) :
      Offends depth (.value (.enclosing level)) .circular
  | tooDeep {value : Value} (nests : value.isSimple = false) (deep : depthBound ≤ depth) :
      Offends depth (.value value) .tooDeep

/-- Something offends at an address in a site that stands inside `depth` containers. -/
def OffendsAt (depth : Nat) (site : Site) (address : List Nat) (offence : Offence) : Prop :=
  ∃ found, site.reach? address = some found ∧ found.Offends (depth + address.length) offence

/-- Something offends at an address, and nothing does at an address before it. -/
structure OffendsFirst (depth : Nat) (site : Site) (address : List Nat) (offence : Offence) :
    Prop where
  offends : site.OffendsAt depth address offence
  first : ∀ other cause, site.OffendsAt depth other cause → ¬ other < address

variable {depth index : Nat} {site inner : Site} {address : List Nat} {offence cause : Offence}

theorem offendsAt_nil_iff : site.OffendsAt depth [] offence ↔ site.Offends depth offence := by
  rw [OffendsAt, reach?]
  simp only [Option.some.injEq, exists_eq_left', List.length_nil, Nat.add_zero]

theorem offendsAt_cons_iff : site.OffendsAt depth (index :: address) offence
    ↔ ∃ inner, site.contents[index]? = some inner
      ∧ inner.OffendsAt (depth + 1) address offence := by
  have deeper : depth + (index :: address).length = depth + 1 + address.length := by
    rw [List.length_cons]
    omega
  constructor
  · rintro ⟨found, reached, offends⟩
    obtain ⟨inner, inside, reached⟩ := reach?_cons_eq_some_iff.mp reached
    exact ⟨inner, inside, found, reached, deeper ▸ offends⟩
  · rintro ⟨inner, inside, found, reached, offends⟩
    exact ⟨found, reach?_cons_eq_some_iff.mpr ⟨inner, inside, reached⟩, deeper ▸ offends⟩

/-! ## Refusals -/

/-- What is written at a site inside `depth` containers comes upon an offence. -/
def Refused (depth : Nat) (offence : Offence) : Site → Prop
  | .key occupant => occupant.keyName = .error offence
  | .value occupant => occupant.toJsonAt depth = .error offence

theorem Refused.unique (refused : site.Refused depth offence) (also : site.Refused depth cause) :
    cause = offence := by
  cases site <;> exact Except.error.inj (Eq.trans (Eq.symm also) refused)

/-- The first of some sites that is refused is refused because of an offence. -/
def FirstRefused (depth : Nat) (offence : Offence) (sites : List Site) : Prop :=
  ∃ before found after, sites = before ++ found :: after ∧ found.Refused depth offence
    ∧ ∀ other ∈ before, ∀ cause, ¬ other.Refused depth cause

theorem FirstRefused.cons {first : Site} {sites : List Site}
    (accepted : ∀ cause, ¬ first.Refused depth cause) (later : FirstRefused depth offence sites) :
    FirstRefused depth offence (first :: sites) := by
  obtain ⟨before, found, after, rfl, refused, apart⟩ := later
  exact ⟨first :: before, found, after, rfl, refused, List.forall_mem_cons.mpr ⟨accepted, apart⟩⟩

theorem firstRefused_of_refused {first : Site} {sites : List Site}
    (refused : first.Refused depth offence) : FirstRefused depth offence (first :: sites) :=
  ⟨[], first, sites, rfl, refused, fun _ inside => absurd inside List.not_mem_nil⟩

/-- What is accepted is not refused. -/
theorem not_refused_of_ok {value : Value} {document : Json}
    (found : value.toJsonAt depth = .ok document) (cause : Offence) :
    ¬ (Site.value value).Refused depth cause := by
  intro refused
  rw [Refused, found] at refused
  cases refused

theorem not_refused_of_named {key : Value} {name : Text} (named : key.keyName = .ok name)
    (cause : Offence) : ¬ (Site.key key).Refused depth cause := by
  intro refused
  rw [Refused, named] at refused
  cases refused

theorem firstRefused_of_items {items : List Value}
    (failed : itemsToJson depth items = .error offence) :
    FirstRefused depth offence (items.map .value) := by
  induction items with
  | nil => cases failed
  | cons item items hypothesis =>
      rw [itemsToJson] at failed
      rcases eq_error_of_bind failed with refused | ⟨document, accepted, failed⟩
      · exact firstRefused_of_refused refused
      rcases eq_error_of_bind failed with later | ⟨documents, _, done⟩
      · exact (hypothesis later).cons (not_refused_of_ok accepted)
      · cases done

theorem firstRefused_of_entries {entries : List (Value × Value)}
    (failed : entriesToJson depth entries = .error offence) :
    FirstRefused depth offence (entries.flatMap fun entry => [.key entry.1, .value entry.2]) := by
  induction entries with
  | nil => cases failed
  | cons entry entries hypothesis =>
      rw [entriesToJson] at failed
      rcases eq_error_of_bind failed with barred | ⟨name, named, failed⟩
      · exact firstRefused_of_refused barred
      refine .cons (not_refused_of_named named) ?_
      rcases eq_error_of_bind failed with refused | ⟨document, accepted, failed⟩
      · exact firstRefused_of_refused refused
      refine .cons (not_refused_of_ok accepted) ?_
      rcases eq_error_of_bind failed with later | ⟨members, _, done⟩
      · exact hypothesis later
      · cases done

/-- A container that is refused stands too deep, or its content is refused. -/
theorem error_within {inner : Type} {content : Except Offence inner} {build : inner → Json}
    (refused : (if depth < depthBound then content >>= fun found => pure (build found)
      else .error .tooDeep) = Except.error offence) :
    (depthBound ≤ depth ∧ offence = .tooDeep) ∨ content = .error offence := by
  split at refused
  · rcases eq_error_of_bind refused with inside | ⟨_, _, done⟩
    · exact .inr inside
    · cases done
  · next deep => exact .inl ⟨Nat.le_of_not_lt deep, (Except.error.inj refused).symm⟩

/-- A key that is refused offends by itself. -/
theorem offends_of_key {key : Value} (refused : (Site.key key).Refused depth offence) :
    (Site.key key).Offends depth offence := by
  rw [Refused] at refused
  cases key with
  | int number =>
      rw [keyName] at refused
      split at refused
      · cases refused
      · next long =>
          obtain rfl := Except.error.inj refused
          exact .longInteger rfl fun short => long ((isWritable_iff number).mpr short)
  | double number =>
      cases number with
      | finite number => cases refused
      | infinite | nan =>
          obtain rfl := Except.error.inj refused
          exact .nonFinite rfl (by rintro _ ⟨⟩)
  | null | bool | text | status => cases refused
  | list | tuple | dict | command | foreign | enclosing =>
      obtain rfl := Except.error.inj refused
      exact .badKey rfl

/-- A value that is refused offends by itself, or something in it is refused. -/
theorem offends_or_firstRefused_of_value {value : Value}
    (refused : (Site.value value).Refused depth offence) :
    (Site.value value).Offends depth offence
      ∨ FirstRefused (depth + 1) offence (Site.value value).contents := by
  rw [Refused] at refused
  cases value with
  | null | bool | text | status => cases refused
  | int number =>
      rw [toJsonAt] at refused
      split at refused
      · cases refused
      · next long =>
          obtain rfl := Except.error.inj refused
          exact .inl (.longInteger rfl fun short => long ((isWritable_iff number).mpr short))
  | double number =>
      cases number with
      | finite number => cases refused
      | infinite | nan =>
          obtain rfl := Except.error.inj refused
          exact .inl (.nonFinite rfl (by rintro _ ⟨⟩))
  | command | foreign =>
      obtain rfl := Except.error.inj refused
      exact .inl (by constructor)
  | enclosing level =>
      rw [toJsonAt] at refused
      split at refused
      · next shallow =>
          obtain rfl := Except.error.inj refused
          exact .inl (.circular level shallow)
      · next deep =>
          obtain rfl := Except.error.inj refused
          exact .inl (.tooDeep rfl (Nat.le_of_not_lt deep))
  | list items | tuple items =>
      rw [toJsonAt] at refused
      rcases error_within refused with ⟨deep, rfl⟩ | inside
      · exact .inl (.tooDeep rfl deep)
      · exact .inr (firstRefused_of_items inside)
  | dict entries =>
      rw [toJsonAt] at refused
      rcases error_within refused with ⟨deep, rfl⟩ | inside
      · exact .inl (.tooDeep rfl deep)
      · exact .inr (firstRefused_of_entries inside)

/-- A site is refused because it offends by itself, or else because of the first that is
refused of what is in it. -/
theorem offends_or_firstRefused (refused : site.Refused depth offence) :
    site.Offends depth offence ∨ FirstRefused (depth + 1) offence site.contents := by
  cases site with
  | key occupant => exact .inl (offends_of_key refused)
  | value occupant => exact offends_or_firstRefused_of_value refused

/-- What offends by itself is refused. -/
theorem refused_of_offends (offends : site.Offends depth offence) : site.Refused depth offence := by
  cases offends with
  | foreign | command => rfl
  | @badKey key barred =>
      cases key with
      | text | status | int | double | bool | null => cases barred
      | _ => rfl
  | @nonFinite site number occupied unbounded =>
      cases number with
      | finite number => exact absurd rfl (unbounded number)
      | infinite negative | nan =>
          cases site <;> obtain rfl := occupied <;> rfl
  | @longInteger site number occupied long =>
      have unwritable : ¬ isWritable number = true := fun short =>
        long ((isWritable_iff number).mp short)
      cases site with
      | key occupant =>
          obtain rfl := occupied
          rw [Refused, keyName, if_neg unwritable]
      | value occupant =>
          obtain rfl := occupied
          rw [Refused, toJsonAt, if_neg unwritable]
  | circular level shallow => rw [Refused, toJsonAt, if_pos shallow]
  | @tooDeep value nests deep =>
      cases value with
      | list | tuple | dict | enclosing => rw [Refused, toJsonAt, if_neg (Nat.not_lt.mpr deep)]
      | _ => cases nests

/-- A site is refused if something in it is. -/
theorem exists_refused_of_mem (inside : inner ∈ site.contents)
    (refused : inner.Refused (depth + 1) offence) : ∃ cause, site.Refused depth cause := by
  cases site with
  | key occupant => cases inside
  | value occupant =>
      cases outcome : occupant.toJsonAt depth with
      | error cause => exact ⟨cause, outcome⟩
      | ok document =>
          exfalso
          cases occupant with
          | list items | tuple items =>
              rw [toJsonAt] at outcome
              obtain ⟨_, found⟩ := isOk_within.mp ⟨document, outcome⟩
              obtain ⟨item, member, rfl⟩ := List.mem_map.mp inside
              obtain ⟨_, accepted⟩ := (itemsToJson_isOk_iff _ items).mp found item member
              exact not_refused_of_ok accepted offence refused
          | dict entries =>
              rw [toJsonAt] at outcome
              obtain ⟨_, found⟩ := isOk_within.mp ⟨document, outcome⟩
              obtain ⟨nameable, each⟩ := (entriesToJson_isOk_iff _ entries).mp found
              obtain ⟨entry, member, inside⟩ := List.mem_flatMap.mp inside
              rcases List.mem_pair.mp inside with rfl | rfl
              · obtain ⟨name, named⟩ := (keyName_isOk_iff entry.1).mpr (nameable entry member)
                exact not_refused_of_named named offence refused
              · obtain ⟨_, accepted⟩ := each entry member
                exact not_refused_of_ok accepted offence refused
          | _ => cases inside

/-! ## The first offence -/

/-- Where something offends, the site is refused. -/
theorem exists_refused_of_offendsAt (offends : site.OffendsAt depth address offence) :
    ∃ cause, site.Refused depth cause := by
  induction address generalizing site depth with
  | nil => exact ⟨offence, refused_of_offends (offendsAt_nil_iff.mp offends)⟩
  | cons index address hypothesis =>
      obtain ⟨inner, inside, offends⟩ := offendsAt_cons_iff.mp offends
      obtain ⟨cause, refused⟩ := hypothesis offends
      exact exists_refused_of_mem (List.mem_of_getElem? inside) refused

/-- Where a site is refused, the offence is the first in it. -/
theorem exists_offendsFirst_of_refused (refused : site.Refused depth offence) :
    ∃ address, site.OffendsFirst depth address offence := by
  induction site using contentsInduction generalizing depth with
  | step site hypothesis =>
      by_cases own : ∃ cause, site.Offends depth cause
      · obtain ⟨cause, offends⟩ := own
        obtain rfl := refused.unique (refused_of_offends offends)
        exact ⟨[], offendsAt_nil_iff.mpr offends, fun other _ _ => List.not_lt_nil other⟩
      obtain offends | ⟨before, found, after, content, refused, accepted⟩ :=
        offends_or_firstRefused refused
      · exact absurd ⟨offence, offends⟩ own
      have inside : site.contents[before.length]? = some found := by
        rw [content, List.getElem?_append_right (Nat.le_refl _), Nat.sub_self]
        rfl
      obtain ⟨address, offends, first⟩ := hypothesis found (List.mem_of_getElem? inside) refused
      refine ⟨before.length :: address, offendsAt_cons_iff.mpr ⟨found, inside, offends⟩, ?_⟩
      intro other cause also earlier
      cases other with
      | nil => exact own ⟨cause, offendsAt_nil_iff.mp also⟩
      | cons index other =>
          obtain ⟨inner, reached, also⟩ := offendsAt_cons_iff.mp also
          rcases List.cons_lt_cons_iff.mp earlier with left | ⟨rfl, sooner⟩
          · -- What is further left is accepted as a whole.
            rw [content, List.getElem?_append_left left] at reached
            obtain ⟨obstacle, refused⟩ := exists_refused_of_offendsAt also
            exact accepted inner (List.mem_of_getElem? reached) obstacle refused
          · obtain rfl := Option.some.inj (inside.symm.trans reached)
            exact first other cause also sooner

theorem OffendsAt.unique (offends : site.OffendsAt depth address offence)
    (also : site.OffendsAt depth address cause) : cause = offence := by
  obtain ⟨found, reached, offends⟩ := offends
  obtain ⟨other, again, also⟩ := also
  obtain rfl := Option.some.inj (reached.symm.trans again)
  exact (refused_of_offends offends).unique (refused_of_offends also)

/-- There is one first offence. -/
theorem OffendsFirst.unique {other : List Nat} (first : site.OffendsFirst depth address offence)
    (also : site.OffendsFirst depth other cause) : other = address ∧ cause = offence := by
  obtain rfl : other = address := List.le_antisymm
    (List.not_lt.mp (also.first address offence first.offends))
    (List.not_lt.mp (first.first other cause also.offends))
  exact ⟨rfl, first.offends.unique also.offends⟩

/-- **A site is refused because of the first offence in it.** -/
theorem refused_iff (site : Site) (depth : Nat) (offence : Offence) :
    site.Refused depth offence ↔ ∃ address, site.OffendsFirst depth address offence := by
  constructor
  · exact exists_offendsFirst_of_refused
  · rintro ⟨address, first⟩
    obtain ⟨cause, refused⟩ := exists_refused_of_offendsAt first.offends
    obtain ⟨other, also⟩ := exists_offendsFirst_of_refused refused
    rwa [(first.unique also).2] at refused

end Site

/-! ## Values -/

/-- Something in a value offends at an address. -/
def OffendsAt (value : Value) (address : List Nat) (offence : Offence) : Prop :=
  (Site.value value).OffendsAt 0 address offence

/-- Something in a value offends at an address, and nothing does at an address before it. -/
def OffendsFirst (value : Value) (address : List Nat) (offence : Offence) : Prop :=
  (Site.value value).OffendsFirst 0 address offence

/-- **What keeps a value from having a document is the first offence in it.** -/
theorem toJson_error_iff (value : Value) (offence : Offence) :
    value.toJson = .error offence ↔ ∃ address, value.OffendsFirst address offence :=
  Site.refused_iff (.value value) 0 offence

/-- What offends in two values alike up to the first offence in one of them is the first
offence in the other one too. -/
theorem OffendsFirst.of_alike {value other : Value} {address : List Nat} {offence : Offence}
    (first : value.OffendsFirst address offence)
    (alike : ∀ earlier, ¬ address < earlier → ∀ cause,
      (other.OffendsAt earlier cause ↔ value.OffendsAt earlier cause)) :
    other.OffendsFirst address offence := by
  refine ⟨(alike address (List.lt_irrefl address) offence).mpr first.offends, ?_⟩
  intro earlier cause offends before
  have also := (alike earlier (List.lt_asymm before) cause).mp offends
  exact first.first earlier cause also before

/-! ## Other texts -/

mutual

/-- A value with other texts in it. -/
def respell (spell : Text → Text) : Value → Value
  | .text content => .text (spell content)
  | .list items => .list (respellItems spell items)
  | .tuple items => .tuple (respellItems spell items)
  | .dict entries => .dict (respellEntries spell entries)
  | .command name context source outcome =>
    .command (respell spell name) (respell spell context) (respell spell source)
      (respell spell outcome)
  | value => value

/-- Items with other texts in them. -/
def respellItems (spell : Text → Text) : List Value → List Value
  | [] => []
  | item :: items => respell spell item :: respellItems spell items

/-- Entries with other texts in them. -/
def respellEntries (spell : Text → Text) : List (Value × Value) → List (Value × Value)
  | [] => []
  | (key, value) :: entries =>
    (respell spell key, respell spell value) :: respellEntries spell entries

end

/-- Two values are the same, or both are texts, or both are of one of the classes whose
values hold others. -/
inductive Alike : Value → Value → Prop where
  | same (value : Value) : Alike value value
  | text (content other : Text) : Alike (.text content) (.text other)
  | list (items others : List Value) : Alike (.list items) (.list others)
  | tuple (items others : List Value) : Alike (.tuple items) (.tuple others)
  | dict (entries others : List (Value × Value)) : Alike (.dict entries) (.dict others)
  | command (name context source outcome name' context' source' outcome' : Value) :
      Alike (.command name context source outcome) (.command name' context' source' outcome')

theorem Alike.symm {value other : Value} (alike : Alike value other) : Alike other value := by
  cases alike <;> constructor

theorem alike_respell (spell : Text → Text) (value : Value) :
    Alike value (value.respell spell) := by
  cases value <;> constructor

namespace Site

section Respelling

variable {spell : Text → Text} {depth : Nat} {site : Site} {address : List Nat} {offence : Offence}

/-- Whether a value offends is a matter of its class, or of its size. -/
theorem Offends.value {value other : Value} (alike : Alike value other)
    (offends : (Site.value value).Offends depth offence) :
    (Site.value other).Offends depth offence := by
  cases offends with
  | foreign className =>
      cases alike
      exact .foreign className
  | command =>
      cases alike <;> exact .command ..
  | nonFinite occupied unbounded =>
      obtain rfl := occupied
      cases alike
      exact .nonFinite rfl unbounded
  | longInteger occupied long =>
      obtain rfl := occupied
      cases alike
      exact .longInteger rfl long
  | circular level shallow =>
      cases alike
      exact .circular level shallow
  | tooDeep nests deep =>
      cases alike with
      | same => exact .tooDeep nests deep
      | text | command => cases nests
      | list | tuple | dict => exact .tooDeep rfl deep

theorem Offends.key {key other : Value} (alike : Alike key other)
    (offends : (Site.key key).Offends depth offence) :
    (Site.key other).Offends depth offence := by
  cases offends with
  | badKey barred =>
      cases alike with
      | same => exact .badKey barred
      | text => cases barred
      | list | tuple | dict | command => exact .badKey rfl
  | nonFinite occupied unbounded =>
      obtain rfl := occupied
      cases alike
      exact .nonFinite rfl unbounded
  | longInteger occupied long =>
      obtain rfl := occupied
      cases alike
      exact .longInteger rfl long

/-- A site with other texts in it. -/
def respell (spell : Text → Text) : Site → Site
  | .key occupant => .key (occupant.respell spell)
  | .value occupant => .value (occupant.respell spell)

/-- Whether a site offends does not depend on its texts. -/
theorem offends_respell_iff :
    (site.respell spell).Offends depth offence ↔ site.Offends depth offence := by
  cases site with
  | key occupant =>
      have alike := alike_respell spell occupant
      exact ⟨Offends.key alike.symm, Offends.key alike⟩
  | value occupant =>
      have alike := alike_respell spell occupant
      exact ⟨Offends.value alike.symm, Offends.value alike⟩

theorem contents_respell : (site.respell spell).contents = site.contents.map (respell spell) := by
  have sequence : ∀ items : List Value,
      (respellItems spell items).map Site.value = (items.map .value).map (respell spell) := by
    intro items
    induction items with
    | nil => rfl
    | cons item items hypothesis => exact congrArg (_ :: ·) hypothesis
  cases site with
  | key occupant => rfl
  | value occupant =>
      cases occupant with
      | list items | tuple items => exact sequence items
      | dict entries =>
          rw [respell, Value.respell, contents, contents]
          induction entries with
          | nil => rfl
          | cons entry entries hypothesis =>
              rw [respellEntries, List.flatMap_cons, List.flatMap_cons, List.map_append, hypothesis]
              rfl
      | _ => rfl

theorem reach?_respell (spell : Text → Text) (site : Site) (address : List Nat) :
    (site.respell spell).reach? address = (site.reach? address).map (respell spell) := by
  induction address generalizing site with
  | nil => rfl
  | cons index address hypothesis =>
      rw [reach?, reach?, contents_respell, List.getElem?_map]
      cases site.contents[index]? with
      | none => rfl
      | some inner => exact hypothesis inner

end Respelling

end Site

/-- What offends, and where, does not depend on texts. -/
theorem offendsAt_respell_iff (spell : Text → Text) (value : Value) (address : List Nat)
    (offence : Offence) :
    (value.respell spell).OffendsAt address offence ↔ value.OffendsAt address offence := by
  have reached := Site.reach?_respell spell (.value value) address
  rw [OffendsAt, OffendsAt, Site.OffendsAt, Site.OffendsAt]
  rw [Site.respell] at reached
  rw [reached]
  constructor
  · rintro ⟨found, there, offends⟩
    obtain ⟨original, here, rfl⟩ := Option.map_eq_some_iff.mp there
    exact ⟨original, here, Site.offends_respell_iff.mp offends⟩
  · rintro ⟨original, here, offends⟩
    exact ⟨_, Option.map_eq_some_iff.mpr ⟨original, here, rfl⟩,
      Site.offends_respell_iff.mpr offends⟩

end Value

end Heartbeat
