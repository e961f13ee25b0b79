import Heartbeat.Proofs.Json.Double
import Heartbeat.Proofs.Json.Text

/-!
# Reading back what was written

The strict reader, applied to the text of a document, gives the document back and
leaves nothing over (`read?_render`).  `ReadsBack` says it for a document in the
middle of a text: the reader finds the document and stops right behind it,
whatever follows, as long as a number is not gone on with and the measure of the
reader is twice the length of the document's text or more.  Each kind of document
has a lemma of its own, and the lemmas about containers presuppose the property
for what the containers hold.
-/

namespace Heartbeat

set_option autoImplicit false

namespace Json

/-- The reader finds a document in front of other text. -/
def ReadsBack (document : Json) : Prop :=
  ∀ (measure : Nat) (rest : Text), EndsNumber rest → 2 * document.render.length ≤ measure →
    readValue measure (document.render ++ rest) = some (document, rest)

/-! ## Tokens -/

theorem EndsNumber.cons {point : CodePoint}
    (other : point.isDigit = false ∧ point ≠ CodePoint.ofChar '.'
      ∧ point ≠ CodePoint.ofChar 'e' ∧ point ≠ CodePoint.ofChar 'E') (rest : Text) :
    EndsNumber (point :: rest) := by
  intro first member
  rw [← Option.some.inj member]
  exact other

/-- Where a token begins nothing is skipped. -/
theorem skip_cons {point : CodePoint} (solid : isBetween point = false) (rest : Text) :
    skip (point :: rest) = point :: rest := by
  rw [skip, List.dropWhile_cons_of_neg (by simp [solid])]

/-- What a document may begin with: no blank, and no bracket that closes an array. -/
def Begins (point : CodePoint) : Prop := isBetween point = false ∧ point ≠ 0x5D

/-- What a number begins with is neither of the other points. -/
theorem ne_of_number {point : CodePoint}
    (number : point = CodePoint.ofChar '-' ∨ point.isDigit = true) (mark : CodePoint)
    (other : mark ≠ CodePoint.ofChar '-' ∧ mark.isDigit = false) : point ≠ mark := by
  rintro rfl
  rcases number with sign | digit
  · exact other.1 sign
  · rw [digit] at other
    exact Bool.noConfusion other.2

theorem begins_of_number {point : CodePoint}
    (number : point = CodePoint.ofChar '-' ∨ point.isDigit = true) : Begins point := by
  have other := ne_of_number number
  refine ⟨?_, other 0x5D (by decide)⟩
  simp only [isBetween, other 0x20 (by decide), other 0x09 (by decide), other 0x0A (by decide),
    other 0x0D (by decide), decide_false, Bool.or_false]

/-- The text of a document begins with a token that closes nothing. -/
theorem render_eq_cons (document : Json) :
    ∃ point rest, document.render = point :: rest ∧ Begins point := by
  cases document with
  | null => exact ⟨_, _, rfl, by decide, by decide⟩
  | bool value => cases value <;> exact ⟨_, _, rfl, by decide, by decide⟩
  | int value =>
      obtain ⟨point, rest, written, first⟩ :=
        NumberText.signed_eq_cons (decide (value < 0)) (NumberText.ofNat value.natAbs)
      exact ⟨point, rest, (ofInt_eq_signed value).trans written, begins_of_number first⟩
  | double value =>
      obtain ⟨number, is_signed, _⟩ := render_eq_signed value
      obtain ⟨point, rest, written, first⟩ := number.signed_eq_cons value.negative
      exact ⟨point, rest, is_signed.trans written, begins_of_number first⟩
  | string value => exact ⟨_, _, rfl, by decide, by decide⟩
  | array items => exact ⟨_, _, by rw [render]; rfl, by decide, by decide⟩
  | object members => exact ⟨_, _, by rw [render]; rfl, by decide, by decide⟩

theorem length_render_pos (document : Json) : 0 < document.render.length := by
  obtain ⟨point, rest, written, _⟩ := render_eq_cons document
  rw [written]
  exact Nat.succ_pos _

/-- A document reads back if it does under every measure but zero, which is too
small for any text. -/
theorem ReadsBack.of_succ {document : Json}
    (reads : ∀ (measure : Nat) (rest : Text), EndsNumber rest →
      2 * document.render.length ≤ measure + 1 →
      readValue (measure + 1) (document.render ++ rest) = some (document, rest)) :
    document.ReadsBack := by
  intro measure rest ends enough
  cases measure with
  | zero =>
      have positive := length_render_pos document
      omega
  | succ measure => exact reads measure rest ends enough

/-! ## Documents without parts -/

theorem readsBack_null : ReadsBack .null := by
  refine .of_succ fun measure rest _ _ => ?_
  have word : render .null = CodePoint.ofChar 'n' :: ("ull" : Text) := by
    rw [render]
    rfl
  rw [word, List.cons_append, readValue, skip_cons (by decide)]
  dsimp only
  rw [if_neg (by decide), if_neg (by decide), if_neg (by decide), if_pos rfl]
  rfl

theorem readsBack_bool (value : Bool) : ReadsBack (.bool value) := by
  refine .of_succ fun measure rest _ _ => ?_
  cases value with
  | false =>
      have word : render (.bool false) = CodePoint.ofChar 'f' :: ("alse" : Text) := by
        rw [render]
        rfl
      rw [word, List.cons_append, readValue, skip_cons (by decide)]
      dsimp only
      rw [if_neg (by decide), if_neg (by decide), if_neg (by decide), if_neg (by decide),
        if_neg (by decide), if_pos rfl]
      rfl
  | true =>
      have word : render (.bool true) = CodePoint.ofChar 't' :: ("rue" : Text) := by
        rw [render]
        rfl
      rw [word, List.cons_append, readValue, skip_cons (by decide)]
      dsimp only
      rw [if_neg (by decide), if_neg (by decide), if_neg (by decide), if_neg (by decide),
        if_pos rfl]
      rfl

/-- A number is handed to the reader of numbers. -/
theorem readValue_number (measure : Nat) {point : CodePoint} (rest : Text)
    (number : point = CodePoint.ofChar '-' ∨ point.isDigit = true) :
    readValue (measure + 1) (point :: rest) = readNumber (point :: rest) := by
  have other := ne_of_number number
  rw [readValue, skip_cons (begins_of_number number).1]
  dsimp only
  rw [if_neg (other _ (by decide)), if_neg (other _ (by decide)), if_neg (other _ (by decide)),
    if_neg (other _ (by decide)), if_neg (other _ (by decide)), if_neg (other _ (by decide))]

theorem readsBack_int (value : Int) : ReadsBack (.int value) := by
  refine .of_succ fun measure rest ends _ => ?_
  obtain ⟨point, tail, written, first⟩ :=
    NumberText.signed_eq_cons (decide (value < 0)) (NumberText.ofNat value.natAbs)
  have text : render (.int value) = point :: tail := (ofInt_eq_signed value).trans written
  rw [text, List.cons_append, readValue_number measure _ first, ← List.cons_append, ← text]
  exact readNumber_ofInt value ends

theorem readsBack_double (value : FiniteDouble) : ReadsBack (.double value) := by
  refine .of_succ fun measure rest ends _ => ?_
  obtain ⟨number, is_signed, _⟩ := render_eq_signed value
  obtain ⟨point, tail, written, first⟩ := number.signed_eq_cons value.negative
  have text : render (.double value) = point :: tail := is_signed.trans written
  rw [text, List.cons_append, readValue_number measure _ first, ← List.cons_append, ← text]
  exact readNumber_render value ends

theorem renderText_append (text rest : Text) :
    renderText text ++ rest
      = CodePoint.doubleQuote :: (text.flatMap escape ++ CodePoint.doubleQuote :: rest) := by
  simp only [renderText, List.append_assoc, List.cons_append, List.nil_append]

theorem readsBack_string (value : Text) : ReadsBack (.string value) := by
  refine .of_succ fun measure rest _ _ => ?_
  rw [render, renderText_append, readValue, skip_cons (by decide)]
  dsimp only
  rw [if_neg (by decide), if_neg (by decide), if_pos rfl, readText_renderText]
  rfl

/-! ## Arrays -/

theorem renderMoreItems_cons (item : Json) (items : List Json) :
    renderMoreItems (item :: items) = 0x2C :: renderItems (item :: items) := by
  simp only [renderMoreItems, renderItems, List.cons_append, List.nil_append]

/-- What follows an item ends it. -/
theorem endsNumber_moreItems (items : List Json) (rest : Text) :
    EndsNumber (renderMoreItems items ++ 0x5D :: rest) := by
  cases items with
  | nil => exact EndsNumber.cons (by decide) rest
  | cons item items =>
      rw [renderMoreItems_cons]
      exact EndsNumber.cons (by decide) _

/-- The items of an array are found in front of its closing bracket. -/
theorem readItems_renderItems {items : List Json} (each : ∀ item ∈ items, ReadsBack item)
    (nonempty : items ≠ []) (measure : Nat) (rest : Text)
    (enough : 2 * (renderItems items).length + 1 ≤ measure) :
    readItems measure (renderItems items ++ 0x5D :: rest) = some (items, rest) := by
  induction items generalizing measure with
  | nil => exact absurd rfl nonempty
  | cons item items hypothesis =>
      obtain ⟨measure, rfl⟩ : ∃ smaller, measure = smaller + 1 := ⟨measure - 1, by omega⟩
      have length : (renderItems (item :: items)).length
          = item.render.length + (renderMoreItems items).length := by
        rw [renderItems, List.length_append]
      have first := each item (List.mem_cons_self ..) measure _ (endsNumber_moreItems items rest)
        (by omega)
      rw [renderItems, List.append_assoc, readItems, first]
      dsimp only [Option.bind_eq_bind, Option.bind_some]
      cases items with
      | nil =>
          rw [renderMoreItems, List.nil_append, skip_cons (by decide)]
          dsimp only
          rw [if_neg (by decide), if_pos rfl]
      | cons next items =>
          have shorter : (renderMoreItems (next :: items)).length
              = (renderItems (next :: items)).length + 1 := by
            rw [renderMoreItems_cons, List.length_cons]
          have others := hypothesis (fun item member => each item (List.mem_cons_of_mem _ member))
            (List.cons_ne_nil _ _) measure (by omega)
          rw [renderMoreItems_cons, List.cons_append, skip_cons (by decide)]
          dsimp only
          rw [if_pos rfl, others]
          rfl

/-- An array reads back if its items do. -/
theorem readsBack_array {items : List Json} (each : ∀ item ∈ items, ReadsBack item) :
    ReadsBack (.array items) := by
  refine .of_succ fun measure rest _ enough => ?_
  have text : render (.array items) = 0x5B :: (renderItems items ++ [0x5D]) := by
    simp only [render, List.cons_append, List.nil_append]
  rw [text, List.length_cons, List.length_append, List.length_singleton] at enough
  rw [text, List.cons_append, List.append_assoc, readValue, skip_cons (by decide)]
  dsimp only
  rw [if_pos rfl]
  cases items with
  | nil =>
      rw [renderItems, List.nil_append, List.singleton_append, skip_cons (by decide)]
      dsimp only
      rw [if_pos rfl]
  | cons item items =>
      obtain ⟨point, tail, written, solid, unclosed⟩ := render_eq_cons item
      have first : renderItems (item :: items) = point :: (tail ++ renderMoreItems items) := by
        rw [renderItems, written, List.cons_append]
      have found := readItems_renderItems each (List.cons_ne_nil _ _) measure rest
        (by omega)
      rw [first, List.cons_append] at found
      rw [first, List.singleton_append, List.cons_append, skip_cons solid]
      dsimp only
      rw [if_neg unclosed, found]
      rfl

/-! ## Objects -/

theorem renderMoreMembers_cons (member : Text × Json) (members : List (Text × Json)) :
    renderMoreMembers (member :: members) = 0x2C :: renderMembers (member :: members) := by
  simp only [renderMoreMembers, renderMembers, List.cons_append, List.nil_append, List.append_assoc]

/-- What follows a member ends it. -/
theorem endsNumber_moreMembers (members : List (Text × Json)) (rest : Text) :
    EndsNumber (renderMoreMembers members ++ 0x7D :: rest) := by
  cases members with
  | nil => exact EndsNumber.cons (by decide) rest
  | cons member members =>
      rw [renderMoreMembers_cons]
      exact EndsNumber.cons (by decide) _

/-- A member is found in front of its value. -/
theorem renderMembers_append (name : Text) (value : Json) (members : List (Text × Json))
    (rest : Text) :
    renderMembers ((name, value) :: members) ++ rest
      = CodePoint.doubleQuote :: (name.flatMap escape
        ++ CodePoint.doubleQuote :: 0x3A :: (value.render
        ++ (renderMoreMembers members ++ rest))) := by
  simp only [renderMembers, List.append_assoc, List.cons_append, List.nil_append,
    renderText_append]

/-- The members of an object are found in front of its closing bracket. -/
theorem readMembers_renderMembers {members : List (Text × Json)}
    (each : ∀ member ∈ members, ReadsBack member.2) (nonempty : members ≠ []) (measure : Nat)
    (rest : Text) (enough : 2 * (renderMembers members).length + 1 ≤ measure) :
    readMembers measure (renderMembers members ++ 0x7D :: rest) = some (members, rest) := by
  induction members generalizing measure with
  | nil => exact absurd rfl nonempty
  | cons member members hypothesis =>
      obtain ⟨name, value⟩ := member
      obtain ⟨measure, rfl⟩ : ∃ smaller, measure = smaller + 1 := ⟨measure - 1, by omega⟩
      have length : value.render.length + (renderMoreMembers members).length
          ≤ (renderMembers ((name, value) :: members)).length := by
        rw [renderMembers]
        simp only [List.length_append]
        omega
      have first := each (name, value) (List.mem_cons_self ..) measure _
        (endsNumber_moreMembers members rest) (by dsimp only; omega)
      rw [renderMembers_append, readMembers, skip_cons (by decide)]
      dsimp only
      rw [if_pos rfl, readText_renderText]
      dsimp only [Option.bind_eq_bind, Option.bind_some]
      rw [skip_cons (by decide)]
      dsimp only
      rw [if_pos rfl, first]
      dsimp only [Option.bind_eq_bind, Option.bind_some]
      cases members with
      | nil =>
          rw [renderMoreMembers, List.nil_append, skip_cons (by decide)]
          dsimp only
          rw [if_neg (by decide), if_pos rfl]
      | cons next members =>
          have shorter : (renderMoreMembers (next :: members)).length
              = (renderMembers (next :: members)).length + 1 := by
            rw [renderMoreMembers_cons, List.length_cons]
          have others := hypothesis
            (fun member inside => each member (List.mem_cons_of_mem _ inside))
            (List.cons_ne_nil _ _) measure (by omega)
          rw [renderMoreMembers_cons, List.cons_append, skip_cons (by decide)]
          dsimp only
          rw [if_pos rfl, others]
          rfl

/-- An object reads back if the values of its members do. -/
theorem readsBack_object {members : List (Text × Json)}
    (each : ∀ member ∈ members, ReadsBack member.2) : ReadsBack (.object members) := by
  refine .of_succ fun measure rest _ enough => ?_
  have text : render (.object members) = 0x7B :: (renderMembers members ++ [0x7D]) := by
    simp only [render, List.cons_append, List.nil_append]
  rw [text, List.length_cons, List.length_append, List.length_singleton] at enough
  rw [text, List.cons_append, List.append_assoc, List.singleton_append, readValue,
    skip_cons (by decide)]
  dsimp only
  rw [if_neg (by decide), if_pos rfl]
  cases members with
  | nil =>
      rw [renderMembers, List.nil_append, skip_cons (by decide)]
      dsimp only
      rw [if_pos rfl]
  | cons member members =>
      obtain ⟨name, value⟩ := member
      have found := readMembers_renderMembers each (List.cons_ne_nil _ _) measure rest
        (by omega)
      rw [renderMembers_append] at found
      rw [renderMembers_append, skip_cons (by decide)]
      dsimp only
      rw [if_neg (by decide), found]
      rfl

/-! ## All documents -/

/-- What holds of documents without parts, and of a container if it holds of what
the container holds, holds of every document. -/
@[elab_as_elim]
theorem documentInduction {motive : Json → Prop} (null : motive .null)
    (bool : ∀ value, motive (.bool value)) (int : ∀ value, motive (.int value))
    (double : ∀ value, motive (.double value)) (string : ∀ value, motive (.string value))
    (array : ∀ items, (∀ item ∈ items, motive item) → motive (.array items))
    (object : ∀ members : List (Text × Json), (∀ member ∈ members, motive member.2) →
      motive (.object members)) (document : Json) : motive document := by
  match document with
  | .null => exact null
  | .bool value => exact bool value
  | .int value => exact int value
  | .double value => exact double value
  | .string value => exact string value
  | .array items =>
      refine array items fun item member => ?_
      have smaller := List.sizeOf_lt_of_mem member
      exact documentInduction null bool int double string array object item
  | .object members =>
      refine object members fun (name, value) member => ?_
      have smaller := List.sizeOf_lt_of_mem member
      exact documentInduction null bool int double string array object value
termination_by sizeOf document
decreasing_by
  · simp only [Json.array.sizeOf_spec]
    omega
  · simp only [Json.object.sizeOf_spec, Prod.mk.sizeOf_spec] at smaller ⊢
    omega

/-- Every document reads back in front of other text. -/
theorem readsBack (document : Json) : document.ReadsBack := by
  induction document using documentInduction with
  | null => exact readsBack_null
  | bool value => exact readsBack_bool value
  | int value => exact readsBack_int value
  | double value => exact readsBack_double value
  | string value => exact readsBack_string value
  | array items each => exact readsBack_array each
  | object members each => exact readsBack_object each

/-- **Reading the text of a document gives the document.** -/
theorem read?_render (document : Json) : read? document.render = some document := by
  have found := readsBack document (2 * document.render.length + 2) [] .nil (by omega)
  rw [List.append_nil] at found
  rw [read?, found]
  rfl

end Json

end Heartbeat
