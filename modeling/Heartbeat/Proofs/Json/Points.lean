import Heartbeat.Proofs.Json.RoundTrip
import Heartbeat.Proofs.Text.Utf8

/-!
# The points of a written document

The text of a document holds no control below `U+0020` (`printed_of_mem_render`),
since the format itself uses none and a text has its own escaped.  A surrogate in
it comes from a text of the document, and every surrogate of such a text is in it
(`surrogate_mem_render_iff`).
-/

namespace Heartbeat

set_option autoImplicit false

namespace Json

/-! ## The texts of a document -/

mutual

/-- The texts of a document: its strings, and the names of its members. -/
def texts : Json → List Text
  | .string value => [value]
  | .array items => textsOfItems items
  | .object members => textsOfMembers members
  | _ => []

/-- The texts of the items of an array. -/
def textsOfItems : List Json → List Text
  | [] => []
  | item :: items => item.texts ++ textsOfItems items

/-- The texts of the members of an object. -/
def textsOfMembers : List (Text × Json) → List Text
  | [] => []
  | (name, value) :: members => name :: (value.texts ++ textsOfMembers members)

end

/-- A point that the format itself uses: a printed one of ASCII. -/
def Formal (point : CodePoint) : Prop := 0x20 ≤ point.val ∧ point.val < 0x7F

instance (point : CodePoint) : Decidable (Formal point) :=
  inferInstanceAs (Decidable (0x20 ≤ point.val ∧ point.val < 0x7F))

/-- A point of the format, or a printed point out of given texts. -/
def From (texts : List Text) (point : CodePoint) : Prop :=
  Formal point ∨ 0x20 ≤ point.val ∧ ∃ text ∈ texts, point ∈ text

theorem From.mono {texts more : List Text} {point : CodePoint} (wider : texts ⊆ more)
    (origin : From texts point) : From more point := by
  rcases origin with formal | ⟨printed, text, member, inside⟩
  · exact .inl formal
  · exact .inr ⟨printed, text, wider member, inside⟩

/-! ## Numbers and texts -/

theorem formal_of_all {text : Text} {point : CodePoint}
    (all : text.all (fun point => decide (Formal point)) = true) (member : point ∈ text) :
    Formal point := of_decide_eq_true (List.all_eq_true.mp all point member)

theorem formal_of_isDigit {point : CodePoint} (digit : point.isDigit = true) : Formal point := by
  simp only [CodePoint.isDigit, Bool.and_eq_true, decide_eq_true_eq] at digit
  exact ⟨by omega, by omega⟩

/-- A number is written in points of the format. -/
theorem formal_of_mem_text {number : NumberText} {point : CodePoint}
    (member : point ∈ number.text) : Formal point := by
  rw [NumberText.text, List.mem_append, List.mem_append] at member
  rcases member with whole | fraction | exponent
  · exact formal_of_isDigit (number.isDigit_whole point whole)
  · cases found : number.fraction with
    | none =>
        rw [found] at fraction
        cases fraction
    | some digits =>
        rw [found, NumberText.fractionText, List.mem_cons] at fraction
        rcases fraction with rfl | digit
        · decide
        · exact formal_of_isDigit ((number.isDigit_fraction digits found).2 point digit)
  · cases found : number.exponent with
    | none =>
        rw [found] at exponent
        cases exponent
    | some power =>
        obtain ⟨negative, digits⟩ := power
        rw [found, NumberText.exponentText, List.mem_cons, List.mem_cons] at exponent
        rcases exponent with rfl | rfl | digit
        · decide
        · cases negative <;> decide
        · exact formal_of_isDigit ((number.isDigit_exponent _ found).2 point digit)

theorem formal_of_mem_signed {negative : Bool} {number : NumberText} {point : CodePoint}
    (member : point ∈ number.signed negative) : Formal point := by
  cases negative with
  | false => exact formal_of_mem_text member
  | true =>
      rcases List.mem_cons.mp member with rfl | inside
      · decide
      · exact formal_of_mem_text inside

theorem formal_of_escaped? {letter point : CodePoint} (meant : escaped? letter = some point) :
    Formal letter := by
  have known : ∀ mark : CodePoint, letter = mark → Formal mark → Formal letter := by
    rintro mark rfl formal
    exact formal
  rw [escaped?] at meant
  split_ifs at meant with quoted slash backspace formFeed lineFeed carriageReturn tab
  · rw [Bool.or_eq_true, decide_eq_true_eq, decide_eq_true_eq] at quoted
    exact quoted.elim (fun same => known _ same (by decide)) fun same => known _ same (by decide)
  · exact known _ slash (by decide)
  · exact known _ backspace (by decide)
  · exact known _ formFeed (by decide)
  · exact known _ lineFeed (by decide)
  · exact known _ carriageReturn (by decide)
  · exact known _ tab (by decide)

theorem formal_ofDigit : ∀ digit < 16, Formal (CodePoint.ofDigit digit) := by decide

/-- A point is written in points of the format or, if it is no control, by itself. -/
theorem formal_of_mem_escape {point written : CodePoint} (member : written ∈ escape point) :
    Formal written ∨ (0x20 ≤ written.val ∧ written = point) := by
  rcases escape_cases point with ⟨letter, other, meant, form⟩ | ⟨control, form⟩
    | ⟨quote, backslash, shown, form⟩
  · rw [form, List.mem_cons, List.mem_singleton] at member
    rcases member with rfl | rfl
    · exact .inl (by decide)
    · exact .inl (formal_of_escaped? meant)
  · have mark : ("\\u" : Text) = [CodePoint.backslash, CodePoint.ofChar 'u'] := by decide
    rw [form, hexadecimal_control _ control, mark] at member
    simp only [List.cons_append, List.nil_append, List.mem_cons, List.not_mem_nil,
      or_false] at member
    rcases member with rfl | rfl | rfl | rfl | rfl | rfl
    · exact .inl (by decide)
    · exact .inl (by decide)
    · exact .inl (formal_ofDigit 0 (by decide))
    · exact .inl (formal_ofDigit 0 (by decide))
    · exact .inl (formal_ofDigit _ (by omega))
    · exact .inl (formal_ofDigit _ (by omega))
  · rw [form, List.mem_singleton] at member
    subst member
    exact .inr ⟨by omega, rfl⟩

theorem from_of_mem_renderText {text : Text} {point : CodePoint}
    (member : point ∈ renderText text) : From [text] point := by
  simp only [renderText, List.append_assoc, List.mem_append, List.mem_singleton,
    List.mem_flatMap] at member
  rcases member with rfl | ⟨source, inside, written⟩ | rfl
  · exact .inl (by decide)
  · rcases formal_of_mem_escape written with formal | ⟨printed, rfl⟩
    · exact .inl formal
    · exact .inr ⟨printed, text, List.mem_singleton_self text, inside⟩
  · exact .inl (by decide)

/-! ## Documents -/

theorem from_of_mem_renderItems {items : List Json} {point : CodePoint}
    (each : ∀ item ∈ items, point ∈ item.render → From item.texts point)
    (member : point ∈ renderItems items) : From (textsOfItems items) point := by
  induction items with
  | nil => cases member
  | cons item items hypothesis =>
      rw [renderItems, List.mem_append] at member
      rcases member with first | later
      · exact (each item (List.mem_cons_self ..) first).mono (List.subset_append_left _ _)
      · cases items with
        | nil => cases later
        | cons next items =>
            rw [renderMoreItems_cons, List.mem_cons] at later
            rcases later with rfl | others
            · exact .inl (by decide)
            · exact (hypothesis (fun item inside => each item (List.mem_cons_of_mem _ inside))
                others).mono (List.subset_append_right _ _)

theorem from_of_mem_renderMembers {members : List (Text × Json)} {point : CodePoint}
    (each : ∀ member ∈ members, point ∈ member.2.render → From member.2.texts point)
    (member : point ∈ renderMembers members) : From (textsOfMembers members) point := by
  induction members with
  | nil => cases member
  | cons first members hypothesis =>
      obtain ⟨name, value⟩ := first
      simp only [renderMembers, List.append_assoc, List.mem_append, List.mem_singleton] at member
      rcases member with named | rfl | valued | later
      · exact (from_of_mem_renderText named).mono (by simp [textsOfMembers])
      · exact .inl (by decide)
      · exact (each (name, value) (List.mem_cons_self ..) valued).mono (by simp [textsOfMembers])
      · cases members with
        | nil => cases later
        | cons next members =>
            rw [renderMoreMembers_cons, List.mem_cons] at later
            rcases later with rfl | others
            · exact .inl (by decide)
            · refine (hypothesis (fun member inside => each member (List.mem_cons_of_mem _ inside))
                others).mono ?_
              rw [textsOfMembers.eq_2 name value]
              exact List.subset_cons_of_subset _ (List.subset_append_right _ _)

/-- Every point of a written document is one of the format or comes from a text of
the document. -/
theorem from_of_mem_render {document : Json} {point : CodePoint}
    (member : point ∈ document.render) : From document.texts point := by
  induction document using documentInduction with
  | null =>
      rw [render] at member
      exact .inl (formal_of_all (by decide) member)
  | bool value =>
      rw [render] at member
      cases value with
      | false => exact .inl (formal_of_all (by decide) member)
      | true => exact .inl (formal_of_all (by decide) member)
  | int value =>
      rw [render, ofInt_eq_signed] at member
      exact .inl (formal_of_mem_signed member)
  | double value =>
      obtain ⟨number, is_signed, _⟩ := render_eq_signed value
      rw [render, is_signed] at member
      exact .inl (formal_of_mem_signed member)
  | string value =>
      rw [render] at member
      exact from_of_mem_renderText member
  | array items each =>
      simp only [render, List.append_assoc, List.mem_append, List.mem_singleton] at member
      rcases member with rfl | inside | rfl
      · exact .inl (by decide)
      · exact from_of_mem_renderItems each inside
      · exact .inl (by decide)
  | object members each =>
      simp only [render, List.append_assoc, List.mem_append, List.mem_singleton] at member
      rcases member with rfl | inside | rfl
      · exact .inl (by decide)
      · exact from_of_mem_renderMembers each inside
      · exact .inl (by decide)

/-- **No control stands in a written document.** -/
theorem printed_of_mem_render {document : Json} {point : CodePoint}
    (member : point ∈ document.render) : 0x20 ≤ point.val := by
  rcases from_of_mem_render member with formal | ⟨printed, _⟩
  · exact formal.1
  · exact printed

/-! ## Surrogates -/

/-- A surrogate is written as it stands. -/
theorem escape_of_isSurrogate {point : CodePoint} (surrogate : point.isSurrogate = true) :
    escape point = [point] := by
  simp only [CodePoint.isSurrogate, Bool.and_eq_true, decide_eq_true_eq] at surrogate
  have other : ∀ mark : CodePoint, mark.val < 0xD800 → point ≠ mark := by
    rintro mark small rfl
    omega
  rw [escape, if_neg (other _ (by decide)), if_neg (other _ (by decide)),
    if_neg (other _ (by decide)), if_neg (other _ (by decide)), if_neg (other _ (by decide)),
    if_neg (other _ (by decide)), if_neg (other _ (by decide)), if_neg (by omega)]

theorem mem_renderText {text : Text} {point : CodePoint} (surrogate : point.isSurrogate = true)
    (member : point ∈ text) : point ∈ renderText text := by
  have written : point ∈ text.flatMap escape := by
    refine List.mem_flatMap.mpr ⟨point, member, ?_⟩
    rw [escape_of_isSurrogate surrogate]
    exact List.mem_singleton_self point
  exact List.mem_append_left _ (List.mem_append_right _ written)

theorem mem_renderItems {items : List Json} {item : Json} {point : CodePoint}
    (member : item ∈ items) (inside : point ∈ item.render) : point ∈ renderItems items := by
  induction items with
  | nil => cases member
  | cons first items hypothesis =>
      rw [renderItems, List.mem_append]
      rcases List.mem_cons.mp member with rfl | later
      · exact .inl inside
      · cases items with
        | nil => cases later
        | cons next items =>
            rw [renderMoreItems_cons]
            exact .inr (List.mem_cons_of_mem _ (hypothesis later))

theorem mem_renderMembers {members : List (Text × Json)} {member : Text × Json}
    {point : CodePoint} (listed : member ∈ members)
    (inside : point ∈ renderText member.1 ∨ point ∈ member.2.render) :
    point ∈ renderMembers members := by
  induction members with
  | nil => cases listed
  | cons first members hypothesis =>
      obtain ⟨name, value⟩ := first
      simp only [renderMembers, List.append_assoc, List.mem_append, List.mem_singleton]
      rcases List.mem_cons.mp listed with rfl | later
      · exact inside.elim .inl fun valued => .inr (.inr (.inl valued))
      · cases members with
        | nil => cases later
        | cons next members =>
            rw [renderMoreMembers_cons]
            exact .inr (.inr (.inr (List.mem_cons_of_mem _ (hypothesis later))))

theorem exists_of_mem_textsOfItems {items : List Json} {text : Text}
    (member : text ∈ textsOfItems items) : ∃ item ∈ items, text ∈ item.texts := by
  induction items with
  | nil => cases member
  | cons item items hypothesis =>
      rw [textsOfItems, List.mem_append] at member
      rcases member with first | later
      · exact ⟨item, List.mem_cons_self .., first⟩
      · obtain ⟨found, listed, inside⟩ := hypothesis later
        exact ⟨found, List.mem_cons_of_mem _ listed, inside⟩

theorem exists_of_mem_textsOfMembers {members : List (Text × Json)} {text : Text}
    (member : text ∈ textsOfMembers members) :
    ∃ found ∈ members, text = found.1 ∨ text ∈ found.2.texts := by
  induction members with
  | nil => cases member
  | cons first members hypothesis =>
      obtain ⟨name, value⟩ := first
      rw [textsOfMembers, List.mem_cons, List.mem_append] at member
      rcases member with named | valued | later
      · exact ⟨(name, value), List.mem_cons_self .., .inl named⟩
      · exact ⟨(name, value), List.mem_cons_self .., .inr valued⟩
      · obtain ⟨found, listed, inside⟩ := hypothesis later
        exact ⟨found, List.mem_cons_of_mem _ listed, inside⟩

/-- A surrogate in a text of a document stands in the written document. -/
theorem mem_render_of_mem_texts {document : Json} {text : Text} {point : CodePoint}
    (surrogate : point.isSurrogate = true) (member : text ∈ document.texts)
    (inside : point ∈ text) : point ∈ document.render := by
  induction document using documentInduction with
  | null => cases member
  | bool value => cases member
  | int value => cases member
  | double value => cases member
  | string value =>
      rw [texts, List.mem_singleton] at member
      rw [render, ← member]
      exact mem_renderText surrogate inside
  | array items each =>
      obtain ⟨item, listed, found⟩ := exists_of_mem_textsOfItems member
      have written := mem_renderItems listed (each item listed found)
      rw [render]
      exact List.mem_append_left _ (List.mem_append_right _ written)
  | object members each =>
      obtain ⟨found, listed, origin⟩ := exists_of_mem_textsOfMembers member
      have written : point ∈ renderMembers members := by
        refine mem_renderMembers listed ?_
        rcases origin with rfl | valued
        · exact .inl (mem_renderText surrogate inside)
        · exact .inr (each found listed valued)
      rw [render]
      exact List.mem_append_left _ (List.mem_append_right _ written)

/-- **The surrogates of a written document are those of its texts.** -/
theorem surrogate_mem_render_iff (document : Json) {point : CodePoint}
    (surrogate : point.isSurrogate = true) :
    point ∈ document.render ↔ ∃ text ∈ document.texts, point ∈ text := by
  constructor
  · intro member
    rcases from_of_mem_render member with formal | ⟨_, found⟩
    · simp only [CodePoint.isSurrogate, Bool.and_eq_true, decide_eq_true_eq] at surrogate
      have small := formal.2
      omega
    · exact found
  · rintro ⟨text, member, inside⟩
    exact mem_render_of_mem_texts surrogate member inside

/-- A document can be written in bytes if and only if none of its texts holds a
surrogate. -/
theorem encode_render_eq_ok_iff (document : Json) (bytes : Bytes) :
    document.render.encode = .ok bytes
      ↔ (∀ text ∈ document.texts, ∀ point ∈ text, point.isSurrogate = false)
        ∧ document.render.bytes = bytes := by
  rw [Text.encode_eq_ok_iff, and_congr_left_iff]
  intro _
  constructor
  · intro plain text member point inside
    by_contra surrogate
    rw [Bool.not_eq_false] at surrogate
    have written := mem_render_of_mem_texts surrogate member inside
    rw [plain point written] at surrogate
    cases surrogate
  · intro plain point member
    by_contra surrogate
    rw [Bool.not_eq_false] at surrogate
    obtain ⟨text, listed, inside⟩ := (surrogate_mem_render_iff document surrogate).mp member
    rw [plain text listed point inside] at surrogate
    cases surrogate

end Json

end Heartbeat
