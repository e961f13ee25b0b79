import Heartbeat.Proofs.Settings.Document
import Heartbeat.Proofs.Settings.Variables
import Mathlib.Data.List.Infix

/-!
# Environment files that are read back

Reading a document gives what it declares (`EnvironmentFile.Document.assignments_text`).
The parts are read in the order in which they are written, and each one ends where the next
one begins: a name at what ends a name, a quoted value at its closing quote, and a literal
value at the end of the line, of which a comment and the blanks around it are then taken
off.
-/

namespace Heartbeat

set_option autoImplicit false

namespace EnvironmentFile

/-! ## Reading the end of a line -/

/-- A text that goes on with the end of its line, what follows being the rest; or it is at
an end. -/
inductive Ends : Text → Text → Prop where
  | feed (rest : Text) : Ends (lineFeed :: rest) rest
  | none : Ends [] []

section LineEnds

variable {after rest : Text} (ends : Ends after rest)

include ends

theorem Ends.dropWhile_isLineBlank : after.dropWhile isLineBlank = after := by
  cases ends with
  | feed => rw [List.dropWhile_cons, isLineBlank_lineFeed]; rfl
  | none => rfl

/-- The rest of a line, and what follows it, are told apart. -/
theorem Ends.cut (words : InLine) :
    (words.val ++ after).takeWhile (fun point => decide (point ≠ lineFeed)) = words.val
      ∧ (words.val ++ after).dropWhile (fun point => decide (point ≠ lineFeed)) = after := by
  have inside : ∀ point ∈ words.val, decide (point ≠ lineFeed) = true := fun point member => by
    have inside := words.property point member
    simp only [isInLine, Bool.and_eq_true] at inside
    exact inside.1
  rw [List.takeWhile_append_of_pos inside, List.dropWhile_append_of_pos inside]
  cases ends with
  | feed => simp
  | none => simp

theorem nextLine_append (words : InLine) : nextLine (words.val ++ after) = rest := by
  rw [nextLine, (ends.cut words).2]
  cases ends <;> rfl

/-- Blanks and a comment are passed over. -/
theorem readLineEnd_trail (trail : Trail) : readLineEnd (trail.text ++ after) = .ok rest := by
  obtain ⟨blanks, comment⟩ := trail
  rw [readLineEnd, Trail.text, List.append_assoc, List.dropWhile_append_of_pos blanks.property]
  cases comment with
  | none =>
      rw [commentText, List.nil_append, ends.dropWhile_isLineBlank]
      cases ends with
      | feed => simp
      | none => rfl
  | some words =>
      rw [commentText, List.cons_append, List.dropWhile_cons, isLineBlank_hash]
      show (if hash = lineFeed then _ else if hash = hash then _ else _) = _
      rw [if_neg (by decide), if_pos rfl, nextLine_append ends]

end LineEnds

/-! ## Reading quoted values -/

namespace Piece

variable {mark : CodePoint}

/-- What is written between quotes ends at the closing quote. -/
theorem quotedText_append (quotes : mark = CodePoint.singleQuote ∨ mark = CodePoint.doubleQuote)
    (pieces : List (Piece mark)) (after : Text) :
    quotedText mark (pieces.flatMap text ++ mark :: after) = some (pieces.flatMap text, after) := by
  have straight : CodePoint.backslash ≠ mark := by
    rcases quotes with rfl | rfl <;> decide
  induction pieces with
  | nil => cases after <;> simp [quotedText]
  | cons piece pieces hypothesis =>
      rw [List.flatMap_cons, List.append_assoc]
      cases piece with
      | plain point _ other unescaped =>
          obtain ⟨next, others, same⟩ : ∃ next others,
              pieces.flatMap text ++ mark :: after = next :: others :=
            List.exists_cons_of_ne_nil (by simp)
          rw [text, List.singleton_append, same, quotedText, if_neg other, if_neg unescaped, ← same,
            hypothesis]
          rfl
      | escape letter | kept letter =>
          simp only [text, List.cons_append, List.nil_append]
          rw [quotedText, if_neg straight, if_pos rfl, hypothesis]
          rfl

/-- A point that is no backslash is itself. -/
theorem unescape_cons {point : CodePoint} (straight : point ≠ CodePoint.backslash) (rest : Text) :
    unescape mark (point :: rest) = point :: unescape mark rest := by
  cases rest with
  | nil => rfl
  | cons => rw [unescape, if_neg straight]

/-- With the escapes replaced, pieces are what they stand for. -/
theorem unescape_flatMap_text (pieces : List (Piece mark)) :
    unescape mark (pieces.flatMap text) = pieces.flatMap meaning := by
  induction pieces with
  | nil => rfl
  | cons piece pieces hypothesis =>
      rw [List.flatMap_cons, List.flatMap_cons, ← hypothesis]
      cases piece with
      | plain point _ _ straight => exact unescape_cons straight _
      | escape letter meant _ known =>
          simp only [text, meaning, List.cons_append, List.nil_append]
          rw [unescape, if_pos rfl, known]
      | kept letter _ unknown =>
          have straight : letter ≠ CodePoint.backslash := by
            rintro rfl
            cases unknown
          simp only [text, meaning, List.cons_append, List.nil_append]
          rw [unescape, if_pos rfl, unknown]
          exact congrArg _ (unescape_cons straight _)

end Piece

/-! ## Reading literal values -/

/-- Points that are dropped from the end of a text, up to one that is not. -/
theorem dropEndWhile_append {condition : CodePoint → Bool} {text ending : Text}
    (last : ∀ point ∈ text.getLast?, condition point = false)
    (dropped : ∀ point ∈ ending, condition point = true) :
    Text.dropEndWhile condition (text ++ ending) = text := by
  rw [Text.dropEndWhile, List.reverse_append, List.dropWhile_append_of_pos fun point member =>
    dropped point (List.mem_reverse.mp member)]
  obtain rfl | ⟨front, point, rfl⟩ := List.eq_nil_or_concat text
  · rfl
  · have kept : condition point = false := last point (by simp)
    rw [List.concat_eq_append, List.reverse_append, List.reverse_singleton, List.singleton_append,
      List.dropWhile_cons, kept, if_neg Bool.false_ne_true, List.reverse_cons, List.reverse_reverse]

theorem Uncommented.tail {point : CodePoint} {text : Text}
    (uncommented : Uncommented (point :: text)) : Uncommented text :=
  fun other blank part =>
    uncommented other blank (List.IsInfix.trans part (List.suffix_cons ..).isInfix)

/-- Behind a blank in a text without a comment, no comment begins. -/
theorem Uncommented.head?_dropWhile {point : CodePoint} {text more : Text}
    (uncommented : Uncommented (point :: text)) (blank : point.isBlank = true)
    (bounded : more = [] ∨ ∀ last ∈ (point :: text).getLast?, last.isBlank = false) :
    ((text ++ more).dropWhile CodePoint.isBlank).head? ≠ some hash := by
  induction text generalizing point with
  | nil =>
      rcases bounded with rfl | last
      · exact nofun
      · rw [last point rfl] at blank
        cases blank
  | cons next text hypothesis =>
      rw [List.cons_append, List.dropWhile_cons]
      split
      · next also =>
          refine hypothesis uncommented.tail also (bounded.imp_right fun last => ?_)
          rwa [List.getLast?_cons_cons] at last
      · rintro same
        obtain rfl := Option.some.inj same
        exact uncommented point blank ⟨[], text, rfl⟩

/-- A text without a comment stays, whatever becomes of what follows. -/
theorem Uncommented.withoutComment_append {text more : Text} (uncommented : Uncommented text)
    (bounded : more = [] ∨ ∀ last ∈ text.getLast?, last.isBlank = false) :
    withoutComment (text ++ more) = text ++ withoutComment more := by
  induction text with
  | nil => rfl
  | cons point text hypothesis =>
      have no_comment : ¬ (point.isBlank
          && ((text ++ more).dropWhile CodePoint.isBlank).head? == some hash) = true := by
        intro begins
        rw [Bool.and_eq_true, beq_iff_eq] at begins
        exact uncommented.head?_dropWhile begins.1 bounded begins.2
      rw [List.cons_append, withoutComment, if_neg no_comment, hypothesis uncommented.tail]
      · rfl
      · refine bounded.imp_right fun last other member => last other ?_
        cases text with
        | nil => cases member
        | cons => rwa [List.getLast?_cons_cons]

/-- Blanks hold no comment. -/
theorem uncommented_of_blank {text : Text} (blank : ∀ point ∈ text, point.isBlank = true) :
    Uncommented text := by
  intro point _ part
  have member : hash ∈ text := part.subset (by simp)
  exact absurd (blank hash member) (by decide)

/-- Of blanks with a comment behind them, blanks are left. -/
theorem isBlank_of_mem_withoutComment {trail : Trail}
    (apart : trail.comment ≠ none → trail.blanks.val ≠ []) :
    ∀ point ∈ withoutComment trail.text, point.isBlank = true := by
  obtain ⟨⟨blanks, each⟩, comment⟩ := trail
  have blank : ∀ point ∈ blanks, point.isBlank = true := fun point member =>
    isBlank_of_isLineBlank (each point member)
  cases comment with
  | none =>
      have same : withoutComment (blanks ++ []) = blanks ++ [] :=
        (uncommented_of_blank blank).withoutComment_append (.inl rfl)
      intro point member
      rw [Trail.text, commentText, same, List.append_nil] at member
      exact blank point member
  | some words =>
      obtain ⟨first, others, rfl⟩ := List.exists_cons_of_ne_nil (apart nofun)
      have begins : (first.isBlank && ((others ++ hash :: words.val).dropWhile
          CodePoint.isBlank).head? == some hash) = true := by
        rw [blank first (List.mem_cons_self ..), List.dropWhile_append_of_pos fun point member =>
          blank point (List.mem_cons_of_mem _ member)]
        rfl
      intro point member
      rw [Trail.text, commentText, List.cons_append, withoutComment, if_pos begins] at member
      cases member

/-- A literal value is read without what is around it. -/
theorem literalValue_append {gap : Blanks} {text : InLine} {trail : Trail}
    (first : ∀ point ∈ text.val.head?, point.isBlank = false)
    (last : ∀ point ∈ text.val.getLast?, point.isBlank = false)
    (uncommented : Uncommented (gap.val ++ text.val))
    (apart : trail.comment ≠ none → trail.blanks.val ≠ []) :
    literalValue (gap.val ++ text.val ++ trail.text) = text.val := by
  obtain ⟨text, inside⟩ := text
  cases text with
  | nil =>
      -- The blanks around the value run together, and nothing else is there.
      let whole : Trail := ⟨⟨gap.val ++ trail.blanks.val, fun point member =>
        (List.mem_append.mp member).elim (gap.property point) (trail.blanks.property point)⟩,
        trail.comment⟩
      have same : gap.val ++ [] ++ trail.text = whole.text := by
        rw [List.append_nil, Trail.text, Trail.text, List.append_assoc]
      have blank : ∀ point ∈ withoutComment whole.text, point.isBlank = true :=
        isBlank_of_mem_withoutComment fun commented =>
          List.append_ne_nil_of_right_ne_nil _ (apart commented)
      have dropped : Text.dropEndWhile CodePoint.isBlank ([] ++ withoutComment whole.text) = [] :=
        dropEndWhile_append nofun blank
      rw [same, literalValue, ← List.nil_append (withoutComment whole.text), dropped]
      rfl
  | cons point others =>
      have ends_full : ∀ last ∈ (gap.val ++ point :: others).getLast?, last.isBlank = false := by
        intro final member
        rw [List.getLast?_append_cons] at member
        exact last final member
      have starts_full : isLineBlank point = false := by
        rw [isLineBlank_of_isInLine (inside point (List.mem_cons_self ..))]
        exact first point rfl
      rw [literalValue, uncommented.withoutComment_append (.inr ends_full),
        dropEndWhile_append ends_full (isBlank_of_mem_withoutComment apart),
        List.dropWhile_append_of_pos gap.property, List.dropWhile_cons, starts_full]
      rfl

/-- The rest of a line of which the blanks are gone. -/
theorem Ends.dropWhile_trail {after rest : Text} (ends : Ends after rest) (trail : Trail) :
    (trail.text ++ after).dropWhile isLineBlank = commentText trail.comment ++ after := by
  rw [Trail.text, List.append_assoc, List.dropWhile_append_of_pos trail.blanks.property]
  cases trail.comment with
  | none => exact ends.dropWhile_isLineBlank
  | some words =>
      rw [commentText, List.cons_append, List.dropWhile_cons, isLineBlank_hash]
      rfl

/-- What is behind the blanks at the end of a line, if anything, is a hash sign or the end
of the line. -/
theorem Ends.head?_commentText {after rest : Text} (ends : Ends after rest)
    (comment : Option InLine) :
    ∀ point ∈ (commentText comment ++ after).head?, point = hash ∨ point = lineFeed := by
  intro point member
  cases comment with
  | none =>
      cases ends with
      | feed => exact .inr (Option.some.inj member).symm
      | none => cases member
  | some words => exact .inl (Option.some.inj member).symm

/-! ## Reading declarations -/

/-- A value that does not begin with a quote goes on to the end of the line. -/
theorem readContent_of_head? {text : Text} {point : CodePoint} {others : Text}
    (behind : text.dropWhile isLineBlank = point :: others)
    (unquoted : point ≠ CodePoint.singleQuote ∧ point ≠ CodePoint.doubleQuote) :
    readContent text = .ok (literalValue (text.takeWhile fun point => decide (point ≠ lineFeed)),
      text.dropWhile fun point => decide (point ≠ lineFeed)) := by
  rw [readContent, behind]
  dsimp only
  rw [if_neg (by simp [unquoted])]

theorem readContent_quoted (gap : Blanks) {mark : CodePoint}
    (quotes : mark = CodePoint.singleQuote ∨ mark = CodePoint.doubleQuote)
    (pieces : List (Piece mark)) (more : Text) :
    readContent (gap.val ++ mark :: pieces.flatMap Piece.text ++ [mark] ++ more)
      = .ok (pieces.flatMap Piece.meaning, more) := by
  have full : isLineBlank mark = false := by
    rcases quotes with rfl | rfl <;> decide
  have behind : (gap.val ++ mark :: pieces.flatMap Piece.text ++ [mark] ++ more).dropWhile
      isLineBlank = mark :: (pieces.flatMap Piece.text ++ mark :: more) := by
    rw [List.append_assoc, List.append_assoc, List.dropWhile_append_of_pos gap.property,
      List.cons_append, List.dropWhile_cons, full, if_neg Bool.false_ne_true, List.singleton_append]
  rw [readContent, behind]
  dsimp only
  rw [if_pos (by simpa using quotes), Piece.quotedText_append quotes]
  dsimp only
  rw [Piece.unescape_flatMap_text]

section Values

variable {after rest : Text} (ends : Ends after rest)

include ends

theorem readContent_literal {gap : Blanks} {text : InLine} {trail : Trail}
    (first : ∀ point ∈ text.val.head?, point.isBlank = false
      ∧ point ≠ CodePoint.singleQuote ∧ point ≠ CodePoint.doubleQuote)
    (last : ∀ point ∈ text.val.getLast?, point.isBlank = false)
    (uncommented : Uncommented (gap.val ++ text.val))
    (apart : trail.comment ≠ none → trail.blanks.val ≠ []) :
    readContent (gap.val ++ text.val ++ (trail.text ++ after)) = .ok (text.val, after) := by
  have inside : ∀ point ∈ gap.val ++ text.val ++ trail.text, isInLine point = true := by
    simp only [List.mem_append]
    rintro point ((blank | inside) | trailing)
    · exact isInLine_of_isLineBlank (gap.property point blank)
    · exact text.property point inside
    · exact trail.isInLine_of_mem trailing
  have read := literalValue_append (fun point member => (first point member).1) last uncommented
    apart
  obtain ⟨taken, dropped⟩ := ends.cut ⟨_, inside⟩
  rw [← List.append_assoc]
  obtain ⟨text, each⟩ := text
  cases text with
  | nil =>
      have behind : ((gap.val ++ [] ++ trail.text) ++ after).dropWhile isLineBlank
          = commentText trail.comment ++ after := by
        rw [List.append_nil, List.append_assoc, List.dropWhile_append_of_pos gap.property,
          ends.dropWhile_trail]
      cases nothing : commentText trail.comment ++ after with
      | nil =>
          obtain ⟨_, rfl⟩ := List.append_eq_nil_iff.mp nothing
          rw [readContent, behind, nothing]
      | cons point others =>
          have unquoted : point ≠ CodePoint.singleQuote ∧ point ≠ CodePoint.doubleQuote := by
            have which := ends.head?_commentText trail.comment point (by rw [nothing]; rfl)
            rcases which with rfl | rfl <;> decide
          rw [readContent_of_head? (behind.trans nothing) unquoted, taken, dropped, read]
  | cons point others =>
      have full : isLineBlank point = false := by
        rw [isLineBlank_of_isInLine (each point (List.mem_cons_self ..))]
        exact (first point rfl).1
      have behind : ((gap.val ++ point :: others ++ trail.text) ++ after).dropWhile isLineBlank
          = point :: (others ++ (trail.text ++ after)) := by
        rw [List.append_assoc, List.append_assoc, List.dropWhile_append_of_pos gap.property,
          List.cons_append, List.dropWhile_cons, full]
        rfl
      rw [readContent_of_head? behind (first point rfl).2, taken, dropped, read]

/-- The value of a declaration is read, and then what is left of its line. -/
theorem readValue_append (value : Option (Blanks × Content)) (trail : Trail)
    (apart : ∀ content ∈ value, content.2.IsLiteral → trail.comment ≠ none →
      trail.blanks.val ≠ []) :
    ∃ left, readValue ((Declaration.valueText value ++ (trail.text ++ after)).dropWhile isLineBlank)
        = .ok (value.map fun content => content.2.meaning, left)
      ∧ readLineEnd left = .ok rest := by
  cases value with
  | none =>
      refine ⟨commentText trail.comment ++ after, ?_,
        readLineEnd_trail ends ⟨⟨[], nofun⟩, trail.comment⟩⟩
      rw [Declaration.valueText, List.nil_append, ends.dropWhile_trail]
      have which := ends.head?_commentText trail.comment
      cases left : commentText trail.comment ++ after with
      | nil => rfl
      | cons point others =>
          have other : point ≠ equalsSign := by
            rw [left] at which
            rcases which point rfl with rfl | rfl <;> decide
          rw [readValue, if_neg other]
          rfl
  | some given =>
      obtain ⟨before, content⟩ := given
      have behind : (Declaration.valueText (some (before, content))
          ++ (trail.text ++ after)).dropWhile isLineBlank
          = equalsSign :: (content.text ++ (trail.text ++ after)) := by
        rw [Declaration.valueText, List.append_assoc,
          List.dropWhile_append_of_pos before.property, List.cons_append, List.dropWhile_cons]
        rfl
      have read : ∃ left, readContent (content.text ++ (trail.text ++ after))
          = .ok (content.meaning, left) ∧ readLineEnd left = .ok rest := by
        cases content with
        | literal gap text first last uncommented =>
            exact ⟨after, readContent_literal ends first last uncommented (apart _ rfl trivial),
              readLineEnd_trail ends ⟨⟨[], nofun⟩, none⟩⟩
        | quoted gap mark quotes pieces =>
            exact ⟨trail.text ++ after, readContent_quoted gap quotes pieces _,
              readLineEnd_trail ends trail⟩
      obtain ⟨left, content_read, line_read⟩ := read
      refine ⟨left, ?_, line_read⟩
      rw [behind, readValue, if_pos rfl, content_read]
      rfl

/-- A name is followed by something that ends it. -/
theorem endsName_of_head? (value : Option (Blanks × Content)) (trail : Trail) :
    ∀ point ∈ (Declaration.valueText value ++ (trail.text ++ after)).head?,
      endsName point = true := by
  have blank : ∀ {point : CodePoint}, isLineBlank point = true → endsName point = true :=
    fun blank => by rw [endsName, isBlank_of_isLineBlank blank, Bool.or_true]
  intro point member
  cases value with
  | some given =>
      obtain ⟨⟨before, each⟩, content⟩ := given
      cases before with
      | nil =>
          obtain rfl := Option.some.inj member
          decide
      | cons =>
          obtain rfl := Option.some.inj member
          exact blank (each _ (List.mem_cons_self ..))
  | none =>
      obtain ⟨⟨blanks, each⟩, comment⟩ := trail
      cases blanks with
      | nil =>
          rcases ends.head?_commentText comment point member with rfl | rfl <;> decide
      | cons =>
          obtain rfl := Option.some.inj member
          exact blank (each _ (List.mem_cons_self ..))

end Values

/-- A name without quotes is told apart from what ends it. -/
theorem cut_name {name more : Text} (within : ∀ point ∈ name, endsName point = false)
    (stops : ∀ point ∈ more.head?, endsName point = true) :
    (name ++ more).takeWhile (fun point => !endsName point) = name
      ∧ (name ++ more).dropWhile (fun point => !endsName point) = more := by
  have inside : ∀ point ∈ name, (!endsName point) = true := fun point member => by
    rw [within point member]
    rfl
  rw [List.takeWhile_append_of_pos inside, List.dropWhile_append_of_pos inside]
  cases more with
  | nil => exact ⟨List.append_nil name, rfl⟩
  | cons point others =>
      rw [List.takeWhile_cons, List.dropWhile_cons, stops point rfl]
      exact ⟨List.append_nil name, rfl⟩

theorem Name.readName_append (name : Name) {more : Text}
    (stops : ∀ point ∈ more.head?, endsName point = true) :
    readName (name.text ++ more) = .ok (some name.meaning, more) := by
  cases name with
  | plain name nonempty within unquoted =>
      obtain ⟨point, others, rfl⟩ := List.exists_cons_of_ne_nil nonempty
      obtain ⟨taken, dropped⟩ := cut_name within stops
      have no_comment : point ≠ hash := by
        rintro rfl
        exact absurd (within hash (List.mem_cons_self ..)) (by decide)
      have no_quote : point ≠ CodePoint.singleQuote := fun same => unquoted (congrArg some same)
      show (if point = hash then _ else if point = CodePoint.singleQuote then _
        else if ((point :: others ++ more).takeWhile fun point => !endsName point).isEmpty then _
          else Except.ok (some ((point :: others ++ more).takeWhile fun point => !endsName point),
            (point :: others ++ more).dropWhile fun point => !endsName point)) = _
      rw [if_neg no_comment, if_neg no_quote, taken, dropped]
      rfl
  | quoted name nonempty within =>
      have filled : name.val.isEmpty = false := by simpa using nonempty
      have whole : (quoted name nonempty within).text ++ more
          = CodePoint.singleQuote :: (name.val ++ [CodePoint.singleQuote] ++ more) := rfl
      rw [whole, readName.eq_def]
      dsimp only
      rw [if_neg (by decide), if_pos rfl, Text.cut?_append within]
      dsimp only
      rw [filled]
      rfl

/-- Every name begins with something that is not blank. -/
theorem Name.exists_cons (name : Name) :
    ∃ point others, name.text = point :: others ∧ point.isBlank = false := by
  cases name with
  | plain name nonempty within =>
      obtain ⟨point, others, rfl⟩ := List.exists_cons_of_ne_nil nonempty
      have inside := within point (List.mem_cons_self ..)
      simp only [endsName, Bool.or_eq_false_iff] at inside
      exact ⟨point, others, rfl, inside.2⟩
  | quoted name => exact ⟨CodePoint.singleQuote, _, rfl, by decide⟩

/-- No name is the word `export`, to be followed by a blank. -/
theorem Name.text_append_ne (name : Name) {more : Text}
    (stops : ∀ point ∈ more.head?, endsName point = true) {blank : CodePoint}
    (blank_ends : isLineBlank blank = true) (others : Text) :
    name.text ++ more ≠ Text.ofString "export" ++ blank :: others := by
  intro same
  cases name with
  | plain name _ within _ _ other =>
      have letters : (Text.ofString "export").all (fun point => !endsName point) = true := by decide
      have in_name : ∀ point ∈ Text.ofString "export", endsName point = false := by
        simpa only [List.all_eq_true, Bool.not_eq_true'] using letters
      have word : (Text.ofString "export" ++ blank :: others).takeWhile
          (fun point => !endsName point) = Text.ofString "export" := by
        refine (cut_name in_name ?_).1
        rintro _ ⟨⟩
        rw [endsName, isBlank_of_isLineBlank blank_ends, Bool.or_true]
      rw [← same] at word
      exact other ((cut_name within stops).1.symm.trans word)
  | quoted name =>
      exact absurd (List.cons.inj same).1 (by decide)

/-- The word `export` before a name is passed over. -/
theorem withoutExport_append {exported : Option Blanks}
    (separate : ∀ blanks ∈ exported, blanks.val ≠ []) (name : Name) {more : Text}
    (stops : ∀ point ∈ more.head?, endsName point = true) :
    withoutExport (Declaration.exportText exported ++ (name.text ++ more)) = name.text ++ more := by
  cases exported with
  | some blanks =>
      obtain ⟨blanks, each⟩ := blanks
      obtain ⟨first, others, rfl⟩ := List.exists_cons_of_ne_nil (separate _ rfl)
      have follows : Text.after? (Text.ofString "export")
          (Text.ofString "export" ++ first :: others ++ (name.text ++ more))
          = some (first :: (others ++ (name.text ++ more))) :=
        Text.after?_eq_some_iff.mpr (List.append_assoc ..)
      rw [Declaration.exportText, withoutExport, follows]
      dsimp only
      rw [if_pos (each first (List.mem_cons_self ..)), ← List.cons_append,
        List.dropWhile_append_of_pos each]
      obtain ⟨point, letters, same, full⟩ := name.exists_cons
      rw [same, List.cons_append, List.dropWhile_cons, isLineBlank, full]
      rfl
  | none =>
      rw [Declaration.exportText, List.nil_append, withoutExport]
      split
      · next rest follows =>
          have whole := Text.after?_eq_some_iff.mp follows
          split
          · next next others =>
              split
              · next blank =>
                  exact absurd whole (name.text_append_ne stops blank others)
              · rfl
          · rfl
      · rfl

/-- A declaration is read as what it declares. -/
theorem readEntry_declaration {after rest : Text} (ends : Ends after rest)
    (declaration : Declaration) :
    readEntry (declaration.text ++ after)
      = .ok (⟨some declaration.declared.1, declaration.declared.2⟩, rest) := by
  obtain ⟨exported, name, value, trail, separate, _, apart⟩ := declaration
  have stops := endsName_of_head? ends value trail
  obtain ⟨left, value_read, line_read⟩ := readValue_append ends value trail apart
  rw [Declaration.text, List.append_assoc, List.append_assoc, List.append_assoc, readEntry,
    withoutExport_append separate name stops, name.readName_append stops]
  dsimp only [bind, Except.bind]
  rw [value_read]
  dsimp only
  rw [line_read]
  rfl

/-- A comment is read as an entry without a name. -/
theorem readEntry_comment {after rest : Text} (ends : Ends after rest) (words : InLine) :
    readEntry (hash :: (words.val ++ after)) = .ok (⟨none, none⟩, rest) := by
  have plain : withoutExport (hash :: (words.val ++ after)) = hash :: (words.val ++ after) := rfl
  have name_read : readName (hash :: (words.val ++ after))
      = .ok (none, hash :: (words.val ++ after)) := rfl
  have value_read : readValue ((hash :: (words.val ++ after)).dropWhile isLineBlank)
      = .ok (none, hash :: (words.val ++ after)) := rfl
  have line_read : readLineEnd (hash :: (words.val ++ after)) = .ok rest :=
    readLineEnd_trail ends ⟨⟨[], nofun⟩, some words⟩
  rw [readEntry, plain, name_read]
  dsimp only [bind, Except.bind]
  rw [value_read]
  dsimp only
  rw [line_read]
  rfl

/-! ## Reading lines -/

/-- The variables of entries; a comment has none. -/
def declaredBy (entries : List Entry) : List (Text × Option Text) :=
  entries.filterMap fun entry => entry.name.map fun name => (name, entry.value)

/-- Reading goes on behind the blanks. -/
theorem readEntries_blank_append {blanks : Text} (blank : ∀ point ∈ blanks, point.isBlank = true)
    (measure : Nat) (text : Text) :
    readEntries measure (blanks ++ text) = readEntries measure text := by
  cases measure with
  | zero => rfl
  | succ measure => rw [readEntries, readEntries, List.dropWhile_append_of_pos blank]

/-- An entry is read, and then what is behind it. -/
theorem readEntries_of_readEntry {text rest : Text} {entry : Entry} {point : CodePoint}
    {others : Text} (same : text = point :: others) (full : point.isBlank = false)
    (read : readEntry text = .ok (entry, rest)) (measure : Nat) :
    readEntries (measure + 1) text = entry :: readEntries measure rest := by
  have behind : text.dropWhile CodePoint.isBlank = point :: others := by
    rw [same, List.dropWhile_cons, full]
    rfl
  rw [readEntries, behind]
  dsimp only
  rw [← same, read]

/-- A declaration begins with something that is not blank. -/
theorem Declaration.exists_cons (declaration : Declaration) :
    ∃ point others, declaration.text = point :: others ∧ point.isBlank = false := by
  obtain ⟨exported, name, value, trail, _, _, _⟩ := declaration
  cases exported with
  | none =>
      obtain ⟨point, letters, same, full⟩ := name.exists_cons
      refine ⟨point, letters ++ (valueText value ++ trail.text), ?_, full⟩
      rw [text, exportText, List.nil_append, same, List.cons_append]
  | some blanks => exact ⟨CodePoint.ofChar 'e', _, rfl, by decide⟩

/-- A line is read as what it declares, and then what is behind it. -/
theorem declaredBy_readEntries_line {after rest : Text} (ends : Ends after rest) (line : Line)
    {measure : Nat} (bounded : (line.text ++ after).length < measure) :
    ∃ left, rest.length < left
      ∧ declaredBy (readEntries measure (line.text ++ after))
        = line.declared?.toList ++ declaredBy (readEntries left rest) := by
  have shorter : rest.length ≤ after.length := by
    cases ends with
    | feed => exact Nat.le_succ _
    | none => exact Nat.le_refl _
  rw [List.length_append] at bounded
  cases line with
  | empty trail =>
      obtain ⟨blanks, comment⟩ := trail
      have blank : ∀ point ∈ blanks.val, point.isBlank = true := fun point member =>
        isBlank_of_isLineBlank (blanks.property point member)
      cases comment with
      | none =>
          refine ⟨measure, by omega, ?_⟩
          rw [Line.text, Trail.text, commentText, List.append_nil,
            readEntries_blank_append blank]
          cases ends with
          | none => rfl
          | feed =>
              rw [← List.singleton_append, readEntries_blank_append fun point member => by
                obtain rfl := List.mem_singleton.mp member
                decide]
              rfl
      | some words =>
          obtain ⟨measure, rfl⟩ := Nat.exists_eq_add_one.mpr (Nat.zero_lt_of_lt bounded)
          refine ⟨measure, ?_, ?_⟩
          · simp only [Line.text, Trail.text, commentText, List.length_append,
              List.length_cons] at bounded
            omega
          · rw [Line.text, Trail.text, List.append_assoc, readEntries_blank_append blank,
              commentText, List.cons_append,
              readEntries_of_readEntry rfl (by decide) (readEntry_comment ends words)]
            rfl
  | declares indent declaration =>
      have blank : ∀ point ∈ indent.val, point.isBlank = true := fun point member =>
        isBlank_of_isLineBlank (indent.property point member)
      obtain ⟨point, others, same, full⟩ := declaration.exists_cons
      obtain ⟨measure, rfl⟩ := Nat.exists_eq_add_one.mpr (Nat.zero_lt_of_lt bounded)
      refine ⟨measure, ?_, ?_⟩
      · rw [Line.text, List.length_append, same, List.length_cons] at bounded
        omega
      · rw [Line.text, List.append_assoc, readEntries_blank_append blank,
          readEntries_of_readEntry (congrArg (· ++ after) same) full
            (readEntry_declaration ends declaration)]
        rfl

/-- Lines with a line feed behind each of them, and a last one without. -/
def fedText (lines : List Line) (last : Line) : Text :=
  lines.flatMap (fun line => line.text ++ [lineFeed]) ++ last.text

/-- Lines are read as what they declare. -/
theorem declaredBy_readEntries_fedText (lines : List Line) (last : Line) {measure : Nat}
    (bounded : (fedText lines last).length < measure) :
    declaredBy (readEntries measure (fedText lines last))
      = (lines ++ [last]).filterMap Line.declared? := by
  induction lines generalizing measure with
  | nil =>
      rw [fedText, List.flatMap_nil, List.nil_append, ← List.append_nil last.text] at bounded ⊢
      obtain ⟨left, room, read⟩ := declaredBy_readEntries_line .none last bounded
      obtain ⟨left, rfl⟩ := Nat.exists_eq_add_one.mpr (Nat.zero_lt_of_lt room)
      rw [read]
      cases declared : last.declared? <;> simp [declaredBy, readEntries, declared]
  | cons line lines hypothesis =>
      have split : fedText (line :: lines) last = line.text ++ lineFeed :: fedText lines last := by
        rw [fedText, List.flatMap_cons, List.append_assoc, List.append_assoc,
          List.singleton_append]
        rfl
      rw [split] at bounded ⊢
      obtain ⟨left, room, read⟩ := declaredBy_readEntries_line (.feed _) line bounded
      rw [read, hypothesis room]
      cases declared : line.declared? <;> simp [declared]

/-! ## Line ends and the mark -/

/-- Nothing is a carriage return in a line. -/
theorem normalize_append {text : Text} (inside : ∀ point ∈ text, isInLine point = true)
    (more : Text) : normalize (text ++ more) = text ++ normalize more := by
  induction text with
  | nil => rfl
  | cons point text hypothesis =>
      have other : point ≠ carriageReturn := by
        have inside := inside point (List.mem_cons_self ..)
        simp only [isInLine, Bool.and_eq_true, decide_eq_true_iff] at inside
        exact inside.2
      have rest := hypothesis fun point member => inside point (List.mem_cons_of_mem _ member)
      rw [List.cons_append, List.cons_append, ← rest]
      cases text ++ more with
      | nil => exact congrArg (· :: []) (if_neg other)
      | cons => rw [normalize, if_neg other]

/-- Every end of a line becomes a line feed. -/
theorem LineEnd.normalize_append (lineEnd : LineEnd) (more : Text) :
    normalize (lineEnd.text ++ more) = lineFeed :: normalize more := by
  cases lineEnd with
  | feed =>
      cases more with
      | nil => rfl
      | cons => exact if_neg (by decide)
  | returnAndFeed => exact if_pos rfl

/-- What ends the lines of a document does not matter. -/
theorem normalize_lines (lines : List (Line × LineEnd)) (last : Line) :
    normalize (lines.flatMap (fun line => line.1.text ++ line.2.text) ++ last.text)
      = fedText (lines.map Prod.fst) last := by
  induction lines with
  | nil =>
      have inside := normalize_append (fun _ => last.isInLine_of_mem) []
      simpa [normalize, fedText] using inside
  | cons line lines hypothesis =>
      rw [List.flatMap_cons, List.append_assoc, List.append_assoc,
        normalize_append fun _ => line.1.isInLine_of_mem, LineEnd.normalize_append, hypothesis,
        fedText, fedText, List.map_cons, List.flatMap_cons, List.append_assoc, List.append_assoc,
        List.singleton_append]

/-- No line begins with the mark of a file. -/
theorem Line.head?_text_ne (line : Line) : line.text.head? ≠ some encodingMark := by
  have blanks : ∀ blanks : Blanks, blanks.val.head? ≠ some encodingMark := fun blanks first =>
    absurd (blanks.property _ (List.mem_of_head? first)) (by decide)
  cases line with
  | empty trail =>
      obtain ⟨before, comment⟩ := trail
      rw [text, Trail.text, List.head?_append]
      cases first : before.val.head? with
      | some point => exact fun same => blanks before (first.trans same)
      | none =>
          cases comment with
          | none => exact nofun
          | some words => exact fun same => absurd (Option.some.inj same) (by decide)
  | declares indent declaration =>
      obtain ⟨exported, name, value, trail, _, _, _⟩ := declaration
      rw [text, Declaration.text, List.head?_append]
      cases first : indent.val.head? with
      | some point => exact fun same => blanks indent (first.trans same)
      | none =>
          cases exported with
          | some => exact fun same => absurd (Option.some.inj same) (by decide)
          | none =>
              cases name with
              | plain name nonempty _ _ unmarked =>
                  obtain ⟨point, others, rfl⟩ := List.exists_cons_of_ne_nil nonempty
                  exact unmarked
              | quoted => exact fun same => absurd (Option.some.inj same) (by decide)

/-- The mark is all that is taken off the front of a document. -/
theorem Document.withoutMark_text (document : Document) :
    withoutMark document.text
      = document.lines.flatMap (fun line => line.1.text ++ line.2.text) ++ document.last.text := by
  obtain ⟨marked, lines, last⟩ := document
  cases marked with
  | true => rfl
  | false =>
      have unmarked : (lines.flatMap (fun line => line.1.text ++ line.2.text)
          ++ last.text).head? ≠ some encodingMark := by
        cases lines with
        | nil => exact last.head?_text_ne
        | cons line lines =>
            rw [List.flatMap_cons, List.append_assoc, List.append_assoc, List.head?_append]
            have first := line.1.head?_text_ne
            cases begins : line.1.text.head? with
            | some point => exact fun same => first (begins.trans same)
            | none => cases line.2 <;> exact fun same => absurd (Option.some.inj same) (by decide)
      rw [Document.text]
      dsimp only
      rw [if_neg Bool.false_ne_true, List.nil_append]
      cases written : lines.flatMap (fun line => line.1.text ++ line.2.text) ++ last.text with
      | nil => rfl
      | cons point others =>
          rw [written] at unmarked
          exact if_neg fun same => unmarked (congrArg some same)

/-! ## Reading documents -/

/-- **A document is read as what it declares.** -/
theorem Document.assignments_text (document : Document) :
    assignments document.text = assign document.declared := by
  have read := declaredBy_readEntries_fedText (document.lines.map Prod.fst) document.last
    (Nat.lt_succ_self _)
  rw [assign, declared, allLines, ← read, declaredBy, List.foldl_filterMap, assignments, entries,
    document.withoutMark_text, normalize_lines]
  congr 1
  funext former entry
  cases entry.name <;> rfl

end EnvironmentFile

end Heartbeat
