/-!
# Texts

A heartbeat carries text that nobody has checked: a command line, the name of a
context, a message that came with a failure.  Such a text is a sequence of code
points, and a code point is any number below `0x110000`.  The surrogates are
among them, because a text may hold a lone one until it has to become bytes.
That is why the library has a text of its own beside `String`, whose characters
exclude them.

The decimal form of whole numbers is fixed here as well, together with cutting
and joining at a separator, since every output of the library uses them.
-/

namespace Heartbeat

set_option autoImplicit false

/-! ## Code points -/

/-- What a text holds at one place: any code point, surrogates included. -/
abbrev CodePoint := Fin 0x110000

/-- There is a code point, so that a number can be taken for one. -/
instance CodePoint.instNeZeroCount : @NeZero Nat Zero.ofOfNat0 0x110000 := ⟨by decide⟩

/-- A sequence of code points. -/
abbrev Text := List CodePoint

namespace CodePoint

/-- Every character is a code point. -/
def ofChar (character : Char) : CodePoint :=
  ⟨character.toNat, by
    have valid := character.valid
    simp only [UInt32.isValidChar, Nat.isValidChar] at valid
    simp only [Char.toNat]
    omega⟩

/-- The double quote. -/
def doubleQuote : CodePoint := 0x22

/-- The single quote. -/
def singleQuote : CodePoint := 0x27

/-- The backslash. -/
def backslash : CodePoint := 0x5C

/-- The code points that stand for no character of their own. -/
def isSurrogate (point : CodePoint) : Bool :=
  decide (0xD800 ≤ point.val) && decide (point.val ≤ 0xDFFF)

/-- The character at a code point; a surrogate is shown as the replacement
character. -/
def toChar (point : CodePoint) : Char :=
  if point.isSurrogate then '\uFFFD' else Char.ofNat point.val

/-- The ten ASCII digits. -/
def isDigit (point : CodePoint) : Bool :=
  decide (0x30 ≤ point.val) && decide (point.val ≤ 0x39)

/-- The number that an ASCII digit writes. -/
def digitValue (point : CodePoint) : Nat := point.val - 0x30

/-- The ASCII letters. -/
def isLetter (point : CodePoint) : Bool :=
  decide (0x41 ≤ point.val ∧ point.val ≤ 0x5A) || decide (0x61 ≤ point.val ∧ point.val ≤ 0x7A)

/-- The value of a hexadecimal digit, which may be a capital letter or a small one. -/
def hexadecimalValue? (point : CodePoint) : Option Nat :=
  if point.isDigit then some point.digitValue
  else if 0x41 ≤ point.val ∧ point.val ≤ 0x46 then some (point.val - 0x41 + 10)
  else if 0x61 ≤ point.val ∧ point.val ≤ 0x66 then some (point.val - 0x61 + 10)
  else none

/-- The code points that ASCII has. -/
def isAscii (point : CodePoint) : Bool := decide (point.val < 0x80)

/-- The controls: those of ASCII, and the ones that follow it. -/
def isControl (point : CodePoint) : Bool :=
  decide (point.val < 0x20) || (decide (0x7F ≤ point.val) && decide (point.val < 0xA0))

/-- The ASCII capital letters become small, everything else stays. -/
def toLowerAscii (point : CodePoint) : CodePoint :=
  if h : 0x41 ≤ point.val ∧ point.val ≤ 0x5A then ⟨point.val + 32, by omega⟩ else point

end CodePoint

/-! ## Texts from strings and numbers -/

namespace Text

/-- The text of a string. -/
def ofString (string : String) : Text := string.toList.map CodePoint.ofChar

instance : Coe String Text := ⟨ofString⟩

/-- The string of a text, for showing it; surrogates are replaced. -/
def toString (text : Text) : String := String.ofList (text.map CodePoint.toChar)

/-- A number in decimal, without leading zeros. -/
def ofNat (number : Nat) : Text := (Nat.toDigits 10 number).map CodePoint.ofChar

/-- An integer in decimal, with a minus sign when it is negative. -/
def ofInt : Int → Text
  | .ofNat number => ofNat number
  | .negSucc number => CodePoint.ofChar '-' :: ofNat (number + 1)

/-- A number in hexadecimal, small letters, filled with zeros up to `width`. -/
def hexadecimal (width number : Nat) : Text :=
  let digits := (Nat.toDigits 16 number).map CodePoint.ofChar
  List.replicate (width - digits.length) (CodePoint.ofChar '0') ++ digits

/-- The number that a sequence of digits writes. -/
def digitsValue (digits : Text) : Nat :=
  digits.foldl (fun value digit => 10 * value + digit.digitValue) 0

/-- Whether a text is the text of a given string. -/
def is (text : Text) (string : String) : Bool := decide (text = ofString string)

/-- Small letters in place of the ASCII capitals. -/
def toLowerAscii (text : Text) : Text := text.map CodePoint.toLowerAscii

/-! ## Cutting and joining -/

/-- The pieces between the separators: one more piece than there are
separators. -/
def split (separator : CodePoint) : Text → List Text
  | [] => [[]]
  | point :: rest =>
    if point = separator then [] :: split separator rest
    else match split separator rest with
      | [] => [[point]]
      | piece :: pieces => (point :: piece) :: pieces

/-- The pieces one after the other, with a separator between neighbours. -/
def join (separator : Text) : List Text → Text
  | [] => []
  | [piece] => piece
  | piece :: next :: pieces => piece ++ separator ++ join separator (next :: pieces)

/-- The text before the first separator and the text after it, when there is
one. -/
def cut? (separator : CodePoint) : Text → Option (Text × Text)
  | [] => none
  | point :: rest =>
    if point = separator then some ([], rest)
    else (cut? separator rest).map fun (before, after) => (point :: before, after)

/-- A text without the points at its end that satisfy a condition. -/
def dropEndWhile (condition : CodePoint → Bool) (text : Text) : Text :=
  (text.reverse.dropWhile condition).reverse

/-- The rest of a text after a given beginning. -/
def after? (beginning text : Text) : Option Text :=
  if beginning.isPrefixOf text then some (text.drop beginning.length) else none

/-! ## Laws -/

/-- The pieces of a text, joined at the separator, give the text back. -/
theorem join_split (separator : CodePoint) (text : Text) :
    join [separator] (split separator text) = text := by
  induction text with
  | nil => rfl
  | cons point rest hypothesis =>
    simp only [split]
    by_cases same : point = separator
    · rw [if_pos same]
      cases pieces : split separator rest with
      | nil =>
        cases rest with
        | nil => simp [split] at pieces
        | cons next tail =>
          simp only [split] at pieces
          split at pieces
          · cases pieces
          · split at pieces <;> cases pieces
      | cons piece others =>
        rw [pieces] at hypothesis
        simp [join, hypothesis, same]
    · rw [if_neg same]
      cases pieces : split separator rest with
      | nil =>
        rw [pieces] at hypothesis
        simp only [join] at hypothesis ⊢
        rw [← hypothesis]
      | cons piece others =>
        rw [pieces] at hypothesis
        cases others with
        | nil => simpa [join] using hypothesis
        | cons next tail =>
          simp only [join, List.cons_append] at hypothesis ⊢
          rw [← hypothesis]

/-- A split text is never without pieces. -/
theorem split_ne_nil (separator : CodePoint) (text : Text) : split separator text ≠ [] := by
  cases text with
  | nil => simp [split]
  | cons point rest =>
    simp only [split]
    split
    · simp
    · split <;> simp

/-- A text is cut at the first separator. -/
theorem cut?_append {separator : CodePoint} {before : Text} (free : separator ∉ before)
    (after : Text) :
    cut? separator (before ++ [separator] ++ after) = some (before, after) := by
  induction before with
  | nil => simp [cut?]
  | cons point before hypothesis =>
      rw [List.mem_cons, not_or] at free
      rw [List.cons_append, List.cons_append, cut?, if_neg (Ne.symm free.1),
        hypothesis free.2]
      rfl

/-- What is behind a beginning is what it has to be followed by. -/
theorem after?_eq_some_iff {beginning text rest : Text} :
    after? beginning text = some rest ↔ text = beginning ++ rest := by
  rw [after?]
  constructor
  · intro found
    split at found
    · next begins =>
        obtain ⟨others, rfl⟩ := List.isPrefixOf_iff_prefix.mp begins
        rw [List.drop_left] at found
        rw [Option.some.inj found]
    · cases found
  · rintro rfl
    rw [if_pos (List.isPrefixOf_iff_prefix.mpr (List.prefix_append ..)), List.drop_left]

end Text

end Heartbeat
