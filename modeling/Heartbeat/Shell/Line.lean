import Heartbeat.Shell.Printed

/-!
# Lines

Some programs take the lines of their input apart: they show the first or the last of
them, count them, put them in order, or leave out those that are there already.  A line
has its line feed, which the last one may lack.
-/

namespace Heartbeat

set_option autoImplicit false

namespace Shell

namespace Line

/-- The byte that ends a line. -/
def feed : UInt8 := 0x0A

/-- The lines of some bytes. -/
def ofBytes : Bytes → List Bytes
  | [] => []
  | byte :: rest =>
    if byte = feed then [byte] :: ofBytes rest
    else match ofBytes rest with
      | [] => [[byte]]
      | line :: lines => (byte :: line) :: lines

/-- The lines one after the other are the bytes again. -/
theorem flatten_ofBytes (bytes : Bytes) : (ofBytes bytes).flatten = bytes := by
  induction bytes with
  | nil => rfl
  | cons byte rest hypothesis =>
    simp only [ofBytes]
    split
    · simp [hypothesis]
    · cases lines : ofBytes rest with
      | nil =>
        rw [lines] at hypothesis
        simp [← hypothesis]
      | cons line others =>
        rw [lines] at hypothesis
        simp [← hypothesis]

/-- A line without its line feed. -/
def bare (line : Bytes) : Bytes := if line.getLast? = some feed then line.dropLast else line

/-- A line with a line feed. -/
def closed (line : Bytes) : Bytes := bare line ++ [feed]

/-! ## Parts -/

/-- A part of some contents: how much of them, in bytes or in lines, and whether it is
counted from the other side. -/
structure Part where
  inBytes : Bool
  count : Nat
  reversed : Bool
  operands : List Text

/-- The part when nothing is said of it. -/
def Part.standard : Part := ⟨false, 10, false, []⟩

/-- The part with a count that a text writes; a given sign counts from the other side. -/
def Part.counted (part : Part) (sign : CodePoint) (inBytes : Bool) (text : Text) : Option Part :=
  let digits := match text with
    | first :: rest => if first.val = 0x2D || first.val = 0x2B then rest else text
    | [] => []
  if digits.isEmpty || !digits.all CodePoint.isDigit then none
  else some { part with
    inBytes
    count := Text.digitsValue digits
    reversed := decide (text.head? = some sign) }

/-- The arguments with a count directly behind the option that it belongs to. -/
def attached : List Text → List Text
  | [] => []
  | [argument] => [argument]
  | argument :: next :: rest =>
    if argument.is "--" then argument :: next :: rest
    else if argument.is "-n" || argument.is "-c" then (argument ++ next) :: attached rest
    else argument :: attached (next :: rest)

/-- Reads the arguments of a program that shows a part. -/
def readPart (sign : CodePoint) (part : Part) : List Text → Option Part
  | [] => some part
  | argument :: rest =>
    match argument with
    | dash :: letter :: count =>
      if argument.is "--" then some { part with operands := part.operands ++ rest }
      else if dash.val = 0x2D then do
        let part ← if letter.isDigit then part.counted sign false (letter :: count)
          else if letter = CodePoint.ofChar 'n' then part.counted sign false count
          else if letter = CodePoint.ofChar 'c' then part.counted sign true count
          else if argument.is "-q" then some part
          else none
        readPart sign part rest
      else readPart sign { part with operands := part.operands ++ [argument] } rest
    | _ => readPart sign { part with operands := part.operands ++ [argument] } rest

/-- The part that the arguments of a program ask for; the sign counts from the other
side. -/
def part? (sign : CodePoint) (arguments : List Text) : Option Part :=
  readPart sign Part.standard (attached arguments)

/-- The beginning of a list, or all of it but some of its end. -/
def beginning {item : Type} (part : Part) (items : List item) : List item :=
  if part.reversed then items.take (items.length - part.count) else items.take part.count

/-- The end of a list, or all of it from some place on. -/
def ending {item : Type} (part : Part) (items : List item) : List item :=
  if part.reversed then items.drop (part.count - 1)
  else items.drop (items.length - part.count)

/-- The first part of some contents. -/
def first (part : Part) (content : Bytes) : Bytes :=
  if part.inBytes then beginning part content else (beginning part (ofBytes content)).flatten

/-- The last part of some contents. -/
def last (part : Part) (content : Bytes) : Bytes :=
  if part.inBytes then ending part content else (ending part (ofBytes content)).flatten

/-! ## Counting -/

/-- Whether a byte parts words. -/
def isSpace (byte : UInt8) : Bool :=
  decide (byte = 0x20) || (decide (0x09 ≤ byte) && decide (byte ≤ 0x0D))

/-- The number of words of some bytes; `inWord` says whether one was begun. -/
def words (inWord : Bool) : Bytes → Nat
  | [] => 0
  | byte :: rest =>
    if isSpace byte then words false rest
    else if inWord then words true rest
    else words true rest + 1

/-- The number of line feeds of some bytes. -/
def feeds (bytes : Bytes) : Nat := bytes.count feed

/-! ## Order -/

/-- The number at the front of a line. -/
def number (line : Bytes) : Int :=
  let start := line.dropWhile fun byte => decide (byte = 0x20) || decide (byte = 0x09)
  let isNegative := decide (start.head? = some 0x2D)
  let digits := (if isNegative then start.drop 1 else start).takeWhile fun byte =>
    decide (0x30 ≤ byte) && decide (byte ≤ 0x39)
  let value : Nat := digits.foldl (fun value byte => 10 * value + (byte.toNat - 0x30)) 0
  if isNegative then -(value : Int) else value

/-- Whether a line comes before another one, or in the same place. -/
def comesBefore (numeric reversed : Bool) (left right : Bytes) : Bool :=
  let plainly := if numeric && decide (number left ≠ number right) then
      decide (number left < number right)
    else decide (left ≤ right)
  if reversed then !plainly || decide (left = right) else plainly

/-- The lines in order; each is there once if that is wanted. -/
def sorted (numeric reversed once : Bool) (lines : List Bytes) : List Bytes :=
  let inOrder := (lines.map bare).mergeSort (comesBefore numeric reversed)
  let same := fun (left right : Bytes) =>
    if numeric then decide (number left = number right) else decide (left = right)
  let kept := if once then
      inOrder.foldl (fun (kept : List Bytes) line => match kept.getLast? with
        | some former => if same former line then kept else kept ++ [line]
        | none => [line]) []
    else inOrder
  kept.map fun line => line ++ [feed]

/-- The lines with the number of times that each occurs in a row. -/
def runs (lines : List Bytes) : List (Bytes × Nat) :=
  (lines.map bare).foldr
    (fun line runs => match runs with
      | (other, count) :: rest =>
        if line = other then (line, count + 1) :: rest else (line, 1) :: (other, count) :: rest
      | [] => [(line, 1)])
    []

end Line

end Shell

end Heartbeat
