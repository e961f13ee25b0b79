import Heartbeat.Text.Blank
import Heartbeat.Text.Width

/-!
# Wrapped lines

A line that is too wide for the screen is broken between words, the blanks behind a
word staying with it.  A word that is too wide for any line begins a line of its own
and is folded wherever the screen ends.  Blanks that would stand beyond the end of
the screen are dropped.
-/

namespace Heartbeat

set_option autoImplicit false

namespace Text

/-! ## Words -/

/-- Where in a word reading is: in the blanks before it, in the word itself, or in the
blanks behind it. -/
inductive WordPart where
  | before
  | inside
  | behind
deriving DecidableEq

/-- The words of a text, each with the blanks behind it, the first also with the blanks
before it.  `word` is what was read of the current one. -/
def wordsFrom (part : WordPart) (word : Text) : Text → List Text
  | [] => if part = .before then [] else [word]
  | point :: rest =>
    if point.isBlank then
      wordsFrom (if part = .before then .before else .behind) (word ++ [point]) rest
    else if part = .behind then word :: wordsFrom .inside [point] rest
    else wordsFrom .inside (word ++ [point]) rest

/-- The words of a text. -/
def spacedWords (text : Text) : List Text := wordsFrom .before [] text

/-! ## Folding -/

/-- The pieces of a text that fit into a width, each as long as possible.  `piece` is
what was read of the current one. -/
def foldFrom (limit : Nat) (piece : Text) : Text → List Text
  | [] => [piece]
  | point :: rest =>
    if limit < width piece + point.width then piece :: foldFrom limit [point] rest
    else foldFrom limit (piece ++ [point]) rest

/-- The pieces of a text that fit into a width. -/
def fold (limit : Nat) (text : Text) : List Text := foldFrom limit [] text

/-! ## Lines -/

/-- Lines in the making: those that are finished, and the last one. -/
structure Lines where
  finished : List Text
  last : Text

namespace Lines

/-- Nothing yet. -/
def start : Lines := ⟨[], []⟩

/-- The lines after a break, which is none at the very start. -/
def broken (lines : Lines) : Lines :=
  if lines.finished.isEmpty && lines.last.isEmpty then lines
  else ⟨lines.finished ++ [lines.last], []⟩

/-- The lines with a text at the end of the last one. -/
def add (lines : Lines) (text : Text) : Lines := { lines with last := lines.last ++ text }

/-- The lines with one more word. -/
def addWord (limit : Nat) (lines : Lines) (word : Text) : Lines :=
  let needed := width (dropEndWhile CodePoint.isBlank word)
  if width lines.last + needed ≤ limit then lines.add word
  else if limit < needed then
    (fold limit word).foldl (fun lines piece => lines.broken.add piece) lines
  else lines.broken.add word

/-- All lines. -/
def all (lines : Lines) : List Text := lines.finished ++ [lines.last]

end Lines

/-- The longest front of a text that fits into a width. -/
def front (limit : Nat) : Text → Text
  | [] => []
  | point :: rest => if point.width ≤ limit then point :: front (limit - point.width) rest else []

/-- A line without the blanks that stand beyond the end of the screen. -/
def cropped (limit : Nat) (line : Text) : Text :=
  let blanks := (line.reverse.takeWhile CodePoint.isBlank).length
  front limit (line.take (line.length - min blanks (line.length - limit)))

/-- The lines that a line is broken into. -/
def wrap (limit : Nat) (line : Text) : List Text :=
  let lines := (spacedWords line).foldl (Lines.addWord limit) Lines.start
  lines.all.map (cropped limit)

/-! ## Laws -/

/-- The front of a text fits. -/
theorem width_front (limit : Nat) (text : Text) : width (front limit text) ≤ limit := by
  induction text generalizing limit with
  | nil => simp [front, width]
  | cons point rest hypothesis =>
    rw [front]
    split
    · next fits =>
      have later := hypothesis (limit - point.width)
      have whole : width (point :: front (limit - point.width) rest)
          = point.width + width (front (limit - point.width) rest) := by simp [width]
      omega
    · simp [width]

/-- No line is wider than the screen. -/
theorem width_le_of_mem_wrap {limit : Nat} {line piece : Text} (member : piece ∈ wrap limit line) :
    width piece ≤ limit := by
  obtain ⟨whole, _, rfl⟩ := List.mem_map.1 member
  exact width_front limit _

end Text

end Heartbeat
