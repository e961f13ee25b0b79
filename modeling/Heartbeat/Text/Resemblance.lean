import Heartbeat.Text

/-!
# Resemblance

How much two texts resemble each other is measured by what they have in common: the
longest piece that occurs in both, then the longest common pieces to the left of it
and to the right of it, and so on.  Two texts resemble each other if the points in
common are three fifths of all points of both.
-/

namespace Heartbeat

set_option autoImplicit false

namespace Text

/-- The number of points that two texts have in common at their front. -/
def commonFront : Text → Text → Nat
  | a :: left, b :: right => if a = b then commonFront left right + 1 else 0
  | _, _ => 0

/-- A piece that two texts have in common: where it begins in each, and its length. -/
structure CommonPiece where
  left : Nat
  right : Nat
  length : Nat

/-- The longer of two pieces, the former if they are equally long. -/
def CommonPiece.longer (former latter : CommonPiece) : CommonPiece :=
  if former.length < latter.length then latter else former

/-- The longest common piece that begins at the front of the left text, which is at
`start`. -/
def longestFrom (start : Nat) (left right : Text) : CommonPiece :=
  (List.range right.length).foldl
    (fun found place => found.longer ⟨start, place, commonFront left (right.drop place)⟩)
    ⟨start, 0, 0⟩

/-- The longest common piece of two texts, the leftmost of several. -/
def longestCommon (left right : Text) : CommonPiece :=
  (List.range left.length).foldl
    (fun found start => found.longer (longestFrom start (left.drop start) right))
    ⟨0, 0, 0⟩

/-- The number of points in common, pieces being looked for as often as the measure
says.  Every piece takes a point of the left text, so its length is enough. -/
def commonWithin : Nat → Text → Text → Nat
  | 0, _, _ => 0
  | measure + 1, left, right =>
    let piece := longestCommon left right
    if piece.length = 0 then 0
    else commonWithin measure (left.take piece.left) (right.take piece.right) + piece.length
      + commonWithin measure (left.drop (piece.left + piece.length))
          (right.drop (piece.right + piece.length))

/-- The number of points that two texts have in common. -/
def common (left right : Text) : Nat := commonWithin left.length left right

/-- Whether two texts resemble each other. -/
def resembles (left right : Text) : Bool :=
  decide (3 * (left.length + right.length) ≤ 10 * common left right)

end Text

end Heartbeat
