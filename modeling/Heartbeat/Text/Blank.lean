import Heartbeat.Text

/-!
# Blank code points

Two classes of white space are in use.  A number in a setting may be surrounded
by white space as the character database defines it.  Lines of an environment
file are trimmed of a larger class, which has the four information separators
`U+001C` to `U+001F` besides.
-/

namespace Heartbeat

set_option autoImplicit false

namespace CodePoint

/-- The white space of the character database. -/
def isWhite (point : CodePoint) : Bool :=
  (decide (0x09 ≤ point.val) && decide (point.val ≤ 0x0D))
    || [0x20, 0x85, 0xA0, 0x1680, 0x2028, 0x2029, 0x202F, 0x205F, 0x3000].contains point.val
    || (decide (0x2000 ≤ point.val) && decide (point.val ≤ 0x200A))

/-- White space and the information separators. -/
def isBlank (point : CodePoint) : Bool :=
  point.isWhite || (decide (0x1C ≤ point.val) && decide (point.val ≤ 0x1F))

end CodePoint

namespace Text

/-- A text without the white space at its ends. -/
def trimWhite (text : Text) : Text :=
  dropEndWhile CodePoint.isWhite (text.dropWhile CodePoint.isWhite)

end Text

end Heartbeat
