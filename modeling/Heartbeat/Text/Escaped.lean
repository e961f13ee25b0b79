import Heartbeat.Text.Utf8

/-!
# Percent escapes

In an address a byte that may not stand for itself is written as a percent sign and
two hexadecimal digits.  Writing leaves a set of code points as they are and escapes
the bytes of all others.  A text whose percent signs all begin an escape is taken to be
escaped already, and then only its other points are looked at.
-/

namespace Heartbeat

set_option autoImplicit false

namespace CodePoint

/-- The percent sign. -/
def percent : CodePoint := 0x25

/-- The points that never need an escape. -/
def isUnreserved (point : CodePoint) : Bool :=
  point.isLetter || point.isDigit || ("-._~" : Text).contains point

/-- The small ASCII letters become capitals, everything else stays. -/
def toUpperAscii (point : CodePoint) : CodePoint :=
  if h : 0x61 ≤ point.val ∧ point.val ≤ 0x7A then ⟨point.val - 32, by omega⟩ else point

/-- Whether a point is a hexadecimal digit. -/
def isHexadecimal (point : CodePoint) : Bool := point.hexadecimalValue?.isSome

end CodePoint

namespace Text

/-! ## Writing -/

/-- The escape of a byte. -/
def escapeOf (byte : UInt8) : Text :=
  CodePoint.percent :: (hexadecimal 2 byte.toNat).map CodePoint.toUpperAscii

/-- The escapes of everything but the points that satisfy a condition. -/
def escape (keeps : CodePoint → Bool) (text : Text) : Text :=
  text.flatMap fun point => if keeps point then [point] else point.utf8.flatMap escapeOf

/-- Whether every percent sign begins an escape. -/
def isEscaped : Text → Bool
  | [] => true
  | point :: rest =>
    (decide (point ≠ CodePoint.percent) || match rest with
      | high :: low :: _ => high.isHexadecimal && low.isHexadecimal
      | _ => false)
      && isEscaped rest

/-- A text with capital letters in its escapes. -/
def capitalizeEscapes : Text → Text
  | point :: high :: low :: rest =>
    if point = CodePoint.percent ∧ high.isHexadecimal = true ∧ low.isHexadecimal = true then
      point :: high.toUpperAscii :: low.toUpperAscii :: capitalizeEscapes rest
    else point :: capitalizeEscapes (high :: low :: rest)
  | text => text

/-- A text with escapes for everything but the points that satisfy a condition, and
without a second escape for what is escaped already. -/
def escapeOnce (keeps : CodePoint → Bool) (text : Text) : Text :=
  let text := text.capitalizeEscapes
  let whole := text.isEscaped
  text.escape fun point =>
    (point.isAscii && keeps point) || (whole && decide (point = CodePoint.percent))

/-! ## Reading -/

/-- The point that two digits of an escape stand for; none if they look like digits of
an escape and are none. -/
def unescaped? (high low : CodePoint) : Option (Option CodePoint) :=
  let plain := fun point : CodePoint => point.isLetter || point.isDigit
  if plain high && plain low then
    match high.hexadecimalValue?, low.hexadecimalValue? with
    | some high, some low => some (some (Fin.ofNat 0x110000 (16 * high + low)))
    | _, _ => none
  else some none

/-- A text without the escapes that are not needed, if there is no escape that means
nothing. -/
def withoutNeedlessEscapes? : Text → Option Text
  | point :: high :: low :: rest =>
    if point = CodePoint.percent then
      match unescaped? high low with
      | none => none
      | some (some meant) =>
        if meant.isUnreserved then (meant :: ·) <$> withoutNeedlessEscapes? rest
        else (point :: ·) <$> withoutNeedlessEscapes? (high :: low :: rest)
      | some none => (point :: ·) <$> withoutNeedlessEscapes? (high :: low :: rest)
    else (point :: ·) <$> withoutNeedlessEscapes? (high :: low :: rest)
  | text => some text

end Text

end Heartbeat
