import Heartbeat.Address.Label
import Heartbeat.Text.Escaped

/-!
# Hosts

A host is a name or a number.  A number of the sixth version stands in brackets: eight
groups of hexadecimal digits between colons, of which a run may be left out, and the
last two of which may be written as a number of the fourth version.  It may be followed
by a zone.

Hosts are the same in capitals and in small letters, so the small ones are used.  The
labels of a name are put into their ASCII form.
-/

namespace Heartbeat

set_option autoImplicit false

namespace Host

/-! ## Points -/

/-- The point between labels. -/
def point : CodePoint := 0x2E

/-- The colon. -/
def colon : CodePoint := 0x3A

/-- The bracket before a numeric host. -/
def opening : CodePoint := 0x5B

/-- The bracket behind a numeric host. -/
def closing : CodePoint := 0x5D

/-! ## Numeric hosts -/

/-- Whether a text is one to `most` digits of a kind. -/
def isDigits (kind : CodePoint → Bool) (most : Nat) (text : Text) : Bool :=
  !text.isEmpty && decide (text.length ≤ most) && text.all kind

/-- Whether a text has the form of a number of the fourth version. -/
def isFour (text : Text) : Bool :=
  let parts := Text.split point text
  decide (parts.length = 4) && parts.all (isDigits CodePoint.isDigit 3)

/-- How many groups the parts between colons are, if each is one; a number of the
fourth version counts as two and has to be the last. -/
def groups? : List Text → Option Nat
  | [] => some 0
  | [part] =>
    if isFour part then some 2
    else if isDigits CodePoint.isHexadecimal 4 part then some 1
    else none
  | part :: parts =>
    if isDigits CodePoint.isHexadecimal 4 part then (· + 1) <$> groups? parts else none

/-- The parts between colons; there are none in nothing. -/
def parts (text : Text) : List Text := if text.isEmpty then [] else Text.split colon text

/-- A text before and behind the first two colons in a row. -/
def cutAtGap? : Text → Option (Text × Text)
  | first :: second :: rest =>
    if first = colon ∧ second = colon then some ([], rest)
    else (cutAtGap? (second :: rest)).map fun (before, after) => (first :: before, after)
  | _ => none

/-- Whether a text has the form of a number of the sixth version. -/
def isSix (text : Text) : Bool :=
  match cutAtGap? text with
  | none => decide (groups? (parts text) = some 8)
  | some (before, after) =>
    match groups? (parts before), groups? (parts after) with
    | some left, some right =>
      decide (left + right ≤ 7) && (parts before).all (isDigits CodePoint.isHexadecimal 4)
    | _, _ => false

/-! ## Zones -/

/-- The mark before a zone when it is escaped. -/
def escapedMark : Text := "%25"

/-- Whether a text may be a zone. -/
def isZone (text : Text) : Bool :=
  !text.isEmpty && text.isEscaped
    && text.all fun point => point.isUnreserved || decide (point = CodePoint.percent)

/-- A zone without the mark before it.  The mark may be escaped. -/
def zoneOf (marked : Text) : Text :=
  match escapedMark.after? marked with
  | some [] => marked.drop 1
  | some zone => zone
  | none => marked.drop 1

/-- What stands between brackets, with small letters before the zone, if it is a
numeric host. -/
def numeric? (text : Text) : Option Text :=
  let number : Text := text.takeWhile fun point => decide (point ≠ CodePoint.percent)
  let marked := text.drop number.length
  if !isSix number then none
  else if marked.isEmpty then some number.toLowerAscii
  else if isZone (marked.drop 1) then
    some (number.toLowerAscii ++ CodePoint.percent
      :: (zoneOf marked).escapeOnce CodePoint.isUnreserved)
  else none

/-! ## Names -/

/-- Whether a text may be a name: percent signs begin escapes, and nothing that
separates occurs. -/
def isName (text : Text) : Bool :=
  text.isEscaped && text.all fun point => !("[]:/?#" : Text).contains point

/-- The ASCII form of a name, if all its labels have one. -/
def name? (name : Text) : Option Text :=
  (Text.join [point]) <$> (Text.split point name).mapM Label.toAscii?

end Host

end Heartbeat
