import Heartbeat.Text

/-!
# Texts as bytes

The bytes of a text are its UTF-8 form.  A surrogate has none, so a text that
holds one cannot become bytes, and what is reported about it is the first
surrogate together with the maximal run that it begins.  Reading goes the other
way and is strict: overlong forms, surrogates and stray continuation bytes are
refused.
-/

namespace Heartbeat

set_option autoImplicit false

/-- A sequence of bytes. -/
abbrev Bytes := List UInt8

/-- The place where a text cannot become bytes: the first surrogate, its position
and the position of the last surrogate that follows it without a gap. -/
structure SurrogateRun where
  first : CodePoint
  start : Nat
  stop : Nat
deriving DecidableEq

/-! ## Writing -/

/-- The bytes of one code point. -/
def CodePoint.utf8 (point : CodePoint) : Bytes :=
  let number := point.val
  if number < 0x80 then [UInt8.ofNat number]
  else if number < 0x800 then
    [UInt8.ofNat (0xC0 + number / 0x40), UInt8.ofNat (0x80 + number % 0x40)]
  else if number < 0x10000 then
    [UInt8.ofNat (0xE0 + number / 0x1000), UInt8.ofNat (0x80 + number / 0x40 % 0x40),
      UInt8.ofNat (0x80 + number % 0x40)]
  else
    [UInt8.ofNat (0xF0 + number / 0x40000), UInt8.ofNat (0x80 + number / 0x1000 % 0x40),
      UInt8.ofNat (0x80 + number / 0x40 % 0x40), UInt8.ofNat (0x80 + number % 0x40)]

namespace Text

/-- The bytes of a text, whether or not it holds surrogates. -/
def bytes (text : Text) : Bytes := text.flatMap CodePoint.utf8

/-- The beginning of a text that has room in a number of bytes.  A code point that is cut
through is shown as the replacement character. -/
def shortened : Nat → Text → Text
  | _, [] => []
  | 0, _ => []
  | room, point :: rest =>
    if point.utf8.length ≤ room then point :: shortened (room - point.utf8.length) rest
    else [0xFFFD]

/-- The first run of surrogates of a text. -/
def surrogateRun? (text : Text) : Option SurrogateRun :=
  let before := text.takeWhile fun point => !point.isSurrogate
  match text.drop before.length with
  | [] => none
  | first :: rest =>
    some ⟨first, before.length, before.length + (rest.takeWhile CodePoint.isSurrogate).length⟩

/-- The UTF-8 form of a text, or the run of surrogates that stands in the way. -/
def encode (text : Text) : Except SurrogateRun Bytes :=
  match text.surrogateRun? with
  | none => .ok text.bytes
  | some run => .error run

end Text

/-! ## Stray bytes

The operating system takes any bytes for a name.  For bytes that are no UTF-8 the
surrogates from `U+DC80` to `U+DCFF` stand in. -/

/-- Whether a code point stands for a single byte. -/
def CodePoint.isStrayByte (point : CodePoint) : Bool :=
  decide (0xDC80 ≤ point.val) && decide (point.val ≤ 0xDCFF)

namespace Text

/-- The bytes of a text in which stray bytes may occur. -/
def nativeBytes (text : Text) : Bytes :=
  text.flatMap fun point =>
    if point.isStrayByte then [UInt8.ofNat (point.val - 0xDC00)] else point.utf8

/-- The first run of surrogates that does not begin with a stray byte. -/
def nativeRun? (text : Text) : Option SurrogateRun :=
  let before := text.takeWhile fun point => !point.isSurrogate || point.isStrayByte
  match text.drop before.length with
  | [] => none
  | first :: rest =>
    some ⟨first, before.length, before.length + (rest.takeWhile CodePoint.isSurrogate).length⟩

/-- The bytes that a text is to the operating system, or the run of surrogates that
stands in the way. -/
def encodeNative (text : Text) : Except SurrogateRun Bytes :=
  match text.nativeRun? with
  | none => .ok text.nativeBytes
  | some run => .error run

end Text

/-! ## Reading -/

namespace Bytes

/-- The value of a continuation byte. -/
def continuation? (byte : UInt8) : Option Nat :=
  if 0x80 ≤ byte.toNat ∧ byte.toNat < 0xC0 then some (byte.toNat - 0x80) else none

/-- The code point with a given number, if it is at least `least` and no
surrogate. -/
def point? (least number : Nat) : Option CodePoint :=
  if h : number < 0x110000 then
    if least ≤ number ∧ CodePoint.isSurrogate ⟨number, h⟩ = false then some ⟨number, h⟩ else none
  else none

/-- The text whose UTF-8 form is given. -/
def decode? : Bytes → Option Text
  | [] => some []
  | a :: rest =>
    if a.toNat < 0x80 then do
      let point ← point? 0 a.toNat
      let text ← decode? rest
      return point :: text
    else if 0xC0 ≤ a.toNat ∧ a.toNat < 0xE0 then
      match rest with
      | b :: rest => do
        let point ← point? 0x80 ((a.toNat - 0xC0) * 0x40 + (← continuation? b))
        let text ← decode? rest
        return point :: text
      | [] => none
    else if 0xE0 ≤ a.toNat ∧ a.toNat < 0xF0 then
      match rest with
      | b :: c :: rest => do
        let point ← point? 0x800
          ((a.toNat - 0xE0) * 0x1000 + (← continuation? b) * 0x40 + (← continuation? c))
        let text ← decode? rest
        return point :: text
      | _ => none
    else if 0xF0 ≤ a.toNat ∧ a.toNat < 0xF8 then
      match rest with
      | b :: c :: d :: rest => do
        let point ← point? 0x10000
          ((a.toNat - 0xF0) * 0x40000 + (← continuation? b) * 0x1000
            + (← continuation? c) * 0x40 + (← continuation? d))
        let text ← decode? rest
        return point :: text
      | _ => none
    else none

end Bytes

end Heartbeat
