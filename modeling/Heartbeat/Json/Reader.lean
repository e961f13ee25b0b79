import Heartbeat.Json

/-!
# Reading JSON

The strict reader of the format: it takes exactly one document, with blanks only
between tokens, numbers without superfluous zeros, and texts without raw
controls.  Objects are read as ordered lists of members, so nothing about their
order or about repeated names is lost.

A number with a point or an exponent is read as the double nearest to it, any
other as an integer.  The reader goes down into a document with a measure that
the length of the text provides, so it always ends.
-/

namespace Heartbeat

set_option autoImplicit false

namespace Json

/-! ## Tokens -/

/-- The blanks that may stand between tokens. -/
def isBetween (point : CodePoint) : Bool :=
  point = 0x20 || point = 0x09 || point = 0x0A || point = 0x0D

/-- A text from its first token on. -/
def skip (text : Text) : Text := text.dropWhile isBetween

/-- The code point that a backslash and a letter stand for. -/
def escaped? (letter : CodePoint) : Option CodePoint :=
  if letter = CodePoint.doubleQuote || letter = CodePoint.backslash then some letter
  else if letter = CodePoint.ofChar '/' then some letter
  else if letter = CodePoint.ofChar 'b' then some 0x08
  else if letter = CodePoint.ofChar 'f' then some 0x0C
  else if letter = CodePoint.ofChar 'n' then some 0x0A
  else if letter = CodePoint.ofChar 'r' then some 0x0D
  else if letter = CodePoint.ofChar 't' then some 0x09
  else none

/-- Puts an escaped unit before a text.  A high surrogate and a low one that
follows it are one code point. -/
def consUnit (unit : Nat) (text : Text) : Text :=
  let alone : Text := Fin.ofNat 0x110000 unit :: text
  match text with
  | low :: rest =>
    if 0xD800 ≤ unit ∧ unit < 0xDC00 ∧ 0xDC00 ≤ low.val ∧ low.val < 0xE000 then
      Fin.ofNat 0x110000 (0x10000 + (unit - 0xD800) * 0x400 + (low.val - 0xDC00)) :: rest
    else alone
  | [] => alone

/-- A text up to its closing quote, and what follows the quote. -/
def readText : Text → Option (Text × Text)
  | [] => none
  | point :: rest =>
    if point = CodePoint.doubleQuote then some ([], rest)
    else if point = CodePoint.backslash then
      match rest with
      | [] => none
      | letter :: rest =>
        if letter = CodePoint.ofChar 'u' then
          match rest with
          | a :: b :: c :: d :: rest => do
            let a ← a.hexadecimalValue?
            let b ← b.hexadecimalValue?
            let c ← c.hexadecimalValue?
            let d ← d.hexadecimalValue?
            let (text, rest) ← readText rest
            return (consUnit (((a * 16 + b) * 16 + c) * 16 + d) text, rest)
          | _ => none
        else do
          let point ← escaped? letter
          let (text, rest) ← readText rest
          return (point :: text, rest)
    else if point.val < 0x20 then none
    else do
      let (text, rest) ← readText rest
      return (point :: text, rest)

/-- The digits of a fraction, when a point follows, and what follows them. -/
def readFraction (text : Text) : Option (Option Text × Text) :=
  match text with
  | point :: rest =>
    if point = CodePoint.ofChar '.' then
      let digits := rest.takeWhile CodePoint.isDigit
      if digits.isEmpty then none
      else some (some digits, rest.dropWhile CodePoint.isDigit)
    else some (none, text)
  | [] => some (none, text)

/-- An exponent, when its mark follows, and what follows it. -/
def readExponent (text : Text) : Option (Option Int × Text) :=
  match text with
  | mark :: rest =>
    if mark = CodePoint.ofChar 'e' || mark = CodePoint.ofChar 'E' then
      let (negative, rest) := Decimal.splitSign rest
      let digits := rest.takeWhile CodePoint.isDigit
      if digits.isEmpty then none
      else
        let value : Int := (Text.digitsValue digits : Nat)
        some (some (if negative then -value else value), rest.dropWhile CodePoint.isDigit)
    else some (none, text)
  | [] => some (none, text)

/-- A number without its sign, and what follows it. -/
def readMagnitude (negative : Bool) (text : Text) : Option (Json × Text) := do
  let whole := text.takeWhile CodePoint.isDigit
  let rest := text.dropWhile CodePoint.isDigit
  if whole.isEmpty || (decide (1 < whole.length) && whole.head? == some (CodePoint.ofChar '0')) then
    none
  else
    let (fraction, rest) ← readFraction rest
    let (exponent, rest) ← readExponent rest
    match fraction, exponent with
    | none, none =>
      let value : Int := (Text.digitsValue whole : Nat)
      some (.int (if negative then -value else value), rest)
    | _, _ =>
      match (Decimal.ofParts whole (fraction.getD []) (exponent.getD 0)).toDouble negative with
      | .finite number => some (.double number, rest)
      | _ => none

/-- A number, and what follows it. -/
def readNumber (text : Text) : Option (Json × Text) :=
  match text with
  | point :: rest =>
    if point = CodePoint.ofChar '-' then readMagnitude true rest else readMagnitude false text
  | [] => none

/-- A word at the beginning of a text, and what follows it. -/
def readWord (word : String) (document : Json) (text : Text) : Option (Json × Text) :=
  (Text.after? word text).map fun rest => (document, rest)

/-! ## Documents -/

mutual
/-- One document, and what follows it. -/
def readValue : Nat → Text → Option (Json × Text)
  | 0, _ => none
  | measure + 1, text =>
    match skip text with
    | [] => none
    | point :: rest =>
      if point = 0x5B then
        match skip rest with
        | [] => none
        | next :: after =>
          if next = 0x5D then some (.array [], after)
          else (readItems measure (next :: after)).map fun (items, rest) => (.array items, rest)
      else if point = 0x7B then
        match skip rest with
        | [] => none
        | next :: after =>
          if next = 0x7D then some (.object [], after)
          else (readMembers measure (next :: after)).map fun (members, rest) =>
            (.object members, rest)
      else if point = CodePoint.doubleQuote then
        (readText rest).map fun (text, rest) => (.string text, rest)
      else if point = CodePoint.ofChar 'n' then readWord "null" .null (point :: rest)
      else if point = CodePoint.ofChar 't' then readWord "true" (.bool true) (point :: rest)
      else if point = CodePoint.ofChar 'f' then readWord "false" (.bool false) (point :: rest)
      else readNumber (point :: rest)

/-- The items of an array up to its closing bracket; there is at least one. -/
def readItems : Nat → Text → Option (List Json × Text)
  | 0, _ => none
  | measure + 1, text => do
    let (item, rest) ← readValue measure text
    match skip rest with
    | [] => none
    | next :: after =>
      if next = 0x2C then
        (readItems measure after).map fun (items, rest) => (item :: items, rest)
      else if next = 0x5D then some ([item], after)
      else none

/-- The members of an object up to its closing bracket; there is at least one. -/
def readMembers : Nat → Text → Option (List (Text × Json) × Text)
  | 0, _ => none
  | measure + 1, text =>
    match skip text with
    | [] => none
    | quote :: rest =>
      if quote = CodePoint.doubleQuote then do
        let (name, rest) ← readText rest
        match skip rest with
        | [] => none
        | colon :: rest =>
          if colon = 0x3A then do
            let (value, rest) ← readValue measure rest
            match skip rest with
            | [] => none
            | next :: after =>
              if next = 0x2C then
                (readMembers measure after).map fun (members, rest) =>
                  ((name, value) :: members, rest)
              else if next = 0x7D then some ([(name, value)], after)
              else none
          else none
      else none
end

/-- The document that a text is. -/
def read? (text : Text) : Option Json := do
  let (document, rest) ← readValue (2 * text.length + 2) text
  if (skip rest).isEmpty then some document else none

end Json

end Heartbeat
