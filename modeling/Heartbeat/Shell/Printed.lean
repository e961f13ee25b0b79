import Heartbeat.Shell.Condition

/-!
# Printed text

Two commands print their arguments.  The first prints them with blanks between them,
the second as a format wants them, which is used again until no argument is left.
A backslash escapes controls and codes.
-/

namespace Heartbeat

set_option autoImplicit false

namespace Shell

namespace Printed

/-- An octal digit. -/
def isOctal (point : CodePoint) : Bool := decide (0x30 ≤ point.val) && decide (point.val ≤ 0x37)

/-- The number that octal digits write. -/
def octalValue (digits : Text) : Nat :=
  digits.foldl (fun value digit => 8 * value + digit.digitValue) 0

/-- The octal digits at the front of a text, three at the most. -/
def octalDigits (text : Text) : Text := (text.take 3).takeWhile isOctal

/-- What a letter behind a backslash stands for. -/
def control? (letter : CodePoint) : Option UInt8 :=
  if letter = CodePoint.backslash then some 0x5C
  else if letter = CodePoint.ofChar 'a' then some 0x07
  else if letter = CodePoint.ofChar 'b' then some 0x08
  else if letter = CodePoint.ofChar 'f' then some 0x0C
  else if letter = CodePoint.ofChar 'n' then some 0x0A
  else if letter = CodePoint.ofChar 'r' then some 0x0D
  else if letter = CodePoint.ofChar 't' then some 0x09
  else if letter = CodePoint.ofChar 'v' then some 0x0B
  else none

/-- The bytes of a text with its escapes replaced, and whether printing goes on behind
it.  Where a leading zero is wanted, up to three octal digits follow a zero. -/
def escapedFrom (stops : Bool) : Nat → Text → Bytes × Bool
  | 0, _ => ([], true)
  | _ + 1, [] => ([], true)
  | measure + 1, point :: rest =>
    if point = CodePoint.backslash then
      match rest with
      | [] => ([0x5C], true)
      | letter :: after =>
        match control? letter with
        | some byte =>
          let (bytes, more) := escapedFrom stops measure after
          (byte :: bytes, more)
        | none =>
          if stops && letter = CodePoint.ofChar 'c' then ([], false)
          else
            let digitText := if stops && letter = CodePoint.ofChar '0' then after else rest
            let digits := octalDigits digitText
            if isOctal letter then
              let (bytes, more) := escapedFrom stops measure (digitText.drop digits.length)
              (UInt8.ofNat (octalValue digits) :: bytes, more)
            else
              let (bytes, more) := escapedFrom stops measure rest
              (0x5C :: bytes, more)
    else
      let (bytes, more) := escapedFrom stops measure rest
      (point.utf8 ++ bytes, more)

/-- The bytes of an argument with its escapes replaced, and whether printing goes on. -/
def escaped (text : Text) : Bytes × Bool := escapedFrom true (text.length + 1) text

/-- Arguments with blanks between them, their escapes replaced. -/
def joined : List Text → Bytes × Bool
  | [] => ([], true)
  | [argument] => escaped argument
  | argument :: next :: arguments =>
    match escaped argument with
    | (bytes, false) => (bytes, false)
    | (bytes, true) =>
      let (others, more) := joined (next :: arguments)
      (bytes ++ [0x20] ++ others, more)

/-- What printing arguments prints, escapes being replaced. -/
def echoed (arguments : List Text) : Bytes :=
  let (unfinished, arguments) := match arguments with
    | first :: rest => if first.is "-n" then (true, rest) else (false, first :: rest)
    | [] => (false, [])
  let (bytes, more) := joined arguments
  if more && !unfinished then bytes ++ [0x0A] else bytes

/-! ## Formats -/

/-- A text filled up to a width. -/
def filled (left : Bool) (fill : CodePoint) (width : Nat) (text : Text) : Text :=
  let missing := List.replicate (width - text.length) fill
  if left then text ++ List.replicate (width - text.length) 0x20 else missing ++ text

/-- The digits of a number in a base. -/
def inBase (base number : Nat) : Text := (Nat.toDigits base number).map CodePoint.ofChar

/-- How a conversion in a format is laid out. -/
structure Conversion where
  left : Bool
  zeros : Bool
  width : Nat
  precision : Option Nat
  letter : CodePoint

/-- The conversion at the front of a text, and what follows it. -/
def conversion? (text : Text) : Option (Conversion × Text) :=
  let flags := text.takeWhile fun point => ((("-0+ #" : Text) : List CodePoint).contains point)
  let rest := text.drop flags.length
  let width := rest.takeWhile CodePoint.isDigit
  let rest := rest.drop width.length
  let (precision, rest) := match rest with
    | point :: after =>
      if point.val = 0x2E then
        let digits := after.takeWhile CodePoint.isDigit
        (some (Text.digitsValue digits), after.drop digits.length)
      else (none, rest)
    | [] => (none, rest)
  match rest with
  | [] => none
  | letter :: after =>
    some (⟨flags.contains 0x2D, flags.contains 0x30, Text.digitsValue width, precision, letter⟩,
      after)

/-- What a conversion prints for an argument, whether the argument was right, and
whether printing goes on; none if there is no such conversion. -/
def converted (conversion : Conversion) (argument : Option Text) :
    Option (Bytes × Bool × Bool) :=
  let text := argument.getD []
  let number := match argument with
    | none => (some 0 : Option Int)
    | some text => Condition.number? text
  let lay := fun (zeros : Bool) (text : Text) =>
    filled conversion.left (if zeros && conversion.zeros && !conversion.left then 0x30 else 0x20)
      conversion.width text
  let letter := conversion.letter
  let cut := fun (text : Text) => match conversion.precision with
    | some precision => text.take precision
    | none => text
  let word := fun (number : Int) => (number % 0x10000000000000000).toNat
  if letter = CodePoint.ofChar 's' then
    some (Text.nativeBytes (lay false (cut text)), true, true)
  else if letter = CodePoint.ofChar 'c' then
    some (Text.nativeBytes (lay false (text.take 1)), true, true)
  else if letter = CodePoint.ofChar 'b' then
    let (bytes, more) := escaped text
    some (bytes, true, more)
  else if letter = CodePoint.ofChar 'd' || letter = CodePoint.ofChar 'i' then
    some (Text.nativeBytes (lay true (Text.ofInt (number.getD 0))), number.isSome, true)
  else if letter = CodePoint.ofChar 'u' then
    some (Text.nativeBytes (lay true (inBase 10 (word (number.getD 0)))), number.isSome, true)
  else if letter = CodePoint.ofChar 'x' then
    some (Text.nativeBytes (lay true (inBase 16 (word (number.getD 0)))), number.isSome, true)
  else if letter = CodePoint.ofChar 'o' then
    some (Text.nativeBytes (lay true (inBase 8 (word (number.getD 0)))), number.isSome, true)
  else none

/-- What one use of a format came to: the bytes, whether all was right so far, the
arguments that are left, and whether printing goes on. -/
structure Use where
  bytes : Bytes
  right : Bool
  arguments : List Text
  more : Bool

/-- Uses a format once; none if it has a conversion that does not exist. -/
def useFrom : Nat → Use → Text → Option Use
  | 0, use, _ => some use
  | _ + 1, use, [] => some use
  | measure + 1, use, point :: rest =>
    if point.val = 0x25 then
      match rest with
      | [] => none
      | next :: after =>
        if next.val = 0x25 then useFrom measure { use with bytes := use.bytes ++ [0x25] } after
        else do
          let (conversion, rest) ← conversion? rest
          let (bytes, right, more) ← converted conversion use.arguments.head?
          let use : Use :=
            ⟨use.bytes ++ bytes, use.right && right, use.arguments.drop 1, use.more && more⟩
          if more then useFrom measure use rest else some use
    else if point = CodePoint.backslash then
      match rest with
      | [] => some { use with bytes := use.bytes ++ [0x5C] }
      | letter :: after =>
        match control? letter with
        | some byte => useFrom measure { use with bytes := use.bytes ++ [byte] } after
        | none =>
          let digits := octalDigits rest
          if digits.isEmpty then
            useFrom measure { use with bytes := use.bytes ++ [0x5C] } rest
          else
            useFrom measure
              { use with bytes := use.bytes ++ [UInt8.ofNat (octalValue digits)] }
              (rest.drop digits.length)
    else useFrom measure { use with bytes := use.bytes ++ point.utf8 } rest

/-- Uses a format until no argument is left. -/
def usesFrom (format : Text) : Nat → Use → Option Use
  | 0, use => some use
  | measure + 1, use => do
    let before := use.arguments.length
    let use ← useFrom (format.length + 1) use format
    if !use.more || use.arguments.isEmpty || use.arguments.length = before then return use
    else usesFrom format measure use

/-- What printing by a format prints, and the code.  The format may begin with a dash
only if `dashes` says so. -/
def formattedAs (dashes : Bool) (arguments : List Text) : Bytes × Nat :=
  let arguments := match arguments with
    | first :: rest => if first.is "--" then rest else first :: rest
    | [] => []
  match arguments with
  | [] => ([], 2)
  | format :: arguments =>
    if !dashes && format.length > 1 && format.head? = some (CodePoint.ofChar '-') then ([], 2)
    else match usesFrom format (arguments.length + 1) ⟨[], true, arguments, true⟩ with
      | some use => (use.bytes, if use.right then 0 else 1)
      | none => ([], 2)

/-- What the printing that is built in prints, and the code. -/
def formatted (arguments : List Text) : Bytes × Nat := formattedAs false arguments

end Printed

end Shell

end Heartbeat
