import Heartbeat.Text

/-!
# Words of a script

A script is made of words.  A word is a sequence of pieces: points that stand for
themselves, and places where something is put in when the script runs, the value of
a parameter, the output of a script or the value of a sum.  A piece between quotes
is not split and no pattern.

Single quotes keep everything as it is.  Between double quotes the dollar sign and
the back quote still have their meaning, and a backslash escapes what has one.
-/

namespace Heartbeat

set_option autoImplicit false

namespace Shell

/-! ## Pieces -/

/-- A piece of a word. -/
inductive Piece where
  /-- A point that stands for itself. -/
  | point (quoted : Bool) (point : CodePoint)
  /-- Quotes with nothing between them. -/
  | nothing
  /-- The value of a parameter, and what is to be done with it. -/
  | parameter (quoted : Bool) (name modifier : Text)
  /-- The number of points of a parameter. -/
  | count (quoted : Bool) (name : Text)
  /-- The output of a script. -/
  | output (quoted : Bool) (script : Text)
  /-- The value of a sum. -/
  | sum (quoted : Bool) (expression : Text)
  /-- Something that is no parameter. -/
  | bad
deriving DecidableEq

/-- A word. -/
abbrev Word := List Piece

namespace Word

/-- The text of a word that consists of plain points only. -/
def plain? : Word → Option Text
  | [] => some []
  | .point false point :: pieces => (plain? pieces).map (point :: ·)
  | _ :: _ => none

end Word

/-! ## Classes of points -/

/-- The line feed. -/
def lineFeed : CodePoint := 0x0A

/-- The dollar sign. -/
def dollar : CodePoint := 0x24

/-- The back quote. -/
def backQuote : CodePoint := 0x60

/-- The opening brace. -/
def openBrace : CodePoint := 0x7B

/-- The closing brace. -/
def closeBrace : CodePoint := 0x7D

/-- The opening parenthesis. -/
def openRound : CodePoint := 0x28

/-- The closing parenthesis. -/
def closeRound : CodePoint := 0x29

/-- A blank between words. -/
def isGap (point : CodePoint) : Bool := point.val = 0x20 || point.val = 0x09

/-- The points that operators are made of. -/
def isOperatorPoint (point : CodePoint) : Bool :=
  ((";&|<>()" : Text) : List CodePoint).contains point

/-- What ends a word. -/
def endsWord (point : CodePoint) : Bool :=
  isGap point || decide (point = lineFeed) || isOperatorPoint point

/-- A letter or an underscore. -/
def beginsName (point : CodePoint) : Bool :=
  point.isLetter || decide (point.val = 0x5F)

/-- A letter, an underscore or a digit. -/
def continuesName (point : CodePoint) : Bool := beginsName point || point.isDigit

/-- Whether a text is the name of a variable. -/
def isName : Text → Bool
  | [] => false
  | first :: rest => beginsName first && rest.all continuesName

/-- A parameter that is not a variable. -/
def isSpecial (point : CodePoint) : Bool :=
  ((("@*#?-$!" : Text) : List CodePoint).contains point) || point.isDigit

/-! ## What is enclosed -/

/-- The quotes that a point stands between. -/
inductive Quotation where
  | plain
  | single
  | double
deriving DecidableEq

/-- The text up to the closing mark of what was opened before it, and what follows.
The closing mark does not count where it is quoted or closes something opened later,
of which there are `depth`. -/
def enclosed (opening closing : CodePoint) :
    Nat → Quotation → Text → Option (Text × Text)
  | _, _, [] => none
  | depth, quotation, [point] =>
    if quotation = .plain ∧ point = closing ∧ depth = 0 then some ([], []) else none
  | depth, quotation, point :: next :: rest =>
    if quotation = .single then
      (enclosed opening closing depth (if point = CodePoint.singleQuote then .plain else .single)
        (next :: rest)).map fun (text, after) => (point :: text, after)
    else if point = CodePoint.backslash then
      (enclosed opening closing depth quotation rest).map fun (text, after) =>
        (point :: next :: text, after)
    else if point = CodePoint.doubleQuote then
      (enclosed opening closing depth (if quotation = .double then .plain else .double)
        (next :: rest)).map fun (text, after) => (point :: text, after)
    else if quotation = .double then
      (enclosed opening closing depth .double (next :: rest)).map fun (text, after) =>
        (point :: text, after)
    else if point = CodePoint.singleQuote then
      (enclosed opening closing depth .single (next :: rest)).map fun (text, after) =>
        (point :: text, after)
    else if point = closing then
      match depth with
      | 0 => some ([], next :: rest)
      | depth + 1 =>
        (enclosed opening closing depth .plain (next :: rest)).map fun (text, after) =>
          (point :: text, after)
    else
      (enclosed opening closing (if point = opening then depth + 1 else depth) .plain
        (next :: rest)).map fun (text, after) => (point :: text, after)

/-- The script between back quotes and what follows.  A backslash there escapes itself,
the dollar sign and the back quote. -/
def backQuoted : Text → Option (Text × Text)
  | [] => none
  | [point] => if point = backQuote then some ([], []) else none
  | point :: next :: rest =>
    if point = backQuote then some ([], next :: rest)
    else if point = CodePoint.backslash then
      (backQuoted rest).map fun (text, after) =>
        if next = backQuote || next = CodePoint.backslash || next = dollar then
          (next :: text, after)
        else (point :: next :: text, after)
    else (backQuoted (next :: rest)).map fun (text, after) => (point :: text, after)

/-- A parameter between braces: its name and its modifier. -/
def bracedPiece (quoted : Bool) (text : Text) : Piece :=
  match text with
  | [] => .bad
  | first :: rest =>
    if first.val = 0x23 && !rest.isEmpty then
      if isName rest || (rest.length = 1 && rest.all isSpecial) || rest.all CodePoint.isDigit then
        .count quoted rest
      else .bad
    else if beginsName first then
      .parameter quoted (text.takeWhile continuesName) (text.dropWhile continuesName)
    else if first.isDigit then
      .parameter quoted (text.takeWhile CodePoint.isDigit) (text.dropWhile CodePoint.isDigit)
    else if isSpecial first then .parameter quoted [first] rest
    else .bad

/-- What a dollar sign begins, and what follows; the dollar sign stands for itself if
it begins nothing. -/
def dollarPiece (quoted : Bool) (text : Text) : Option (Piece × Text) :=
  match text with
  | [] => some (.point quoted dollar, [])
  | first :: rest =>
    if first = openRound then
      match enclosed openRound closeRound 0 .plain rest with
      | none => none
      | some (inner, after) =>
        match inner.head?, inner.getLast? with
        | some head, some last =>
          if head = openRound && last = closeRound then
            some (.sum quoted ((inner.drop 1).dropLast), after)
          else some (.output quoted inner, after)
        | _, _ => some (.output quoted inner, after)
    else if first = openBrace then
      (enclosed openBrace closeBrace 0 .plain rest).map fun (inner, after) =>
        (bracedPiece quoted inner, after)
    else if beginsName first then
      some (.parameter quoted (text.takeWhile continuesName) [], text.dropWhile continuesName)
    else if isSpecial first then some (.parameter quoted [first] [], rest)
    else some (.point quoted dollar, text)

/-! ## Reading a word -/

/-- The points that a backslash escapes between double quotes. -/
def isEscapable (point : CodePoint) : Bool :=
  point = dollar || point = backQuote || point = CodePoint.doubleQuote
    || point = CodePoint.backslash

/-- Whether double quotes hold all parameters and nothing else; then they stand for as
many fields as there are parameters, which may be none. -/
def holdsParameters (inner : Word) : Bool :=
  !inner.isEmpty && inner.all fun piece => decide (piece = .parameter true "@" [])

/-- Reads pieces as long as the measure lasts: outside of quotes up to the end of a
word, between double quotes up to the closing one.  Returns nothing if quotes are not
closed. -/
def piecesFrom (stops : CodePoint → Bool) : Nat → Bool → Text → Option (Word × Text)
  | 0, _, _ => none
  | _ + 1, quoted, [] => if quoted then none else some ([], [])
  | measure + 1, true, point :: rest =>
    if point = CodePoint.doubleQuote then some ([], rest)
    else if point = CodePoint.backslash then
      match rest with
      | [] => none
      | next :: rest =>
        if next = lineFeed then piecesFrom stops measure true rest
        else (piecesFrom stops measure true rest).map fun (pieces, after) =>
          if isEscapable next then (.point true next :: pieces, after)
          else (.point true point :: .point true next :: pieces, after)
    else if point = dollar then do
      let (piece, rest) ← dollarPiece true rest
      let (pieces, after) ← piecesFrom stops measure true rest
      return (piece :: pieces, after)
    else if point = backQuote then do
      let (script, rest) ← backQuoted rest
      let (pieces, after) ← piecesFrom stops measure true rest
      return (.output true script :: pieces, after)
    else (piecesFrom stops measure true rest).map fun (pieces, after) =>
      (.point true point :: pieces, after)
  | measure + 1, false, point :: rest =>
    if stops point then some ([], point :: rest)
    else if point = CodePoint.singleQuote then do
      let (text, rest) ← Text.cut? CodePoint.singleQuote rest
      let (pieces, after) ← piecesFrom stops measure false rest
      return (.nothing :: text.map (Piece.point true) ++ pieces, after)
    else if point = CodePoint.doubleQuote then do
      let (inner, rest) ← piecesFrom stops measure true rest
      let (pieces, after) ← piecesFrom stops measure false rest
      return (if holdsParameters inner then (inner ++ pieces, after)
        else (.nothing :: inner ++ pieces, after))
    else if point = CodePoint.backslash then
      match rest with
      | [] => some ([.point true point], [])
      | next :: rest =>
        if next = lineFeed then piecesFrom stops measure false rest
        else (piecesFrom stops measure false rest).map fun (pieces, after) =>
          (.point true next :: pieces, after)
    else if point = dollar then do
      let (piece, rest) ← dollarPiece false rest
      let (pieces, after) ← piecesFrom stops measure false rest
      return (piece :: pieces, after)
    else if point = backQuote then do
      let (script, rest) ← backQuoted rest
      let (pieces, after) ← piecesFrom stops measure false rest
      return (.output false script :: pieces, after)
    else (piecesFrom stops measure false rest).map fun (pieces, after) =>
      (.point false point :: pieces, after)

/-- Reads the word at the front of a text. -/
def readWord (text : Text) : Option (Word × Text) :=
  piecesFrom endsWord (text.length + 1) false text

/-- The word that a whole text is, as it stands behind a parameter's name. -/
def wholeWord (text : Text) : Option Word :=
  (piecesFrom (fun _ => false) (text.length + 1) false text).map Prod.fst

/-- The word that a document in a script is, as long as the measure lasts.  It is like a
text between double quotes, in which double quotes mean nothing. -/
def documentFrom : Nat → Text → Option Word
  | 0, _ => none
  | _ + 1, [] => some []
  | measure + 1, point :: rest =>
    if point = CodePoint.backslash then
      match rest with
      | [] => some [.point true point]
      | next :: rest =>
        if next = lineFeed then documentFrom measure rest
        else (documentFrom measure rest).map fun pieces =>
          if isEscapable next && next ≠ CodePoint.doubleQuote then .point true next :: pieces
          else .point true point :: .point true next :: pieces
    else if point = dollar then do
      let (piece, rest) ← dollarPiece true rest
      return piece :: (← documentFrom measure rest)
    else if point = backQuote then do
      let (script, rest) ← backQuoted rest
      return .output true script :: (← documentFrom measure rest)
    else (documentFrom measure rest).map fun pieces => .point true point :: pieces

/-- The pieces of a text as if it stood between double quotes. -/
def quotedWord (text : Text) : Option Word :=
  (piecesFrom (fun _ => false) (text.length + 2) true (text ++ [CodePoint.doubleQuote])).map
    Prod.fst

end Shell

end Heartbeat
