import Heartbeat.Text.Blank

/-!
# Sums

A sum is an expression over whole numbers with the operators of arithmetic, of
comparison and of logic, in their usual order of binding.  Numbers are words of 64
bits.  A number may be written in decimal, in octal behind a zero, and in hexadecimal
behind a zero and an x; a name stands for the number that the variable has.
-/

namespace Heartbeat

set_option autoImplicit false

namespace Shell

/-- What a sum is made of. -/
inductive SumToken where
  | number (value : Int)
  | name (name : Text)
  | operator (operator : Text)
deriving DecidableEq

namespace Sum

/-! ## Reading -/

/-- The operators, the longer ones first. -/
def operators : List Text :=
  ["<<", ">>", "<=", ">=", "==", "!=", "&&", "||", "+", "-", "*", "/", "%", "<", ">", "&", "|",
    "^", "!", "~", "(", ")", "?", ":"]

/-- The number that digits write in a base. -/
def inBase? (base : Nat) (digits : Text) : Option Nat :=
  if digits.isEmpty then none
  else digits.foldlM
    (fun value point => point.hexadecimalValue?.bind fun digit =>
      if digit < base then some (base * value + digit) else none) 0

/-- The number that a text writes. -/
def number? (text : Text) : Option Nat :=
  match text with
  | zero :: mark :: rest =>
    if zero.val = 0x30 then
      if mark.val = 0x78 || mark.val = 0x58 then inBase? 16 rest else inBase? 8 (mark :: rest)
    else inBase? 10 text
  | _ => inBase? 10 text

/-- Whether a point belongs to a number or a name. -/
def isWordPoint (point : CodePoint) : Bool :=
  point.isDigit || point.isLetter || decide (point.val = 0x5F)

/-- The tokens of a sum, as far as the measure goes. -/
def tokensFrom : Nat → Text → Option (List SumToken)
  | 0, _ => none
  | _ + 1, [] => some []
  | measure + 1, point :: rest =>
    if point.isBlank then tokensFrom measure rest
    else if point.isDigit then do
      let word := (point :: rest).takeWhile isWordPoint
      let number ← number? word
      let others ← tokensFrom measure ((point :: rest).drop word.length)
      return .number number :: others
    else if isWordPoint point then do
      let word := (point :: rest).takeWhile isWordPoint
      let others ← tokensFrom measure ((point :: rest).drop word.length)
      return .name word :: others
    else do
      let (operator, rest) ← operators.findSome? fun operator =>
        (Text.after? operator (point :: rest)).map fun rest => (operator, rest)
      let others ← tokensFrom measure rest
      return .operator operator :: others

/-! ## Computing -/

/-- A number as a word of 64 bits. -/
def wrapped (number : Int) : Int := number.bmod 0x10000000000000000

/-- A truth value as a number. -/
def ofBool (value : Bool) : Int := if value then 1 else 0

/-- The bits of a number that is a word. -/
def bits (number : Int) : Nat := (number % 0x10000000000000000).toNat

/-- The value of an operator for two numbers; dividing by zero has none. -/
def apply (operator : Text) (left right : Int) : Option Int :=
  if operator.is "+" then some (wrapped (left + right))
  else if operator.is "-" then some (wrapped (left - right))
  else if operator.is "*" then some (wrapped (left * right))
  else if operator.is "/" then if right = 0 then none else some (wrapped (Int.tdiv left right))
  else if operator.is "%" then if right = 0 then none else some (wrapped (Int.tmod left right))
  else if operator.is "<" then some (ofBool (left < right))
  else if operator.is ">" then some (ofBool (right < left))
  else if operator.is "<=" then some (ofBool (left ≤ right))
  else if operator.is ">=" then some (ofBool (right ≤ left))
  else if operator.is "==" then some (ofBool (left = right))
  else if operator.is "!=" then some (ofBool (left ≠ right))
  else if operator.is "&&" then some (ofBool (left ≠ 0 && right ≠ 0))
  else if operator.is "||" then some (ofBool (left ≠ 0 || right ≠ 0))
  else if operator.is "&" then some (wrapped (Nat.land (bits left) (bits right)))
  else if operator.is "|" then some (wrapped (Nat.lor (bits left) (bits right)))
  else if operator.is "^" then some (wrapped (Nat.xor (bits left) (bits right)))
  else if operator.is "<<" then some (wrapped (left * Nat.pow 2 (bits right % 64)))
  else if operator.is ">>" then some (left / Nat.pow 2 (bits right % 64))
  else none

/-- The operators between two numbers, level by level, those that bind least first. -/
def levels : List (List String) :=
  [["||"], ["&&"], ["|"], ["^"], ["&"], ["==", "!="], ["<", "<=", ">", ">="], ["<<", ">>"],
    ["+", "-"], ["*", "/", "%"]]

/-- The operator at the front of some tokens, if it is one of a level. -/
def operatorOf? (level : List String) : List SumToken → Option (Text × List SumToken)
  | .operator operator :: rest => if level.any operator.is then some (operator, rest) else none
  | _ => none

mutual
/-- The value at the front of some tokens with the operators of the given levels, and
what follows it. -/
def value (lookup : Text → Option Int) :
    Nat → List (List String) → List SumToken → Option (Int × List SumToken)
  | 0, _, _ => none
  | measure + 1, [], tokens => operand lookup measure tokens
  | measure + 1, level :: stronger, tokens => do
    let (left, rest) ← value lookup measure stronger tokens
    continued lookup measure level stronger left rest

/-- The value that a number has with the operators of one level behind it. -/
def continued (lookup : Text → Option Int) :
    Nat → List String → List (List String) → Int → List SumToken → Option (Int × List SumToken)
  | 0, _, _, _, _ => none
  | measure + 1, level, stronger, left, tokens =>
    match operatorOf? level tokens with
    | none => some (left, tokens)
    | some (operator, rest) => do
      let (right, rest) ← value lookup measure stronger rest
      continued lookup measure level stronger (← apply operator left right) rest

/-- The value of an operand: a number, a name, something between parentheses, or any of
them behind an operator for one number. -/
def operand (lookup : Text → Option Int) :
    Nat → List SumToken → Option (Int × List SumToken)
  | 0, _ => none
  | measure + 1, tokens =>
    match tokens with
    | .number number :: rest => some (wrapped number, rest)
    | .name name :: rest => (lookup name).map fun number => (number, rest)
    | .operator operator :: rest =>
      if operator.is "(" then
        match choice lookup measure rest with
        | some (number, .operator closing :: rest) =>
          if closing.is ")" then some (number, rest) else none
        | _ => none
      else do
        let (number, rest) ← operand lookup measure rest
        if operator.is "-" then return (wrapped (-number), rest)
        else if operator.is "+" then return (number, rest)
        else if operator.is "!" then return (ofBool (number = 0), rest)
        else if operator.is "~" then return (-number - 1, rest)
        else none
    | [] => none

/-- The value of a whole expression, which may choose between two. -/
def choice (lookup : Text → Option Int) :
    Nat → List SumToken → Option (Int × List SumToken)
  | 0, _ => none
  | measure + 1, tokens => do
    let (condition, rest) ← value lookup measure levels tokens
    match operatorOf? ["?"] rest with
    | none => return (condition, rest)
    | some (_, rest) => do
      let (first, rest) ← choice lookup measure rest
      let (_, rest) ← operatorOf? [":"] rest
      let (second, rest) ← choice lookup measure rest
      return (if condition ≠ 0 then first else second, rest)
end

/-- The value of a sum; an empty one is zero. -/
def evaluate (lookup : Text → Option Int) (text : Text) : Option Int := do
  let tokens ← tokensFrom (text.length + 1) text
  if tokens.isEmpty then return 0
  match choice lookup (16 * tokens.length + 16) tokens with
  | some (number, []) => return number
  | _ => none

end Sum

end Shell

end Heartbeat
