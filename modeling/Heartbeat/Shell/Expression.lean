import Heartbeat.Shell.Condition

/-!
# Expressions of arguments

A program computes with its arguments: every argument is a number, a text, an operator or
a parenthesis.  Texts that are numbers are compared and computed with as numbers, others
are only compared.  The result is a text; it counts as false if it is empty or zero.
-/

namespace Heartbeat

set_option autoImplicit false

namespace Shell

namespace Expression

/-- Why an expression has no result, by the code that is returned. -/
inductive Mistake where
  /-- It is not well made, or an operand is no number. -/
  | malformed
  /-- It divides by zero. -/
  | noQuotient
deriving DecidableEq

/-- Whether a text counts as false. -/
def isFalse (text : Text) : Bool :=
  let digits := if text.head? = some (CodePoint.ofChar '-') then text.drop 1 else text
  text.isEmpty || (!digits.isEmpty && digits.all fun point => decide (point.val = 0x30))

/-- The number that a text is. -/
def number? (text : Text) : Option Int :=
  match text with
  | [] => none
  | first :: rest =>
    if first.val = 0x2D then
      if rest.isEmpty || !rest.all CodePoint.isDigit then none
      else some (-(Text.digitsValue rest : Int))
    else if text.all CodePoint.isDigit then some (Text.digitsValue text : Int)
    else none

/-- A truth value as a text. -/
def ofBool (value : Bool) : Text := if value then "1" else "0"

/-- Compares two texts, as numbers if both are. -/
def compare (order : Ordering → Bool) (left right : Text) : Text :=
  match number? left, number? right with
  | some left, some right => ofBool (order (Ord.compare left right))
  | _, _ =>
    ofBool (order (if left = right then .eq else if left < right then .lt else .gt))

/-- The result of an operator. -/
def apply (operator left right : Text) : Except Mistake Text :=
  let computed := fun (result : Int → Int → Except Mistake Int) =>
    match number? left, number? right with
    | some left, some right => Text.ofInt <$> result left right
    | _, _ => .error .malformed
  if operator.is "|" then
    .ok (if !isFalse left then left else if isFalse right then "0" else right)
  else if operator.is "&" then .ok (if isFalse left || isFalse right then "0" else left)
  else if operator.is "=" || operator.is "==" then
    .ok (compare (fun order => order.isEq) left right)
  else if operator.is "!=" then .ok (compare (fun order => order.isNe) left right)
  else if operator.is "<" then .ok (compare (fun order => order.isLT) left right)
  else if operator.is "<=" then .ok (compare (fun order => order.isLE) left right)
  else if operator.is ">" then .ok (compare (fun order => order.isGT) left right)
  else if operator.is ">=" then .ok (compare (fun order => order.isGE) left right)
  else if operator.is "+" then computed fun left right => .ok (left + right)
  else if operator.is "-" then computed fun left right => .ok (left - right)
  else if operator.is "*" then computed fun left right => .ok (left * right)
  else if operator.is "/" then computed fun left right =>
    if right = 0 then .error .noQuotient else .ok (Int.tdiv left right)
  else if operator.is "%" then computed fun left right =>
    if right = 0 then .error .noQuotient else .ok (Int.tmod left right)
  else .error .malformed

/-- The operators, level by level, those that bind least first. -/
def levels : List (List String) :=
  [["|"], ["&"], ["=", "==", "!=", "<", "<=", ">", ">="], ["+", "-"], ["*", "/", "%"]]

mutual
/-- The value at the front of some arguments with the operators of the given levels, and
what follows it. -/
def value : Nat → List (List String) → List Text → Except Mistake (Text × List Text)
  | 0, _, _ => .error .malformed
  | measure + 1, [], arguments => operand measure arguments
  | measure + 1, level :: stronger, arguments => do
    let (left, rest) ← value measure stronger arguments
    continued measure level stronger left rest

/-- The value that a text has with the operators of one level behind it. -/
def continued :
    Nat → List String → List (List String) → Text → List Text → Except Mistake (Text × List Text)
  | 0, _, _, _, _ => .error .malformed
  | _ + 1, _, _, left, [] => .ok (left, [])
  | measure + 1, level, stronger, left, operator :: rest =>
    if level.any operator.is then do
      let (right, rest) ← value measure stronger rest
      continued measure level stronger (← apply operator left right) rest
    else .ok (left, operator :: rest)

/-- The value of an operand: an argument, or something between parentheses. -/
def operand : Nat → List Text → Except Mistake (Text × List Text)
  | 0, _ => .error .malformed
  | _ + 1, [] => .error .malformed
  | measure + 1, argument :: rest =>
    if argument.is "(" then
      match value measure levels rest with
      | .ok (result, closing :: rest) =>
        if closing.is ")" then .ok (result, rest) else .error .malformed
      | .ok (_, []) => .error .malformed
      | .error mistake => .error mistake
    else if argument.is "length" && !rest.isEmpty then do
      let (text, rest) ← operand measure rest
      return (Text.ofNat text.length, rest)
    else if argument.is ")" then .error .malformed
    else .ok (argument, rest)
end

/-- The result of an expression. -/
def evaluate (arguments : List Text) : Except Mistake Text := do
  match (← value (16 * arguments.length + 16) levels arguments) with
  | (result, []) => return result
  | _ => throw .malformed

/-- The code that belongs to a result. -/
def code : Except Mistake Text → Nat
  | .ok result => if isFalse result then 1 else 0
  | .error _ => 2

/-! ## Sequences -/

/-- The numbers from one on, as many as given, each by the same amount away from the one
before. -/
def numbersFrom (first step : Int) : Nat → List Int
  | 0 => []
  | count + 1 => first :: numbersFrom (first + step) step count

/-- The numbers from one to another one in steps. -/
def numbers (first step last : Int) : List Int :=
  if step = 0 then []
  else
    let distance := if 0 < step then last - first else first - last
    if distance < 0 then [] else numbersFrom first step ((distance / step.natAbs).toNat + 1)

/-- The numbers that arguments ask for: up to one, from one to one, or in steps between
them. -/
def sequence? (arguments : List Text) : Option (List Int) :=
  match arguments.mapM number? with
  | some [last] => some (numbers 1 1 last)
  | some [first, last] => some (numbers first 1 last)
  | some [first, step, last] => if step = 0 then none else some (numbers first step last)
  | _ => none

end Expression

end Shell

end Heartbeat
