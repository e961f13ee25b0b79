import Heartbeat.Files.Change

/-!
# Conditions

A condition asks about texts, numbers and files, and conditions are joined by and, or
and not.  A word that could be an operator is one only where it has something to work
on; in front of a comparison it is an operand.

While a condition is read, the current word is the last one that was used, and the
words behind it are still to come.
-/

namespace Heartbeat

set_option autoImplicit false

namespace Shell

namespace Condition

/-- What kind of operator a word is. -/
inductive Role where
  | unary
  | binary
  | negation
  | conjunction
  | disjunction
  | opening
  | closing
deriving DecidableEq

/-- The operators for one operand. -/
def unaryOperators : List String :=
  ["-n", "-z", "-e", "-f", "-d", "-r", "-w", "-x", "-s", "-L", "-h", "-b", "-c", "-p", "-S", "-t",
    "-u", "-g", "-k", "-O", "-G"]

/-- The operators for two operands. -/
def binaryOperators : List String :=
  ["=", "!=", "<", ">", "-eq", "-ne", "-gt", "-ge", "-lt", "-le", "-nt", "-ot", "-ef"]

/-- The role of a word, if it is an operator.  The doubled equals sign is one only where
it is known. -/
def role? (doubled : Bool) (word : Text) : Option Role :=
  if unaryOperators.any word.is then some .unary
  else if binaryOperators.any word.is || (doubled && word.is "==") then some .binary
  else if word.is "!" then some .negation
  else if word.is "-a" then some .conjunction
  else if word.is "-o" then some .disjunction
  else if word.is "(" then some .opening
  else if word.is ")" then some .closing
  else none

/-- The role of the first of some words, if it works on something there. -/
def roleOf (doubled : Bool) (words : List Text) : Option Role :=
  match words with
  | [] => none
  | word :: rest =>
    match role? doubled word, rest with
    | some .unary, [] => none
    | some .unary, [_] => some .unary
    | some .unary, next :: _ :: _ =>
      if role? doubled next = some .binary then none else some .unary
    | some .opening, [] => none
    | role, _ => role

/-! ## Comparing -/

/-- The number that a text writes; blanks around it do not matter. -/
def number? (text : Text) : Option Int :=
  let isSpace := fun (point : CodePoint) =>
    point.val = 0x20 || (decide (0x09 ≤ point.val) && decide (point.val ≤ 0x0D))
  let core := Text.dropEndWhile isSpace (text.dropWhile isSpace)
  let digits := fun (text : Text) =>
    if text.isEmpty || !text.all CodePoint.isDigit then none else some (Text.digitsValue text)
  let number : Option Int := match core with
    | [] => none
    | first :: rest =>
      if first.val = 0x2D then (digits rest).map fun number => -(number : Int)
      else if first.val = 0x2B then (digits rest).map Int.ofNat
      else (digits core).map Int.ofNat
  number.filter fun number => decide (-0x8000000000000000 ≤ number ∧ number < 0x8000000000000000)

/-- Compares two numbers. -/
def compare (relation : Int → Int → Bool) (left right : Text) : Option Bool := do
  return relation (← number? left) (← number? right)

/-- The answer of an operator for two operands; none if an operand is wrong. -/
def binary (tree : FileTree) (operator left right : Text) : Option Bool :=
  if operator.is "=" || operator.is "==" then some (decide (left = right))
  else if operator.is "!=" then some (decide (left ≠ right))
  else if operator.is "<" then some (decide (left < right))
  else if operator.is ">" then some (decide (right < left))
  else if operator.is "-eq" then compare (fun left right => decide (left = right)) left right
  else if operator.is "-ne" then compare (fun left right => decide (left ≠ right)) left right
  else if operator.is "-gt" then compare (fun left right => decide (right < left)) left right
  else if operator.is "-ge" then compare (fun left right => decide (right ≤ left)) left right
  else if operator.is "-lt" then compare (fun left right => decide (left < right)) left right
  else if operator.is "-le" then compare (fun left right => decide (left ≤ right)) left right
  else if operator.is "-ef" then
    match tree.entryAt left, tree.entryAt right with
    | .ok (first, _), .ok (second, _) => some (decide (first = second))
    | _, _ => some false
  else
    let first := (tree.entryAt left).toOption.isSome
    let second := (tree.entryAt right).toOption.isSome
    some (if operator.is "-nt" then first && !second else second && !first)

/-- The answer of an operator for one operand.  There is no terminal. -/
def unary (tree : FileTree) (operator operand : Text) : Option Bool :=
  let entry := (tree.entryAt operand).toOption.map Prod.snd
  if operator.is "-n" then some (!operand.isEmpty)
  else if operator.is "-z" then some operand.isEmpty
  else if operator.is "-t" then (number? operand).map fun _ => false
  else if operator.is "-f" then some (match entry with
    | some (.file _) => true
    | _ => false)
  else if operator.is "-d" then some (decide (entry = some .directory))
  else if operator.is "-x" then some (match tree.entryAt operand with
    | .ok (_, .directory) => true
    | .ok (location, _) => tree.isExecutable location
    | .error _ => false)
  else if operator.is "-s" then some (match entry with
    | some (.file content) => !content.isEmpty
    | some .directory => true
    | _ => false)
  else if operator.is "-c" then some (match entry with
    | some (.device _) => true
    | _ => false)
  else if ["-e", "-r", "-w", "-O", "-G"].any operator.is then some entry.isSome
  else some false

/-! ## Reading -/

/-- A condition that was read: its answer, and the words from the last one it used. -/
abbrev Reading := Option (Bool × List Text)

mutual
/-- Reads conditions joined by or; the first word has the given role. -/
def disjunction (doubled : Bool) (tree : FileTree) : Nat → Bool → Option Role → List Text → Reading
  | 0, _, _, _ => none
  | measure + 1, former, role, words => do
    let (answer, words) ← conjunction doubled tree measure true role words
    let answer := former || answer
    if roleOf doubled (words.drop 1) = some .disjunction then
      disjunction doubled tree measure answer (roleOf doubled (words.drop 2)) (words.drop 2)
    else return (answer, words)

/-- Reads conditions joined by and. -/
def conjunction (doubled : Bool) (tree : FileTree) : Nat → Bool → Option Role → List Text → Reading
  | 0, _, _, _ => none
  | measure + 1, former, role, words => do
    let (answer, words) ← negation doubled tree measure role words
    let answer := former && answer
    if roleOf doubled (words.drop 1) = some .conjunction then
      conjunction doubled tree measure answer (roleOf doubled (words.drop 2)) (words.drop 2)
    else return (answer, words)

/-- Reads a condition that may be negated. -/
def negation (doubled : Bool) (tree : FileTree) : Nat → Option Role → List Text → Reading
  | 0, _, _ => none
  | measure + 1, role, words =>
    if role = some .negation then
      match words.drop 1 with
      | [] => some (true, words)
      | rest => do
        let (answer, words) ← negation doubled tree measure (roleOf doubled rest) rest
        return (!answer, words)
    else primary doubled tree measure role words

/-- Reads a single condition. -/
def primary (doubled : Bool) (tree : FileTree) : Nat → Option Role → List Text → Reading
  | 0, _, _ => none
  | measure + 1, role, words =>
    match words with
    | [] => some (false, [])
    | word :: rest =>
      if role = some .opening then
        if roleOf doubled rest = some .closing then some (false, rest)
        else do
          let (answer, words) ← disjunction doubled tree measure false (roleOf doubled rest) rest
          if roleOf doubled (words.drop 1) = some .closing then return (answer, words.drop 1)
          else none
      else if role = some .unary then
        match rest with
        | [] => none
        | operand :: _ => (unary tree word operand).map fun answer => (answer, rest)
      else if roleOf doubled rest = some .binary then
        match rest with
        | operator :: right :: others =>
          (binary tree operator word right).map fun answer => (answer, right :: others)
        | _ => none
      else some (!word.isEmpty, words)
end

/-- The answer to a condition whose first word has the given role.  Nothing may be left
over. -/
def whole (doubled : Bool) (tree : FileTree) (role : Option Role) (words : List Text) :
    Option Bool :=
  match disjunction doubled tree (8 * words.length + 8) false role words with
  | some (answer, rest) => if rest.length ≤ 1 then some answer else none
  | none => none

/-- The answer to a condition; none if it is wrong.  Three words with an operator in the
middle are a comparison whatever the others are, and three or four words may be negated
or stand between parentheses as a whole. -/
def answerFrom (doubled : Bool) (tree : FileTree) : Nat → List Text → Option Bool
  | 0, _ => none
  | measure + 1, words =>
    match words with
    | [] => some false
    | first :: rest =>
      if words.length = 3 ∧ (rest.head?.bind (role? doubled)) = some .binary then
        whole doubled tree none words
      else if words.length = 3 ∨ words.length = 4 then
        if first.is "(" && (words.getLast?.getD []).is ")" then
          whole doubled tree (roleOf doubled rest.dropLast) rest.dropLast
        else if first.is "!" then (answerFrom doubled tree measure rest).map (!·)
        else whole doubled tree (roleOf doubled words) words
      else whole doubled tree (roleOf doubled words) words

/-- The code of a condition: zero if it holds, one if not, two if it is wrong. -/
def code (doubled : Bool) (tree : FileTree) (words : List Text) : Nat :=
  match answerFrom doubled tree (words.length + 1) words with
  | some true => 0
  | some false => 1
  | none => 2

end Condition

end Shell

end Heartbeat
