import Heartbeat.Shell.Word

/-!
# Scripts

A script is a sequence of lines, and a line is a command: a simple one, or one that
is put together from others.  Words with a meaning of their own have it only where a
command begins, and only without quotes.

A script is read line by line while it runs, so a line that cannot be read does not
keep the lines in front of it from running.
-/

namespace Heartbeat

set_option autoImplicit false

namespace Shell

/-! ## Tokens -/

/-- What a script is made of. -/
inductive Token where
  | word (word : Word)
  | operator (text : Text)
  /-- A number directly in front of a redirection. -/
  | descriptor (number : Nat)
  | newline
  /-- Something that cannot be read, with all that follows. -/
  | unreadable
deriving DecidableEq

/-- The operators, the longer ones first. -/
def operators : List Text :=
  ["<<-", "&&", "||", ";;", ">>", "<<", ">&", "<&", ">|", "<>", ";", "&", "|", "<", ">", "(", ")"]

/-- The operator at the front of a text and what follows it. -/
def operator? (text : Text) : Option (Text × Text) :=
  operators.findSome? fun operator => (Text.after? operator text).map fun rest => (operator, rest)

/-- Digits at the front of a text, if a redirection follows them. -/
def descriptor? (text : Text) : Option (Nat × Text) :=
  let digits := text.takeWhile CodePoint.isDigit
  let rest := text.drop digits.length
  match digits, rest with
  | _ :: _, next :: _ =>
    if next.val = 0x3C || next.val = 0x3E then some (Text.digitsValue digits, rest) else none
  | _, _ => none

/-! ## Documents -/

/-- The text of a word in which nothing is put in, and whether any of it is quoted. -/
def literal? : Word → Option (Text × Bool)
  | [] => some ([], false)
  | .point quoted point :: pieces =>
    (literal? pieces).map fun (text, someQuoted) => (point :: text, quoted || someQuoted)
  | .nothing :: pieces => (literal? pieces).map fun (text, _) => (text, true)
  | _ :: _ => none

/-- The lines up to a given one, and what follows that.  The tabs in front of the lines
may be left out. -/
def document (withoutTabs : Bool) (last : Text) : Nat → Text → Text × Text
  | 0, text => (text, [])
  | measure + 1, text =>
    let line := text.takeWhile fun point => decide (point ≠ lineFeed)
    let rest := text.drop line.length
    let line := if withoutTabs then line.dropWhile fun point => decide (point.val = 0x09) else line
    match rest with
    | [] => (if line = last then [] else line, [])
    | feed :: rest =>
      if line = last then ([], rest)
      else
        let (others, after) := document withoutTabs last measure rest
        (line ++ feed :: others, after)

/-- A document that is announced at the front of a text: its word, and the text without
it.  It begins on the next line and ends with the line that the announcement says; in
one that is announced with quotes nothing is put in. -/
def announced? (withoutTabs : Bool) (text : Text) : Option (Word × Text) := do
  let (word, rest) ← readWord (text.dropWhile isGap)
  let (last, quoted) ← literal? word
  if word.isEmpty then none
  let line := rest.takeWhile fun point => decide (point ≠ lineFeed)
  let (content, after) := document withoutTabs last (rest.length + 1) (rest.drop (line.length + 1))
  let word ← if quoted then some (content.map (Piece.point true))
    else documentFrom (content.length + 1) content
  return (word, line ++ if line.length < rest.length then lineFeed :: after else [])

/-- The tokens of a text, as many as the measure allows. -/
def tokensFrom : Nat → Text → List Token
  | 0, _ => [.unreadable]
  | _ + 1, [] => []
  | measure + 1, point :: rest =>
    if isGap point then tokensFrom measure rest
    else if point = lineFeed then .newline :: tokensFrom measure rest
    else if point.val = 0x23 then
      tokensFrom measure (rest.dropWhile fun other => decide (other ≠ lineFeed))
    else if point = CodePoint.backslash ∧ rest.head? = some lineFeed then
      tokensFrom measure (rest.drop 1)
    else match operator? (point :: rest) with
      | some (operator, rest) =>
        if operator.is "<<" || operator.is "<<-" then
          match announced? (operator.is "<<-") rest with
          | some (word, rest) => .operator "<<" :: .word word :: tokensFrom measure rest
          | none => [.unreadable]
        else .operator operator :: tokensFrom measure rest
      | none =>
        match descriptor? (point :: rest) with
        | some (number, rest) => .descriptor number :: tokensFrom measure rest
        | none =>
          match readWord (point :: rest) with
          | some (word, rest) => .word word :: tokensFrom measure rest
          | none => [.unreadable]

/-- The tokens of a script. -/
def tokens (script : Text) : List Token := tokensFrom (script.length + 1) script

/-! ## Commands -/

/-- How a redirection treats its target. -/
inductive Direction where
  /-- Reads from a file. -/
  | read
  /-- Writes to a file from its beginning. -/
  | write
  /-- Writes to the end of a file. -/
  | append
  /-- Takes what another descriptor has. -/
  | duplicate
  /-- Reads from a document in the script. -/
  | document
deriving DecidableEq

/-- A redirection of a descriptor. -/
structure Redirection where
  descriptor : Nat
  direction : Direction
  target : Word

/-- A value given to a variable. -/
structure Assignment where
  name : Text
  value : Word

/-- A command. -/
inductive Command where
  /-- Does nothing. -/
  | nothing
  | simple (assignments : List Assignment) (words : List Word) (redirections : List Redirection)
  | sequence (first second : Command)
  /-- Runs the second command if the first succeeds. -/
  | both (first second : Command)
  /-- Runs the second command if the first fails. -/
  | either (first second : Command)
  | negation (command : Command)
  | pipeline (first second : Command)
  | background (command : Command)
  /-- Runs a command in a copy of the shell. -/
  | apart (command : Command)
  | conditional (condition consequence alternative : Command)
  /-- Repeats a command as long as a condition has the given outcome. -/
  | loop (whileTrue : Bool) (condition body : Command)
  /-- Runs a command for each word, or for each parameter if there are none. -/
  | each (name : Text) (words : Option (List Word)) (body : Command)
  /-- Runs the command of the first pattern that a word matches. -/
  | choice (word : Word) (arms : List (List Word × Command))
  | definition (name : Text) (body : Command)
  | redirected (command : Command) (redirections : List Redirection)

/-! ## Reading commands -/

/-- The words with a meaning of their own. -/
def keywords : List String :=
  ["if", "then", "elif", "else", "fi", "do", "done", "case", "esac", "while", "until", "for",
    "\x7b", "\x7d", "!", "in"]

/-- The words that end a list of commands. -/
def closers : List String := ["then", "elif", "else", "fi", "do", "done", "esac", "\x7d"]

/-- The text of a token that is a word without quotes. -/
def Token.plain? : Token → Option Text
  | .word pieces => pieces.plain?
  | _ => none

/-- Whether a token is a given keyword. -/
def Token.isKeyword (token : Token) (keyword : String) : Bool :=
  match token.plain? with
  | some text => text.is keyword
  | none => false

/-- Whether a token is a given operator. -/
def Token.isOperator (token : Token) (operator : String) : Bool :=
  match token with
  | .operator text => text.is operator
  | _ => false

/-- Whether a list of commands ends in front of some tokens. -/
def atEnd : List Token → Bool
  | [] => true
  | token :: _ =>
    closers.any token.isKeyword || token.isOperator ")" || token.isOperator ";;"

/-- Tokens without the newlines in front of them. -/
def skipNewlines (tokens : List Token) : List Token :=
  tokens.dropWhile fun token => decide (token = .newline)

/-- The tokens behind a keyword that has to come first. -/
def expectKeyword (keyword : String) : List Token → Option (List Token)
  | [] => none
  | token :: rest => if token.isKeyword keyword then some rest else none

/-- The tokens behind an operator that has to come first. -/
def expectOperator (operator : String) : List Token → Option (List Token)
  | [] => none
  | token :: rest => if token.isOperator operator then some rest else none

/-- The direction of a redirection, and the descriptor that is redirected if none is
named. -/
def direction? (operator : Text) : Option (Direction × Nat) :=
  if operator.is "<" then some (.read, 0)
  else if operator.is "<<" then some (.document, 0)
  else if operator.is "<>" then some (.append, 0)
  else if operator.is ">" || operator.is ">|" then some (.write, 1)
  else if operator.is ">>" then some (.append, 1)
  else if operator.is "<&" then some (.duplicate, 0)
  else if operator.is ">&" then some (.duplicate, 1)
  else none

/-- A redirection at the front of some tokens, and what follows it.  The outer absence
is one of a redirection, the inner one of its target. -/
def redirection? : List Token → Option (Option (Redirection × List Token))
  | .descriptor number :: .operator operator :: rest =>
    (direction? operator).map fun (direction, _) =>
      match rest with
      | .word target :: rest => some (⟨number, direction, target⟩, rest)
      | _ => none
  | .operator operator :: rest =>
    (direction? operator).map fun (direction, descriptor) =>
      match rest with
      | .word target :: rest => some (⟨descriptor, direction, target⟩, rest)
      | _ => none
  | _ => none

/-- The redirections at the front of some tokens, as many as the measure allows. -/
def redirections : Nat → List Token → Option (List Redirection × List Token)
  | 0, tokens => some ([], tokens)
  | measure + 1, tokens =>
    match redirection? tokens with
    | none => some ([], tokens)
    | some none => none
    | some (some (redirection, rest)) => do
      let (others, rest) ← redirections measure rest
      return (redirection :: others, rest)

/-- A word that gives a value to a variable. -/
def assignment? (word : Word) : Option Assignment :=
  let name := word.takeWhile fun piece => match piece with
    | .point false point => continuesName point
    | _ => false
  match Word.plain? name, word.drop name.length with
  | some text, .point false point :: value =>
    if point.val = 0x3D && isName text then some ⟨text, value⟩ else none
  | _, _ => none

/-- A simple command in the making. -/
structure SimpleCommand where
  assignments : List Assignment
  words : List Word
  redirections : List Redirection

/-- Reads a simple command up to what ends it. -/
def simpleFrom : Nat → SimpleCommand → List Token → Option (SimpleCommand × List Token)
  | 0, _, _ => none
  | measure + 1, command, tokens =>
    match redirection? tokens with
    | some none => none
    | some (some (redirection, rest)) =>
      simpleFrom measure
        { command with redirections := command.redirections ++ [redirection] } rest
    | none =>
      match tokens with
      | .word word :: rest =>
        match (if command.words.isEmpty then assignment? word else none) with
        | some assignment =>
          simpleFrom measure
            { command with assignments := command.assignments ++ [assignment] } rest
        | none => simpleFrom measure { command with words := command.words ++ [word] } rest
      | _ => some (command, tokens)

/-- The words up to the end of a line or a semicolon, behind `in`. -/
def wordList (tokens : List Token) : Option (List Word × List Token) :=
  let words := tokens.takeWhile fun token => match token with
    | .word _ => true
    | _ => false
  let rest := tokens.drop words.length
  match rest with
  | token :: after =>
    if token = .newline || token.isOperator ";" then
      some (words.filterMap fun token => match token with
        | .word word => some word
        | _ => none, after)
    else none
  | [] => none

/-- The patterns in front of an arm, with bars between them and a parenthesis behind
them. -/
def patterns : Nat → List Token → Option (List Word × List Token)
  | 0, _ => none
  | measure + 1, .word word :: token :: rest =>
    if token.isOperator ")" then some ([word], rest)
    else if token.isOperator "|" then do
      let (words, rest) ← patterns measure rest
      return (word :: words, rest)
    else none
  | _, _ => none

/-- The name of a function that is defined at the front of some tokens. -/
def definition? : List Token → Option (Text × List Token)
  | .word word :: opening :: closing :: rest =>
    match word.plain? with
    | some name =>
      if opening.isOperator "(" && closing.isOperator ")" && isName name then some (name, rest)
      else none
    | none => none
  | _ => none

/-- What an arm of a choice is preceded by: nothing or an opening parenthesis. -/
def skipOpening : List Token → List Token
  | token :: rest => if token.isOperator "(" then rest else token :: rest
  | [] => []

mutual
/-- Reads a list of commands on one line or on several; it must not be empty. -/
def readList : Nat → Bool → List Token → Option (Command × List Token)
  | 0, _, _ => none
  | measure + 1, severalLines, tokens => do
    let tokens := if severalLines then skipNewlines tokens else tokens
    let (command, rest) ← readChain measure tokens
    match rest with
    | [] => return (command, [])
    | token :: after =>
      let separates := token.isOperator ";" || token.isOperator "&"
      let command := if token.isOperator "&" then Command.background command else command
      if token = .newline && !severalLines then return (command, rest)
      else if separates || token = .newline then
        let next := if severalLines then skipNewlines after else after
        if atEnd next || (!severalLines && next.head? = some .newline) then
          return (command, next)
        else do
          let (others, rest) ← readList measure severalLines next
          return (.sequence command others, rest)
      else return (command, rest)

/-- Reads pipelines joined by the operators for success and failure. -/
def readChain : Nat → List Token → Option (Command × List Token)
  | 0, _ => none
  | measure + 1, tokens => do
    let (command, rest) ← readPipeline measure tokens
    readLinks measure command rest

/-- Reads what is joined to a command by the operators for success and failure. -/
def readLinks : Nat → Command → List Token → Option (Command × List Token)
  | 0, _, _ => none
  | measure + 1, command, tokens =>
    match tokens with
    | [] => some (command, [])
    | token :: rest =>
      if token.isOperator "&&" then do
        let (other, rest) ← readPipeline measure (skipNewlines rest)
        readLinks measure (.both command other) rest
      else if token.isOperator "||" then do
        let (other, rest) ← readPipeline measure (skipNewlines rest)
        readLinks measure (.either command other) rest
      else some (command, tokens)

/-- Reads a pipeline, perhaps negated. -/
def readPipeline : Nat → List Token → Option (Command × List Token)
  | 0, _ => none
  | measure + 1, tokens =>
    match expectKeyword "!" tokens with
    | some rest => do
      let (command, rest) ← readStages measure rest
      return (.negation command, rest)
    | none => readStages measure tokens

/-- Reads commands joined by bars. -/
def readStages : Nat → List Token → Option (Command × List Token)
  | 0, _ => none
  | measure + 1, tokens => do
    let (command, rest) ← readCommand measure tokens
    match expectOperator "|" rest with
    | some rest => do
      let (others, rest) ← readStages measure (skipNewlines rest)
      return (.pipeline command others, rest)
    | none => return (command, rest)

/-- Reads one command. -/
def readCommand : Nat → List Token → Option (Command × List Token)
  | 0, _ => none
  | measure + 1, tokens =>
    match definition? tokens with
    | some (name, rest) => do
      let (body, rest) ← readCommand measure (skipNewlines rest)
      return (.definition name body, rest)
    | none =>
      match tokens with
      | [] => none
      | token :: rest =>
        if token.isOperator "(" then do
          let (body, rest) ← readList measure true rest
          let rest ← expectOperator ")" rest
          readTargets measure (.apart body) rest
        else if token.isKeyword "\x7b" then do
          let (body, rest) ← readList measure true rest
          let rest ← expectKeyword "\x7d" rest
          readTargets measure body rest
        else if token.isKeyword "if" then do
          let (command, rest) ← readConditional measure rest
          readTargets measure command rest
        else if token.isKeyword "while" || token.isKeyword "until" then do
          let (condition, rest) ← readList measure true rest
          let (body, rest) ← readBody measure rest
          readTargets measure (.loop (token.isKeyword "while") condition body) rest
        else if token.isKeyword "for" then do
          let (command, rest) ← readEach measure rest
          readTargets measure command rest
        else if token.isKeyword "case" then do
          let (command, rest) ← readChoice measure rest
          readTargets measure command rest
        else if keywords.any fun keyword => keyword ≠ "in" && token.isKeyword keyword then none
        else do
          let (command, rest) ← simpleFrom measure ⟨[], [], []⟩ tokens
          if command.words.isEmpty && command.assignments.isEmpty
              && command.redirections.isEmpty then none
          else return (.simple command.assignments command.words command.redirections, rest)

/-- Reads the redirections of a command that is put together from others. -/
def readTargets : Nat → Command → List Token → Option (Command × List Token)
  | 0, _, _ => none
  | measure + 1, command, tokens => do
    let (targets, rest) ← redirections measure tokens
    if targets.isEmpty then return (command, rest) else return (.redirected command targets, rest)

/-- Reads the body of a loop. -/
def readBody : Nat → List Token → Option (Command × List Token)
  | 0, _ => none
  | measure + 1, tokens => do
    let rest ← expectKeyword "do" tokens
    let (body, rest) ← readList measure true rest
    let rest ← expectKeyword "done" rest
    return (body, rest)

/-- Reads a conditional command behind its first keyword. -/
def readConditional : Nat → List Token → Option (Command × List Token)
  | 0, _ => none
  | measure + 1, tokens => do
    let (condition, rest) ← readList measure true tokens
    let rest ← expectKeyword "then" rest
    let (consequence, rest) ← readList measure true rest
    match expectKeyword "elif" rest, expectKeyword "else" rest, expectKeyword "fi" rest with
    | some rest, _, _ => do
      let (alternative, rest) ← readConditional measure rest
      return (.conditional condition consequence alternative, rest)
    | _, some rest, _ => do
      let (alternative, rest) ← readList measure true rest
      let rest ← expectKeyword "fi" rest
      return (.conditional condition consequence alternative, rest)
    | _, _, some rest => return (.conditional condition consequence .nothing, rest)
    | _, _, _ => none

/-- Reads a loop over words behind its keyword. -/
def readEach : Nat → List Token → Option (Command × List Token)
  | 0, _ => none
  | measure + 1, tokens =>
    match tokens with
    | [] => none
    | token :: rest =>
      match token.plain? with
      | none => none
      | some name =>
        if isName name then
          match expectKeyword "in" (skipNewlines rest) with
          | some rest => do
            let (words, rest) ← wordList rest
            let (body, rest) ← readBody measure (skipNewlines rest)
            return (.each name (some words) body, rest)
          | none => do
            let rest := (expectOperator ";" rest).getD rest
            let (body, rest) ← readBody measure (skipNewlines rest)
            return (.each name none body, rest)
        else none

/-- Reads a choice behind its keyword. -/
def readChoice : Nat → List Token → Option (Command × List Token)
  | 0, _ => none
  | measure + 1, tokens =>
    match tokens with
    | .word word :: rest => do
      let rest ← expectKeyword "in" (skipNewlines rest)
      let (arms, rest) ← readArms measure (skipNewlines rest)
      return (.choice word arms, rest)
    | _ => none

/-- Reads the arms of a choice up to the keyword that ends it. -/
def readArms : Nat → List Token → Option (List (List Word × Command) × List Token)
  | 0, _ => none
  | measure + 1, tokens =>
    match expectKeyword "esac" tokens with
    | some rest => some ([], rest)
    | none => do
      let (words, rest) ← patterns measure (skipOpening tokens)
      let rest := skipNewlines rest
      let (body, rest) ← if atEnd rest then some (Command.nothing, rest)
        else readList measure true rest
      let rest := skipNewlines rest
      match expectOperator ";;" rest, expectKeyword "esac" rest with
      | some rest, _ => do
        let (arms, rest) ← readArms measure (skipNewlines rest)
        return ((words, body) :: arms, rest)
      | none, some rest => return ([(words, body)], rest)
      | none, none => none
end

/-- The next line of a script and what follows it; a line may also be empty.  Returns
nothing where the line cannot be read. -/
def readLine (tokens : List Token) : Option (Command × List Token) :=
  match tokens with
  | [] => some (.nothing, [])
  | .newline :: rest => some (.nothing, rest)
  | _ =>
    match readList (16 * tokens.length + 16) false tokens with
    | some (command, []) => some (command, [])
    | some (command, .newline :: rest) => some (command, rest)
    | _ => none

end Shell

end Heartbeat
