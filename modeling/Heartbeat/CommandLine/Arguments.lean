import Heartbeat.Text.Quoted

/-!
# Arguments

A command line is a list of arguments.  An argument that begins with a dash and
goes on is an option; the rest are words.  An option may want a value, which is
attached to it by an equals sign or is the next argument, whatever that looks
like.  Two dashes alone end the options: what follows are words, and the two
dashes are dropped.

A grammar says which options there are.  It may also say that the first word ends
the options, and that options it does not know are words.
-/

namespace Heartbeat

set_option autoImplicit false

/-! ## Faults -/

/-- Why a command line is not understood. -/
inductive UsageFault where
  /-- An option that does not exist. -/
  | unknownOption (name : Text)
  /-- An option that does not exist, where something like a command follows. -/
  | unknownOptionBeforeCommand (name : Text)
  /-- A value for an option that wants none. -/
  | unexpectedValue (name : Text)
  /-- An option without the value it wants. -/
  | missingValue (name : Text)
  /-- An option that is missing. -/
  | missingOption (name : Text)
  /-- No command at all. -/
  | missingCommand
  /-- A command that does not exist. -/
  | unknownCommand (name : Text)
  /-- Words that nobody wants. -/
  | extraWords (words : List Text)
  /-- An outcome that does not exist. -/
  | unknownStatus (word : Text)
  /-- A path with a zero in it. -/
  | zeroInPath
  /-- No command to be tracked. -/
  | nothingToTrack
deriving DecidableEq

namespace UsageFault

/-- A point of a message.  A control has no form of its own and is shown by its
number. -/
def showPoint (point : CodePoint) : Text :=
  if point.isControl then ("\\x" : Text) ++ Text.hexadecimal 2 point.val else [point]

/-- What a command line holds, as it stands in a message. -/
def bare (text : Text) : Text := text.flatMap showPoint

/-- The full stop. -/
def fullStop : CodePoint := 0x2E

/-- A text that ends with one full stop. -/
def asSentence (text : Text) : Text :=
  Text.dropEndWhile (fun point => decide (point = fullStop)) text ++ [fullStop]

/-- The wording of a fault. -/
def message : UsageFault → Text
  | .unknownOption name => ("No such option: " : Text) ++ bare name
  | .unknownOptionBeforeCommand name => asSentence (("No such option: " : Text) ++ bare name)
  | .unexpectedValue name => ("Option " : Text) ++ name.quoted ++ " does not take a value."
  | .missingValue name => ("Option " : Text) ++ name.quoted ++ " requires an argument."
  | .missingOption name => ("Missing option '" : Text) ++ name ++ "'."
  | .missingCommand => "Missing command."
  | .unknownCommand name => ("No such command " : Text) ++ name.quoted ++ "."
  | .extraWords words =>
    ("Got unexpected extra argument(s) (" : Text) ++ bare (Text.join [0x20] words) ++ ")"
  | .unknownStatus word =>
    ("Invalid value for '--status': Value error, " : Text) ++ word.quoted
      ++ " is not one of 'success', 'failure', 'canceled'."
  | .zeroInPath => "Invalid value for '--file': Value error, embedded null byte"
  | .nothingToTrack => "Invalid value: Provide the command to run after --"

end UsageFault

/-! ## Grammars -/

/-- Whether an option wants a value. -/
inductive OptionKind where
  | value
  | flag
deriving DecidableEq

/-- Which options a command line may have. -/
structure Grammar where
  options : List (String × OptionKind)
  /-- Whether options may stand behind words. -/
  interspersed : Bool
  /-- Whether options that are not known are words. -/
  keepsUnknown : Bool

/-- A command line taken apart: the options with their values, in order, and the
words. -/
structure Arguments where
  options : List (Text × Option Text)
  words : List Text

namespace Arguments

/-- The arguments with one more option in front. -/
def withOption (name : Text) (value : Option Text) (arguments : Arguments) : Arguments :=
  { arguments with options := (name, value) :: arguments.options }

/-- The arguments with one more word in front. -/
def withWord (word : Text) (arguments : Arguments) : Arguments :=
  { arguments with words := word :: arguments.words }

/-- Whether an option was given. -/
def has (arguments : Arguments) (name : String) : Bool :=
  arguments.options.any fun (candidate, _) => candidate.is name

/-- The options that were given, each once, in the order of their first occurrence. -/
def given (arguments : Arguments) : List Text :=
  (arguments.options.map Prod.fst).foldl
    (fun names name => if names.contains name then names else names ++ [name]) []

/-- The value that an option was given last. -/
def value? (arguments : Arguments) (name : String) : Option Text :=
  (arguments.options.reverse.find? fun (candidate, _) => candidate.is name).bind Prod.snd

/-- What the last of two opposite flags says. -/
def switch? (arguments : Arguments) (on off : String) : Option Bool :=
  (arguments.options.reverse.find? fun (candidate, _) => candidate.is on || candidate.is off).map
    fun (candidate, _) => candidate.is on

end Arguments

namespace Grammar

/-- The dash that options begin with. -/
def dash : CodePoint := 0x2D

/-- The argument that ends the options. -/
def optionsEnd : Text := [dash, dash]

/-- Whether an argument begins with a dash and goes on. -/
def looksLikeOption : Text → Bool
  | first :: _ :: _ => decide (first = dash)
  | _ => false

/-- An argument taken apart at its first equals sign. -/
def splitValue (argument : Text) : Text × Option Text :=
  match Text.cut? 0x3D argument with
  | some (name, value) => (name, some value)
  | none => (argument, none)

/-- The kind of an option. -/
def kindOf? (grammar : Grammar) (name : Text) : Option OptionKind :=
  (grammar.options.find? fun (candidate, _) => name.is candidate).map Prod.snd

/-- The part of an argument that is no option.  Behind a single dash every letter
would be an option of its own, so the first of them is to blame. -/
def unknownPart (argument : Text) : Text :=
  match argument with
  | first :: second :: _ =>
    if second = dash then (splitValue argument).1 else [first, second]
  | _ => argument

/-! ## Reading -/

/-- What an argument turns out to be. -/
inductive Reading where
  /-- The end of the options, itself dropped. -/
  | finish
  /-- A word behind which there are no options. -/
  | last
  /-- A word. -/
  | word
  /-- An option, with the value attached to it if it wants one. -/
  | option (name : Text) (value : Option Text)
  /-- An option whose value is the next argument. -/
  | opening (name : Text)
  /-- Something wrong. -/
  | fault (fault : UsageFault)

/-- What an option turns out to be, by its name and the value attached to it. -/
def readOption (grammar : Grammar) (argument name : Text) (attached : Option Text) : Reading :=
  match grammar.kindOf? name, attached with
  | some .flag, none => .option name none
  | some .flag, some _ => .fault (.unexpectedValue name)
  | some .value, some value => .option name (some value)
  | some .value, none => .opening name
  | none, _ =>
    if grammar.keepsUnknown then .word else .fault (.unknownOption (unknownPart argument))

/-- What an argument is where options may stand. -/
def read (grammar : Grammar) (argument : Text) : Reading :=
  if argument = optionsEnd then .finish
  else if looksLikeOption argument then
    readOption grammar argument (splitValue argument).1 (splitValue argument).2
  else if grammar.interspersed then .word
  else .last

/-- Why a command line could not be taken apart, and what had not been looked at by
then. -/
structure Misreading where
  fault : UsageFault
  rest : List Text

/-- Takes a command line apart, from the front; an option may be waiting for its
value. -/
def parseFrom (grammar : Grammar) : Option Text → List Text → Except Misreading Arguments
  | none, [] => .ok ⟨[], []⟩
  | some name, [] => .error ⟨.missingValue name, []⟩
  | some name, value :: rest =>
    Arguments.withOption name (some value) <$> parseFrom grammar none rest
  | none, argument :: rest =>
    match grammar.read argument with
    | .finish => .ok ⟨[], rest⟩
    | .last => .ok ⟨[], argument :: rest⟩
    | .word => Arguments.withWord argument <$> parseFrom grammar none rest
    | .option name value => Arguments.withOption name value <$> parseFrom grammar none rest
    | .opening name => parseFrom grammar (some name) rest
    | .fault fault => .error ⟨fault, rest⟩

/-- Takes a command line apart. -/
def parse (grammar : Grammar) (line : List Text) : Except UsageFault Arguments :=
  (grammar.parseFrom none line).mapError Misreading.fault

/-! ## Laws -/

/-- Two dashes end the options in every grammar. -/
theorem read_optionsEnd (grammar : Grammar) : grammar.read optionsEnd = .finish := by
  rw [read, if_pos rfl]

/-- Behind the two dashes everything is a word, whatever it looks like. -/
theorem parse_optionsEnd (grammar : Grammar) (rest : List Text) :
    grammar.parse (optionsEnd :: rest) = .ok ⟨[], rest⟩ := by
  rw [parse, parseFrom, read_optionsEnd]
  rfl

/-- What does not look like an option is a word. -/
theorem read_of_not_looksLikeOption (grammar : Grammar) {argument : Text}
    (plain : looksLikeOption argument = false) :
    grammar.read argument = if grammar.interspersed then .word else .last := by
  have not_end : argument ≠ optionsEnd := by
    intro same
    rw [same] at plain
    exact absurd plain (by decide)
  rw [read, if_neg not_end, plain]
  rfl

end Grammar

end Heartbeat
