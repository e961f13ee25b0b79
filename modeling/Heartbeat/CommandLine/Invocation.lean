import Heartbeat.CommandLine.Arguments
import Heartbeat.Files.Path
import Heartbeat.Settings
import Heartbeat.Status
import Heartbeat.Text.Resemblance

/-!
# Invocations

There are three commands: one shows the settings, one sends a heartbeat for a
command that was run elsewhere, and one runs a command and sends the heartbeat
for it.  A command line selects a command by its first word, and the rest is read
as that command wants it.

Whoever asks for help gets no command.
-/

namespace Heartbeat

set_option autoImplicit false

/-! ## Commands -/

/-- The commands by name. -/
inductive CommandName where
  | showConfig
  | report
  | track
deriving DecidableEq

namespace CommandName

/-- All commands. -/
def all : List CommandName := [.showConfig, .report, .track]

/-- The name of a command. -/
def name : CommandName → String
  | .showConfig => "show-config"
  | .report => "report"
  | .track => "track"

/-- The command with a name. -/
def ofText? (word : Text) : Option CommandName :=
  all.find? fun command => word.is command.name

/-- The options in front of a command. -/
def leading : Grammar :=
  ⟨[("--install-completion", .flag), ("--show-completion", .flag), ("--help", .flag)],
    false, false⟩

/-- Whether somebody wants to be told something and nothing else. -/
def isQuestion (arguments : Arguments) : Bool := !arguments.options.isEmpty

/-- Whether a word resembles the name of a command. -/
def isNear (word : Text) : Bool := all.any fun command => Text.resembles command.name word

/-- What is wrong with words that are no command but look like options.  It makes a
difference whether the next word could be meant for a command. -/
def faultOf (misreading : Grammar.Misreading) : UsageFault :=
  match misreading.fault, misreading.rest.head? with
  | .unknownOption name, some word =>
    if isNear word then .unknownOptionBeforeCommand name else .unknownOption name
  | fault, _ => fault

/-- What words are that begin with no command.  They are read once more as options, in
case they only came through because the options had been ended. -/
def withoutCommand (word : Text) (rest : List Text) :
    Except UsageFault (Option (CommandName × List Text)) :=
  match leading.parseFrom none (word :: rest) with
  | .ok arguments => if isQuestion arguments then .ok none else .error (.unknownCommand word)
  | .error misreading => .error (faultOf misreading)

/-- The command that a command line selects, and what is left for it. -/
def select (line : List Text) : Except UsageFault (Option (CommandName × List Text)) := do
  let arguments ← leading.parse line
  if isQuestion arguments then return none
  match arguments.words with
  | [] => throw .missingCommand
  | word :: rest =>
    match ofText? word with
    | some command => return some (command, rest)
    | none => withoutCommand word rest

end CommandName

/-! ## Choices -/

/-- What is chosen about where heartbeats go. -/
structure Choices where
  path : Option Text
  stdout : Option Bool
  http : Option Bool

namespace Choices

/-- The overrides by choices, in which the path is kept as it is written. -/
def verbatim (choices : Choices) : Overrides :=
  ⟨choices.path, choices.stdout.map .bool, choices.http.map .bool⟩

/-- The overrides of a command line, for which the path is taken apart first. -/
def overrides (choices : Choices) : Overrides :=
  { choices.verbatim with
    metricsFile := choices.path.map fun path => (Path.ofText path).toText }

end Choices

/-! ## Invocations -/

/-- What a command line asks for. -/
inductive Invocation where
  /-- Show the settings. -/
  | showConfig
  /-- Send a heartbeat. -/
  | report (command : Text) (context source : Option Text) (status : Status)
      (overrides : Overrides)
  /-- Run a command and send the heartbeat for it. -/
  | track (line : List Text) (context source : Option Text)

namespace Invocation

/-- The options of the command that shows the settings. -/
def showGrammar : Grammar := ⟨[("--help", .flag)], true, false⟩

/-- The options of the command that sends a heartbeat. -/
def reportGrammar : Grammar :=
  ⟨[("--command", .value), ("--context", .value), ("--source", .value), ("--status", .value),
    ("--file", .value), ("--stdout", .flag), ("--no-stdout", .flag), ("--http", .flag),
    ("--no-http", .flag), ("--help", .flag)], true, false⟩

/-- The options of the command that runs a command. -/
def trackGrammar : Grammar :=
  ⟨[("--context", .value), ("--source", .value), ("--help", .flag)], true, true⟩

/-- Refuses words that nobody wants. -/
def refuseWords (arguments : Arguments) : Except UsageFault Unit :=
  if arguments.words.isEmpty then .ok () else .error (.extraWords arguments.words)

/-- The outcome that is to be reported, success unless another is named. -/
def statusOf (arguments : Arguments) : Except UsageFault Status :=
  match arguments.value? "--status" with
  | none => .ok .success
  | some word =>
    match Status.ofText? word with
    | some status => .ok status
    | none => .error (.unknownStatus word)

/-- Checks the value of an option of the command that sends a heartbeat. -/
def checkOption (arguments : Arguments) (name : Text) : Except UsageFault Unit :=
  if name.is "--status" then (fun _ => ()) <$> statusOf arguments
  else if name.is "--file" && ((arguments.value? "--file").getD []).contains 0 then
    .error .zeroInPath
  else .ok ()

/-- What a command line chooses about where heartbeats go. -/
def choicesOf (arguments : Arguments) : Choices where
  path := arguments.value? "--file"
  stdout := arguments.switch? "--stdout" "--no-stdout"
  http := arguments.switch? "--http" "--no-http"

/-- The settings that a command line overrides. -/
def overridesOf (arguments : Arguments) : Overrides := (choicesOf arguments).overrides

/-- What the arguments of a command ask for. -/
def ofArguments (command : CommandName) (line : List Text) :
    Except UsageFault (Option Invocation) :=
  match command with
  | .showConfig => do
    let arguments ← showGrammar.parse line
    if arguments.has "--help" then return none
    refuseWords arguments
    return some .showConfig
  | .report => do
    let arguments ← reportGrammar.parse line
    if arguments.has "--help" then return none
    arguments.given.forM (checkOption arguments)
    let status ← statusOf arguments
    match arguments.value? "--command" with
    | none => throw (.missingOption "--command")
    | some name =>
      refuseWords arguments
      return some (.report name (arguments.value? "--context") (arguments.value? "--source")
        status (overridesOf arguments))
  | .track => do
    let arguments ← trackGrammar.parse line
    if arguments.has "--help" then return none
    if arguments.words.isEmpty then throw .nothingToTrack
    return some (.track arguments.words (arguments.value? "--context")
      (arguments.value? "--source"))

end Invocation

end Heartbeat
