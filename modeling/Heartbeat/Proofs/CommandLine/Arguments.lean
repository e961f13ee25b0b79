import Heartbeat.Proofs.CommandLine.Grammar
import Heartbeat.Proofs.Record.Message

/-!
# What a command line says of a heartbeat

Each thing that is said of a heartbeat is one option: a field with its value, or a switch
that is thrown one way or the other.  They come in any order and may be said again; of what
is said of one field, the last counts.

A command line that is put together from such things is taken apart into them
(`Grammar.admits_words`), so a heartbeat is sent for just what was said of it
(`Invocation.ofArguments_words`).  A value is never mistaken for anything else, whatever it
looks like: it is attached to its option or follows it at once.
-/

namespace Heartbeat

set_option autoImplicit false

/-! ## Things that are said -/

/-- What can be said of a heartbeat. -/
inductive Field where
  | command
  | context
  | source
  | status
  | file
deriving DecidableEq

/-- The option for a field. -/
def Field.option : Field → String
  | .command => "--command"
  | .context => "--context"
  | .source => "--source"
  | .status => "--status"
  | .file => "--file"

/-- Where a heartbeat goes beside the file. -/
inductive Outlet where
  | stdout
  | http
deriving DecidableEq

/-- The option that opens or shuts an outlet. -/
def Outlet.option : Outlet → Bool → String
  | .stdout, true => "--stdout"
  | .stdout, false => "--no-stdout"
  | .http, true => "--http"
  | .http, false => "--no-http"

/-- One thing that is said. -/
inductive Said where
  /-- The value of a field, attached to the option by an equals sign or following it. -/
  | given (field : Field) (value : Text) (attached : Bool)
  /-- Which way a switch is thrown. -/
  | turned (outlet : Outlet) (opened : Bool)

namespace Said

/-- The arguments that say it. -/
def words : Said → List Text
  | .given field value true => [Text.ofString field.option ++ [0x3D] ++ value]
  | .given field value false => [Text.ofString field.option, value]
  | .turned outlet opened => [Text.ofString (outlet.option opened)]

/-- The value that is said of a field. -/
def value? (wanted : Field) : Said → Option Text
  | .given field value _ => if field = wanted then some value else none
  | .turned .. => none

/-- The value that was said last of a field. -/
def last? (wanted : Field) (said : List Said) : Option Text :=
  said.reverse.findSome? (value? wanted)

/-- The option that it is. -/
def option : Said → Text × Option Text
  | .given field value _ => (Text.ofString field.option, some value)
  | .turned outlet opened => (Text.ofString (outlet.option opened), none)

end Said

/-! ## Reading what is said -/

/-- The option that says it is one of a grammar. -/
def Said.ListedIn (grammar : Grammar) : Said → Prop
  | .given field _ _ => (field.option, .value) ∈ grammar.options
  | .turned outlet opened => (outlet.option opened, .flag) ∈ grammar.options

/-- All of this can be said to report a heartbeat. -/
theorem Said.listedIn_report (said : Said) : said.ListedIn Invocation.reportGrammar := by
  cases said with
  | given field value attached =>
      show (field.option, OptionKind.value) ∈ Invocation.reportGrammar.options
      cases field <;> decide
  | turned outlet opened =>
      show (outlet.option opened, OptionKind.flag) ∈ Invocation.reportGrammar.options
      cases outlet <;> cases opened <;> decide

namespace Grammar

variable {grammar : Grammar} {said : List Said}

/-- What is said in front of a command line that is admitted becomes options in front of its
options. -/
theorem Admits.prepend {line words : List Text} {options : List (Text × Option Text)}
    (admits : grammar.Admits line options words) (listed : ∀ one ∈ said, one.ListedIn grammar) :
    grammar.Admits (said.flatMap Said.words ++ line) (said.map Said.option ++ options) words := by
  induction said with
  | nil => exact admits
  | cons first said hypothesis =>
      obtain ⟨here, others⟩ := List.forall_mem_cons.mp listed
      rw [List.flatMap_cons, List.append_assoc, List.map_cons, List.cons_append]
      cases first with
      | given field value attached =>
          cases attached with
          | true => exact .option (.attached here value) (hypothesis others)
          | false => exact .opening (.opening here) (hypothesis others)
      | turned outlet opened => exact .option (.flag here) (hypothesis others)

/-- **A command line is admitted with what it says as its options.** -/
theorem admits_words (said : List Said) : Invocation.reportGrammar.Admits
    (said.flatMap Said.words) (said.map Said.option) [] := by
  have admits : Invocation.reportGrammar.Admits (said.flatMap Said.words ++ [])
      (said.map Said.option ++ []) [] := Admits.prepend .nothing fun one _ => one.listedIn_report
  rwa [List.append_nil, List.append_nil] at admits

end Grammar

namespace Arguments

/-- Two fields have different options, and no option of a field is a switch. -/
theorem option_is_iff (said : Said) (field : Field) :
    said.option.1.is field.option = (said.value? field).isSome := by
  cases said with
  | given other value attached => cases other <;> cases field <;> rfl
  | turned outlet opened => cases outlet <;> cases opened <;> cases field <;> rfl

/-- The value of an option is what was said last of the field. -/
theorem value?_said (said : List Said) (field : Field) :
    (⟨said.map Said.option, []⟩ : Arguments).value? field.option = Said.last? field said := by
  rw [value?, Said.last?, ← List.map_reverse]
  induction said.reverse with
  | nil => rfl
  | cons first said hypothesis =>
      have is_field := option_is_iff first field
      rw [List.map_cons, List.find?_cons, List.findSome?_cons]
      dsimp only
      rw [is_field]
      cases found : first.value? field with
      | none => exact hypothesis
      | some value =>
          cases first with
          | given other content attached =>
              rw [Said.value?] at found
              split at found
              · exact found
              · cases found
          | turned outlet opened => cases found

/-- Nobody asked for help. -/
theorem has_help_said (said : List Said) :
    (⟨said.map Said.option, []⟩ : Arguments).has "--help" = false := by
  rw [has, List.any_eq_false]
  intro option listed
  obtain ⟨first, _, rfl⟩ := List.mem_map.mp listed
  have other : first.option.1.is "--help" = false := by
    cases first with
    | given field value attached => cases field <;> rfl
    | turned outlet opened => cases outlet <;> cases opened <;> rfl
  simp [other]

end Arguments

/-! ## Messages -/

/-- What is said puts a message into a file.  The outcome is a success unless another is
named. -/
structure Said.Sends (said : List Said) (path : Text) (message : Message) : Prop where
  file : last? .file said = some path
  command : last? .command said = some message.command
  context : last? .context said = message.context
  source : last? .source said = message.source
  status : last? .status said = some message.status.text
    ∨ last? .status said = none ∧ message.status = .success

namespace Invocation

open CommandName

/-- The first word selects the command. -/
theorem select_report (line : List Text) :
    select ("report" :: line) = .ok (some (.report, line)) := rfl

variable {said : List Said} {path : Text} {message : Message} (sends : Said.Sends said path message)

include sends

theorem statusOf_said :
    statusOf ⟨said.map Said.option, []⟩ = .ok message.status := by
  have value := Arguments.value?_said said .status
  rw [statusOf, show "--status" = Field.status.option from rfl, value]
  rcases sends.status with named | ⟨unnamed, standard⟩
  · rw [named]
    dsimp only
    rw [Status.ofText?_text]
  · rw [unnamed, standard]

/-- What was said passes every check. -/
theorem checkOption_said (plain : (0 : CodePoint) ∉ path) (name : Text) :
    checkOption ⟨said.map Said.option, []⟩ name = .ok () := by
  have value := Arguments.value?_said said .file
  rw [sends.file] at value
  have fine : (((⟨said.map Said.option, []⟩ : Arguments).value? "--file").getD []).contains 0
      = false := by
    rw [show "--file" = Field.file.option from rfl, value]
    simpa using plain
  rw [checkOption, statusOf_said sends, fine, Bool.and_false, if_neg Bool.false_ne_true]
  split
  · rfl
  · rfl

/-- **A command line asks for a heartbeat with the message that it says.** -/
theorem ofArguments_words (plain : (0 : CodePoint) ∉ path) :
    ofArguments .report (said.flatMap Said.words)
      = .ok (some (.report message.command message.context message.source message.status
        (overridesOf ⟨said.map Said.option, []⟩))) := by
  have parsed : reportGrammar.parse (said.flatMap Said.words) = .ok ⟨said.map Said.option, []⟩ :=
    (sound_grammar .report).parse_eq_ok_iff.mpr (Grammar.admits_words said)
  have checked : ∀ names : List Text,
      names.forM (checkOption ⟨said.map Said.option, []⟩) = .ok () := by
    intro names
    induction names with
    | nil => rfl
    | cons name names hypothesis =>
        show (checkOption _ name >>= fun _ => names.forM (checkOption _)) = _
        rw [checkOption_said sends plain, hypothesis]
        rfl
  have command := (Arguments.value?_said said .command).trans sends.command
  have context := (Arguments.value?_said said .context).trans sends.context
  have source := (Arguments.value?_said said .source).trans sends.source
  dsimp only [Field.option] at command context source
  rw [ofArguments, parsed]
  show (if (⟨said.map Said.option, []⟩ : Arguments).has "--help" = true then _ else _) = _
  rw [Arguments.has_help_said, if_neg Bool.false_ne_true]
  show (List.forM _ _ >>= _) = _
  rw [checked]
  show (statusOf _ >>= _) = _
  rw [statusOf_said sends]
  dsimp only [bind, Except.bind]
  rw [command, context, source]
  rfl

/-- The metrics file that it asks for is the one that was said. -/
theorem metricsFile_said : (overridesOf ⟨said.map Said.option, []⟩).metricsFile
    = some (Path.ofText path).toText := by
  have file := (Arguments.value?_said said .file).trans sends.file
  dsimp only [Field.option] at file
  rw [overridesOf, Choices.overrides, choicesOf, file]
  rfl

end Invocation

end Heartbeat
