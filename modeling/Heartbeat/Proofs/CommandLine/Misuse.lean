import Heartbeat.Proofs.CommandLine.Grammar
import Heartbeat.Proofs.Value.Display

/-!
# Misused command lines

A command line is misused in front of a command, or by what follows it.  Either way it may
be broken, so that it is not even taken apart.  Otherwise it is misused if it wants nothing
explained and the command is missing or unknown (`CommandName.Misused`), or if the command
has words, values or omissions that it does not accept (`CommandName.Misuses`).

Exactly these command lines are refused (`CommandName.refused_iff`), wherever the mistake
stands and whatever else they say.
-/

namespace Heartbeat

set_option autoImplicit false

/-! ## What options say -/

/-- An option was given. -/
def Arguments.Gives (options : List (Text × Option Text)) (name : String) : Prop :=
  ∃ option ∈ options, option.1 = Text.ofString name

/-- An option was given last with a value. -/
def Arguments.Last (options : List (Text × Option Text)) (name : String) (value : Text) : Prop :=
  ∃ before after, options = before ++ (Text.ofString name, some value) :: after
    ∧ ¬ Gives after name

namespace Arguments

variable {options : List (Text × Option Text)} {words : List Text} {name : String} {value : Text}

theorem has_iff : (⟨options, words⟩ : Arguments).has name = true ↔ Gives options name := by
  rw [has, List.any_eq_true]
  exact exists_congr fun option => and_congr_right fun _ => decide_eq_true_iff

theorem value?_eq_some_iff :
    (⟨options, words⟩ : Arguments).value? name = some value ↔ Last options name value := by
  rw [value?, Option.bind_eq_some_iff]
  constructor
  · rintro ⟨⟨written, given⟩, found, rfl⟩
    obtain ⟨named, after, before, same, later⟩ := List.find?_eq_some_iff_append.mp found
    have is_name : written = Text.ofString name := of_decide_eq_true named
    refine ⟨before.reverse, after.reverse, ?_, ?_⟩
    · rw [← List.reverse_reverse options, same, is_name]
      simp
    · rintro ⟨⟨other, _⟩, member, also⟩
      have differs := later _ (List.mem_reverse.mp member)
      have again : other.is name = true := decide_eq_true also
      dsimp only at differs
      rw [again] at differs
      cases differs
  · rintro ⟨before, after, rfl, later⟩
    refine ⟨(Text.ofString name, some value), List.find?_eq_some_iff_append.mpr
      ⟨decide_eq_true rfl, after.reverse, before.reverse, by simp, ?_⟩, rfl⟩
    intro option member
    have other : ¬ option.1.is name = true := fun named =>
      later ⟨option, List.mem_reverse.mp member, of_decide_eq_true named⟩
    simpa using other

/-- Of what is given something is the last. -/
theorem exists_last (given : Gives options name) :
    ∃ before option after, options = before ++ option :: after
      ∧ option.1 = Text.ofString name ∧ ¬ Gives after name := by
  induction options with
  | nil =>
      obtain ⟨_, member, _⟩ := given
      cases member
  | cons first options hypothesis =>
      by_cases later : Gives options name
      · obtain ⟨before, option, after, rfl, named, apart⟩ := hypothesis later
        exact ⟨first :: before, option, after, rfl, named, apart⟩
      · obtain ⟨option, member, named⟩ := given
        rcases List.mem_cons.mp member with rfl | inside
        · exact ⟨[], option, options, rfl, named, later⟩
        · exact absurd ⟨option, inside, named⟩ later

/-- What is given is listed once, and nothing else is. -/
theorem mem_given_iff {written : Text} :
    written ∈ (⟨options, words⟩ : Arguments).given ↔ ∃ option ∈ options, option.1 = written := by
  have collected : ∀ (found others : List Text),
      written ∈ others.foldl
          (fun names name => if names.contains name then names else names ++ [name]) found
        ↔ written ∈ found ∨ written ∈ others := by
    intro found others
    induction others generalizing found with
    | nil => simp
    | cons other others hypothesis =>
        rw [List.foldl_cons, hypothesis, List.mem_cons]
        split
        · next known =>
            have inside : other ∈ found := by simpa using known
            constructor
            · rintro (earlier | later)
              · exact .inl earlier
              · exact .inr (.inr later)
            · rintro (earlier | rfl | later)
              · exact .inl earlier
              · exact .inl inside
              · exact .inr later
        · rw [List.mem_append, List.mem_singleton, or_assoc]
  rw [given, collected, List.mem_map]
  simp only [List.not_mem_nil, false_or]

end Arguments

/-! ## Options that take a value -/

namespace Grammar

variable {grammar : Grammar} {line words : List Text} {options : List (Text × Option Text)}

/-- An option that is read has a value if it takes one. -/
theorem Sound.valued (sound : grammar.Sound) (admits : grammar.Admits line options words)
    {name : String} (listed : (name, .value) ∈ grammar.options) {option : Text × Option Text}
    (member : option ∈ options) (named : option.1 = Text.ofString name) :
    ∃ value, option.2 = some value := by
  have kind := sound.kinds _ listed
  induction admits with
  | nothing | finish | last => cases member
  | word _ _ hypothesis => exact hypothesis member
  | option means _ hypothesis =>
      rcases List.mem_cons.mp member with rfl | later
      · cases means with
        | flag flagged =>
            have other := sound.kinds _ flagged
            dsimp only at named other kind
            rw [named, kind] at other
            cases other
        | attached => exact ⟨_, rfl⟩
      · exact hypothesis later
  | opening _ _ hypothesis =>
      rcases List.mem_cons.mp member with rfl | later
      · exact ⟨_, rfl⟩
      · exact hypothesis later

/-- Such an option has a last value exactly if it was given. -/
theorem Sound.gives_iff (sound : grammar.Sound) (admits : grammar.Admits line options words)
    {name : String} (listed : (name, .value) ∈ grammar.options) :
    Arguments.Gives options name ↔ ∃ value, Arguments.Last options name value := by
  constructor
  · intro given
    obtain ⟨before, ⟨written, value⟩, after, rfl, named, apart⟩ := Arguments.exists_last given
    obtain ⟨value, is_value⟩ :=
      sound.valued admits listed (List.mem_append_right _ (List.mem_cons_self ..)) named
    dsimp only at named is_value
    exact ⟨value, before, after, by rw [named, is_value], apart⟩
  · rintro ⟨value, before, after, rfl, _⟩
    exact ⟨_, List.mem_append_right _ (List.mem_cons_self ..), rfl⟩

end Grammar

namespace CommandName

open Invocation (showGrammar reportGrammar trackGrammar)

/-! ## Misuse of a command -/

/-- What keeps a command from accepting options and words. -/
inductive Flawed : CommandName → List (Text × Option Text) → List Text → Prop where
  /-- There are words, and nothing is done with words. -/
  | words {command : CommandName} {options : List (Text × Option Text)} {words : List Text}
      (wordless : command ≠ .track) (extra : words ≠ []) : Flawed command options words
  /-- The outcome is none of the outcomes. -/
  | status {options : List (Text × Option Text)} {words : List Text} {word : Text}
      (named : Arguments.Last options "--status" word)
      (unknown : ∀ status : Status, status.text ≠ word) : Flawed .report options words
  /-- The path has a zero in it. -/
  | path {options : List (Text × Option Text)} {words : List Text} {path : Text}
      (named : Arguments.Last options "--file" path) (zero : (0 : CodePoint) ∈ path) :
      Flawed .report options words
  /-- It is not said which command was run. -/
  | missing {options : List (Text × Option Text)} {words : List Text}
      (ungiven : ¬ Arguments.Gives options "--command") : Flawed .report options words
  /-- There is nothing to run. -/
  | nothing {options : List (Text × Option Text)} : Flawed .track options []

/-- A command line behind a command is misused: it is broken, or it wants nothing explained
and the command does not accept what it says. -/
def Misuses (command : CommandName) (line : List Text) : Prop :=
  command.grammar.Broken line
    ∨ ∃ options words, command.grammar.Admits line options words
      ∧ ¬ Arguments.Gives options "--help" ∧ command.Flawed options words

end CommandName

namespace Invocation

variable {options : List (Text × Option Text)} {words line : List Text}

theorem exists_statusOf_error_iff :
    (∃ fault, statusOf ⟨options, words⟩ = .error fault)
      ↔ ∃ word, Arguments.Last options "--status" word ∧ ∀ status : Status, status.text ≠ word := by
  have last : ∀ word, (⟨options, words⟩ : Arguments).value? "--status" = some word
      ↔ Arguments.Last options "--status" word := fun word => Arguments.value?_eq_some_iff
  rw [statusOf]
  constructor
  · rintro ⟨fault, refused⟩
    split at refused
    · cases refused
    · next word given =>
        split at refused
        · cases refused
        · next unnamed =>
            refine ⟨word, (last word).mp given, ?_⟩
            rintro status rfl
            rw [Status.ofText?_text] at unnamed
            cases unnamed
  · rintro ⟨word, named, unknown⟩
    rw [(last word).mpr named]
    dsimp only
    cases found : Status.ofText? word with
    | none => exact ⟨_, rfl⟩
    | some status => exact absurd (Status.text_of_ofText? found) (unknown status)

/-- Of several checks one fails exactly if not all of them pass. -/
theorem exists_forM_error_iff {names : List Text} {check : Text → Except UsageFault Unit} :
    (∃ fault, names.forM check = .error fault)
      ↔ ∃ name ∈ names, ∃ fault, check name = .error fault := by
  induction names with
  | nil => exact ⟨nofun, nofun⟩
  | cons name names hypothesis =>
      simp only [List.mem_cons, exists_eq_or_imp]
      rw [← hypothesis]
      show (∃ fault, (check name >>= fun _ => names.forM check) = _) ↔ _
      cases check name with
      | error fault => exact ⟨fun _ => .inl ⟨fault, rfl⟩, fun _ => ⟨fault, rfl⟩⟩
      | ok => exact ⟨.inr, fun | .inr later => later⟩

/-- What is given is refused because of the outcome or because of the path. -/
theorem exists_check_error_iff :
    (∃ fault, (⟨options, words⟩ : Arguments).given.forM (checkOption ⟨options, words⟩)
        = .error fault)
      ↔ (∃ fault, statusOf ⟨options, words⟩ = .error fault)
        ∨ ∃ path, Arguments.Last options "--file" path ∧ (0 : CodePoint) ∈ path := by
  rw [exists_forM_error_iff]
  constructor
  · rintro ⟨name, _, fault, refused⟩
    rw [checkOption] at refused
    split at refused
    · left
      cases found : statusOf ⟨options, words⟩ with
      | error fault => exact ⟨fault, rfl⟩
      | ok status =>
          rw [found] at refused
          cases refused
    · right
      split at refused
      · next holds =>
          rw [Bool.and_eq_true] at holds
          cases given : (⟨options, words⟩ : Arguments).value? "--file" with
          | none =>
              rw [given] at holds
              cases holds.2
          | some path =>
              rw [given] at holds
              exact ⟨path, Arguments.value?_eq_some_iff.mp given, by simpa using holds.2⟩
      · cases refused
  · rintro (⟨fault, refused⟩ | ⟨path, named, zero⟩)
    · obtain ⟨word, ⟨before, after, rfl, _⟩, _⟩ := exists_statusOf_error_iff.mp ⟨fault, refused⟩
      refine ⟨Text.ofString "--status", Arguments.mem_given_iff.mpr
        ⟨_, List.mem_append_right _ (List.mem_cons_self ..), rfl⟩, fault, ?_⟩
      rw [checkOption, if_pos (by decide), refused]
      rfl
    · have given : (⟨options, words⟩ : Arguments).value? "--file" = some path :=
        Arguments.value?_eq_some_iff.mpr named
      obtain ⟨before, after, rfl, _⟩ := named
      refine ⟨Text.ofString "--file", Arguments.mem_given_iff.mpr
        ⟨_, List.mem_append_right _ (List.mem_cons_self ..), rfl⟩, .zeroInPath, ?_⟩
      rw [checkOption, if_neg (by decide), given]
      refine if_pos ?_
      rw [Bool.and_eq_true]
      exact ⟨by decide, by simpa using zero⟩

theorem exists_refuseWords_error_iff :
    (∃ fault, refuseWords ⟨options, words⟩ = .error fault) ↔ words ≠ [] := by
  cases words with
  | nil => exact ⟨nofun, fun extra => absurd rfl extra⟩
  | cons word words => exact ⟨fun _ => nofun, fun _ => ⟨_, rfl⟩⟩

end Invocation

namespace CommandName

open Invocation

variable {command : CommandName} {options : List (Text × Option Text)} {words line : List Text}

/-- Every command looks at what was taken apart, unless help is asked for. -/
theorem exists_looks (command : CommandName) :
    ∃ looks : Arguments → Except UsageFault (Option Invocation), ∀ line,
      ofArguments command line = command.grammar.parse line >>= fun arguments =>
        if arguments.has "--help" then pure none else looks arguments := by
  cases command <;> exact ⟨_, fun _ => rfl⟩

/-- What is taken apart is looked at by the command unless help is asked for. -/
theorem ofArguments_of_admits (command : CommandName)
    (admits : command.grammar.Admits line options words)
    (unasked : ¬ Arguments.Gives options "--help")
    {looks : Arguments → Except UsageFault (Option Invocation)}
    (same : ofArguments command line = command.grammar.parse line >>= fun arguments =>
      if arguments.has "--help" then pure none else looks arguments) :
    ofArguments command line = looks ⟨options, words⟩ := by
  rw [same, command.sound_grammar.parse_eq_ok_iff.mpr admits]
  exact if_neg fun asked => unasked (Arguments.has_iff.mp asked)

section Accepting

variable (unasked : ¬ Arguments.Gives options "--help")

include unasked

theorem showConfig_refused_iff (admits : showGrammar.Admits line options words) :
    (∃ fault, ofArguments .showConfig line = .error fault)
      ↔ CommandName.showConfig.Flawed options words := by
  rw [ofArguments_of_admits .showConfig admits unasked rfl]
  constructor
  · rintro ⟨fault, refused⟩
    rcases eq_error_of_bind refused with extra | ⟨_, _, done⟩
    · exact .words nofun (exists_refuseWords_error_iff.mp ⟨fault, extra⟩)
    · cases done
  · rintro ⟨_, extra⟩
    obtain ⟨fault, refused⟩ := exists_refuseWords_error_iff.mpr extra
    exact ⟨fault, by rw [refused]; rfl⟩

theorem track_refused_iff (admits : trackGrammar.Admits line options words) :
    (∃ fault, ofArguments .track line = .error fault)
      ↔ CommandName.track.Flawed options words := by
  rw [ofArguments_of_admits .track admits unasked rfl]
  constructor
  · rintro ⟨fault, refused⟩
    cases words with
    | nil => exact .nothing
    | cons word words => cases refused
  · intro flawed
    cases flawed with
    | words wordless => exact absurd rfl wordless
    | nothing => exact ⟨_, rfl⟩

/-- What is reported has an outcome, a command and a path without a zero, and no words. -/
theorem not_flawed_of_accepted (admits : reportGrammar.Admits line options words)
    {asked : Option Invocation} (accepted : ofArguments .report line = .ok asked) :
    ¬ CommandName.report.Flawed options words := by
  rw [ofArguments_of_admits .report admits unasked rfl] at accepted
  obtain ⟨_, checked, accepted⟩ := eq_ok_of_bind accepted
  obtain ⟨_, _, accepted⟩ := eq_ok_of_bind accepted
  have unchecked : ¬ ∃ fault, (⟨options, words⟩ : Arguments).given.forM
      (checkOption ⟨options, words⟩) = .error fault := by
    rintro ⟨fault, refused⟩
    rw [checked] at refused
    cases refused
  rw [exists_check_error_iff, exists_statusOf_error_iff] at unchecked
  intro flawed
  cases flawed with
  | status named unknown => exact unchecked (.inl ⟨_, named, unknown⟩)
  | path named zero => exact unchecked (.inr ⟨_, named, zero⟩)
  | missing ungiven =>
      split at accepted
      · cases accepted
      · next name given =>
          have named := Arguments.value?_eq_some_iff.mp given
          exact ungiven (((sound_grammar .report).gives_iff admits (by decide)).mpr ⟨name, named⟩)
  | words _ extra =>
      split at accepted
      · cases accepted
      · obtain ⟨_, fine, _⟩ := eq_ok_of_bind accepted
        obtain ⟨fault, refused⟩ := exists_refuseWords_error_iff.mpr extra
        rw [fine] at refused
        cases refused

theorem report_refused_iff (admits : reportGrammar.Admits line options words) :
    (∃ fault, ofArguments .report line = .error fault)
      ↔ CommandName.report.Flawed options words := by
  constructor
  · rintro ⟨fault, refused⟩
    rw [ofArguments_of_admits .report admits unasked rfl] at refused
    rcases eq_error_of_bind refused with check | ⟨_, _, refused⟩
    · rcases exists_check_error_iff.mp ⟨fault, check⟩ with ⟨_, unnamed⟩ | ⟨path, named, zero⟩
      · obtain ⟨word, named, unknown⟩ := exists_statusOf_error_iff.mp ⟨_, unnamed⟩
        exact .status named unknown
      · exact .path named zero
    rcases eq_error_of_bind refused with unnamed | ⟨_, _, refused⟩
    · obtain ⟨word, named, unknown⟩ := exists_statusOf_error_iff.mp ⟨fault, unnamed⟩
      exact .status named unknown
    split at refused
    · next absent =>
        refine .missing fun given => ?_
        obtain ⟨name, named⟩ := ((sound_grammar .report).gives_iff admits (by decide)).mp given
        rw [Arguments.value?_eq_some_iff.mpr named] at absent
        cases absent
    · rcases eq_error_of_bind refused with extra | ⟨_, _, done⟩
      · exact .words nofun (exists_refuseWords_error_iff.mp ⟨fault, extra⟩)
      · cases done
  · intro flawed
    cases outcome : ofArguments .report line with
    | error fault => exact ⟨fault, rfl⟩
    | ok asked => exact absurd flawed (not_flawed_of_accepted unasked admits outcome)

end Accepting

/-- A command line that is taken apart and wants nothing explained is refused if the command
does not accept it. -/
theorem refused_iff_flawed (admits : command.grammar.Admits line options words)
    (unasked : ¬ Arguments.Gives options "--help") :
    (∃ fault, ofArguments command line = .error fault) ↔ command.Flawed options words := by
  cases command with
  | showConfig => exact showConfig_refused_iff unasked admits
  | report => exact report_refused_iff unasked admits
  | track => exact track_refused_iff unasked admits

/-- **What follows a command is refused exactly if it is misused.** -/
theorem misuses_iff :
    (∃ fault, ofArguments command line = .error fault) ↔ command.Misuses line := by
  have sound := command.sound_grammar
  obtain ⟨looks, same⟩ := command.exists_looks
  constructor
  · rintro ⟨fault, refused⟩
    rcases command.grammar.admits_or_broken line with ⟨options, words, admits⟩ | broken
    · refine .inr ⟨options, words, admits, ?_⟩
      by_cases asked : Arguments.Gives options "--help"
      · rw [same, sound.parse_eq_ok_iff.mpr admits] at refused
        have explained := if_pos (Arguments.has_iff.mpr asked) |>.symm.trans refused
        cases explained
      · exact ⟨asked, (refused_iff_flawed admits asked).mp ⟨fault, refused⟩⟩
    · exact .inl broken
  · rintro (broken | ⟨options, words, admits, unasked, flawed⟩)
    · obtain ⟨fault, refused⟩ := sound.exists_parse_error_iff.mpr broken
      exact ⟨fault, by rw [same, refused]; rfl⟩
    · exact (refused_iff_flawed admits unasked).mpr flawed

/-! ## Misuse in front of a command -/

/-- A command line is misused in front of a command or behind one. -/
inductive Misused : List Text → Prop where
  | broken {line : List Text} (broken : leading.Broken line) : Misused line
  /-- There is no command. -/
  | missing {line : List Text} (admits : leading.Admits line [] []) : Misused line
  /-- There is no such command.  What stands in its place is no question either: behind the
  end of the options it could still be one. -/
  | unknown {line rest : List Text} {word : Text} (admits : leading.Admits line [] (word :: rest))
      (unnamed : ∀ command : CommandName, word ≠ Text.ofString command.name)
      (unasked : ∀ options words, leading.Admits (word :: rest) options words → options = []) :
      Misused line
  | command {line rest : List Text} {command : CommandName}
      (admits : leading.Admits line [] (Text.ofString command.name :: rest))
      (misuses : command.Misuses rest) : Misused line

theorem ofText?_eq_some_iff {word : Text} :
    ofText? word = some command ↔ word = Text.ofString command.name := by
  constructor
  · intro found
    have named := List.find?_some found
    exact of_decide_eq_true named
  · rintro rfl
    cases command <;> decide

theorem ofText?_eq_none_iff {word : Text} :
    ofText? word = none ↔ ∀ command : CommandName, word ≠ Text.ofString command.name := by
  rw [Option.eq_none_iff_forall_not_mem]
  exact forall_congr' fun command => not_congr ofText?_eq_some_iff

/-- What is no command is an error unless it turns out to be a question. -/
theorem exists_withoutCommand_error_iff {word : Text} {rest : List Text} :
    (∃ fault, withoutCommand word rest = .error fault)
      ↔ ∀ options words, leading.Admits (word :: rest) options words → options = [] := by
  rw [withoutCommand]
  rcases leading.admits_or_broken (word :: rest) with ⟨options, words, admits⟩ | broken
  · rw [sound_leading.parseFrom_of_admits admits]
    dsimp only
    constructor
    · rintro ⟨fault, refused⟩ others more also
      have same := (sound_leading.parseFrom_of_admits also).symm.trans
        (sound_leading.parseFrom_of_admits admits)
      cases same
      cases options with
      | nil => rfl
      | cons option options => cases refused
    · intro unasked
      obtain rfl := unasked options words admits
      exact ⟨_, rfl⟩
  · obtain ⟨misreading, found⟩ := sound_leading.parseFrom_of_broken broken
    rw [found]
    refine ⟨fun _ options words admits => ?_, fun _ => ⟨_, rfl⟩⟩
    rw [sound_leading.parseFrom_of_admits admits] at found
    cases found

/-- What is no command is none. -/
theorem withoutCommand_ne {word : Text} {rest : List Text} {selected : CommandName × List Text} :
    withoutCommand word rest ≠ .ok (some selected) := by
  rw [withoutCommand]
  split
  · split <;> nofun
  · nofun

theorem select_of_broken (broken : leading.Broken line) : ∃ fault, select line = .error fault := by
  obtain ⟨fault, refused⟩ := sound_leading.exists_parse_error_iff.mpr broken
  exact ⟨fault, by rw [select, refused]; rfl⟩

theorem select_question {option : Text × Option Text}
    (admits : leading.Admits line (option :: options) words) : select line = .ok none := by
  rw [select, sound_leading.parse_eq_ok_iff.mpr admits]
  rfl

theorem select_missing (admits : leading.Admits line [] []) :
    select line = .error .missingCommand := by
  rw [select, sound_leading.parse_eq_ok_iff.mpr admits]
  rfl

/-- A command is selected by its name. -/
theorem select_command {rest : List Text}
    (admits : leading.Admits line [] (Text.ofString command.name :: rest)) :
    select line = .ok (some (command, rest)) := by
  rw [select, sound_leading.parse_eq_ok_iff.mpr admits]
  dsimp only [bind, Except.bind, isQuestion]
  rw [ofText?_eq_some_iff.mpr rfl]
  rfl

theorem select_unknown {word : Text} {rest : List Text}
    (admits : leading.Admits line [] (word :: rest))
    (unnamed : ∀ command : CommandName, word ≠ Text.ofString command.name) :
    select line = withoutCommand word rest := by
  rw [select, sound_leading.parse_eq_ok_iff.mpr admits]
  dsimp only [bind, Except.bind, isQuestion]
  rw [ofText?_eq_none_iff.mpr unnamed]
  rfl

/-- A command line is refused where the command is selected, or by the command. -/
def Refused (line : List Text) : Prop :=
  (∃ fault, select line = .error fault)
    ∨ ∃ command rest, select line = .ok (some (command, rest))
      ∧ ∃ fault, ofArguments command rest = .error fault

/-- A word that ends up in the place of a command is misused if it is refused. -/
theorem misused_of_word {word : Text} {rest : List Text}
    (admits : leading.Admits line [] (word :: rest)) (refused : Refused line) : Misused line := by
  by_cases named : ∃ command : CommandName, word = Text.ofString command.name
  · obtain ⟨command, rfl⟩ := named
    rw [Refused, select_command admits] at refused
    rcases refused with ⟨fault, done⟩ | ⟨_, _, same, misuses⟩
    · cases done
    · obtain ⟨rfl, rfl⟩ := Prod.mk.inj (Option.some.inj (Except.ok.inj same))
      exact .command admits (misuses_iff.mp misuses)
  · have unnamed : ∀ command : CommandName, word ≠ Text.ofString command.name :=
      fun command same => named ⟨command, same⟩
    rw [Refused, select_unknown admits unnamed] at refused
    rcases refused with refused | ⟨_, _, selected, _⟩
    · exact .unknown admits unnamed (exists_withoutCommand_error_iff.mp refused)
    · exact absurd selected withoutCommand_ne

/-- **Exactly the misused command lines are refused.** -/
theorem refused_iff : Refused line ↔ Misused line := by
  constructor
  · intro refused
    rcases leading.admits_or_broken line with ⟨options, words, admits⟩ | broken
    · match options, words with
      | _ :: _, _ =>
          rw [Refused, select_question admits] at refused
          rcases refused with ⟨fault, done⟩ | ⟨command, rest, done, _⟩
          · cases done
          · cases done
      | [], [] => exact .missing admits
      | [], _ :: _ => exact misused_of_word admits refused
    · exact .broken broken
  · intro misused
    cases misused with
    | broken broken => exact .inl (select_of_broken broken)
    | missing admits => exact .inl ⟨_, select_missing admits⟩
    | unknown admits unnamed unasked =>
        rw [Refused, select_unknown admits unnamed]
        exact .inl (exists_withoutCommand_error_iff.mpr unasked)
    | command admits misuses =>
        exact .inr ⟨_, _, select_command admits, misuses_iff.mpr misuses⟩

end CommandName

end Heartbeat
