import Heartbeat.CommandLine.Invocation

/-!
# Command lines of a grammar

Which command lines a grammar admits, and which options and words they have, is said here
without reading them from the front.  An argument means something by itself
(`Grammar.Means`): its meaning depends on the table of options, not on what was read before.
Only where an option waits for its value, the next argument is that value, whatever it
looks like.

Every command line is either admitted (`Grammar.Admits`) or broken (`Grammar.Broken`), and
reading tells which (`Grammar.Sound.parse_eq_ok_iff` and
`Grammar.Sound.exists_parse_error_iff`).  This holds of every grammar whose options are names
with a dash in front and without an equals sign (`Grammar.Sound`), as they are in front of a
command and behind it (`CommandName.sound_leading`, `CommandName.sound_grammar`).
-/

namespace Heartbeat

set_option autoImplicit false

/-! ## Cutting -/

namespace Text

variable {separator : CodePoint} {text before after : Text}

theorem cut?_eq_none (free : separator ∉ text) : cut? separator text = none := by
  induction text with
  | nil => rfl
  | cons point rest hypothesis =>
      rw [List.mem_cons, not_or] at free
      rw [cut?, if_neg (Ne.symm free.1), hypothesis free.2]
      rfl

/-- Nothing is lost by cutting but the separator. -/
theorem eq_of_cut? (found : cut? separator text = some (before, after)) :
    text = before ++ [separator] ++ after := by
  induction text generalizing before with
  | nil => cases found
  | cons point rest hypothesis =>
      rw [cut?] at found
      split at found
      · next same =>
          obtain ⟨rfl, rfl⟩ := Prod.mk.inj (Option.some.inj found)
          rw [same]
          rfl
      · obtain ⟨⟨front, back⟩, cut, same⟩ := Option.map_eq_some_iff.mp found
        obtain ⟨rfl, rfl⟩ := Prod.mk.inj same
        rw [hypothesis cut]
        rfl

end Text

namespace Grammar

variable {grammar : Grammar}

/-! ## Names of options -/

/-- The names of the options look like options, are not taken for anything else, and
differ. -/
structure Sound (grammar : Grammar) : Prop where
  dashed : ∀ option ∈ grammar.options, looksLikeOption (Text.ofString option.1) = true
  apart : ∀ option ∈ grammar.options, Text.ofString option.1 ≠ optionsEnd
  free : ∀ option ∈ grammar.options, (0x3D : CodePoint) ∉ Text.ofString option.1
  kinds : ∀ option ∈ grammar.options,
    grammar.kindOf? (Text.ofString option.1) = some option.2

/-- An option with the value that is attached to it. -/
def attach (name : String) (value : Text) : Text := Text.ofString name ++ [0x3D] ++ value

/-- An argument is an option of this name, with or without a value attached to it. -/
def Names (argument : Text) (name : String) : Prop :=
  argument = Text.ofString name ∨ ∃ value, argument = attach name value

theorem kindOf?_eq_none {name : Text}
    (unlisted : ∀ option ∈ grammar.options, name ≠ Text.ofString option.1) :
    grammar.kindOf? name = none := by
  rw [kindOf?, Option.map_eq_none_iff, List.find?_eq_none]
  intro option listed same
  exact unlisted option listed (of_decide_eq_true same)

/-- An argument is what it is taken apart into. -/
theorem names_of_splitValue {argument : Text} {name : String}
    (same : (splitValue argument).1 = Text.ofString name) : Names argument name := by
  rw [splitValue] at same
  split at same
  · next before value found =>
      dsimp only at same
      exact .inr ⟨value, by rw [attach, ← same]; exact Text.eq_of_cut? found⟩
  · exact .inl same

/-- What is no option has no kind. -/
theorem kindOf?_splitValue {argument : Text}
    (unlisted : ∀ option ∈ grammar.options, ¬ Names argument option.1) :
    grammar.kindOf? (splitValue argument).1 = none :=
  kindOf?_eq_none fun option listed same => unlisted option listed (names_of_splitValue same)

namespace Sound

variable (sound : grammar.Sound) {option : String × OptionKind} (listed : option ∈ grammar.options)

include sound listed

theorem splitValue_name :
    splitValue (Text.ofString option.1) = (Text.ofString option.1, none) := by
  rw [splitValue, Text.cut?_eq_none (sound.free option listed)]

theorem splitValue_attach (value : Text) :
    splitValue (attach option.1 value) = (Text.ofString option.1, some value) := by
  rw [splitValue, attach, Text.cut?_append (sound.free option listed)]

/-- The name of an option has at least two points, of which the first is a dash. -/
theorem exists_name : ∃ second rest, Text.ofString option.1 = dash :: second :: rest := by
  have dashed := sound.dashed option listed
  match name : Text.ofString option.1 with
  | [] | [_] =>
      rw [name] at dashed
      cases dashed
  | first :: second :: rest =>
      rw [name] at dashed
      exact ⟨second, rest, by rw [of_decide_eq_true dashed]⟩

theorem dashed_attach (value : Text) : looksLikeOption (attach option.1 value) = true := by
  obtain ⟨second, rest, same⟩ := sound.exists_name listed
  rw [attach, same]
  rfl

theorem attach_ne (value : Text) : attach option.1 value ≠ optionsEnd := by
  obtain ⟨second, rest, same⟩ := sound.exists_name listed
  rw [attach, same]
  intro equal
  have lengths := congrArg List.length equal
  simp [optionsEnd] at lengths

end Sound

/-! ## What an argument means -/

/-- What an argument means where no option waits for a value. -/
inductive Means (grammar : Grammar) : Text → Reading → Prop where
  /-- Two dashes end the options. -/
  | finish : Means grammar optionsEnd .finish
  /-- The first word ends them too, unless options may stand behind words. -/
  | last {word : Text} (plain : looksLikeOption word = false)
      (strict : grammar.interspersed = false) : Means grammar word .last
  | word {word : Text} (plain : looksLikeOption word = false)
      (interspersed : grammar.interspersed = true) : Means grammar word .word
  /-- What looks like an option that nobody knows may be a word. -/
  | unknown {word : Text} (dashed : looksLikeOption word = true) (apart : word ≠ optionsEnd)
      (unlisted : ∀ option ∈ grammar.options, ¬ Names word option.1)
      (kept : grammar.keepsUnknown = true) : Means grammar word .word
  | flag {name : String} (listed : (name, .flag) ∈ grammar.options) :
      Means grammar (Text.ofString name) (.option (Text.ofString name) none)
  | attached {name : String} (listed : (name, .value) ∈ grammar.options) (value : Text) :
      Means grammar (attach name value) (.option (Text.ofString name) (some value))
  | opening {name : String} (listed : (name, .value) ∈ grammar.options) :
      Means grammar (Text.ofString name) (.opening (Text.ofString name))
  /-- A flag takes no value. -/
  | surplus {name : String} (listed : (name, .flag) ∈ grammar.options) (value : Text) :
      Means grammar (attach name value) (.fault (.unexpectedValue (Text.ofString name)))
  | alien {argument : Text} (dashed : looksLikeOption argument = true)
      (apart : argument ≠ optionsEnd)
      (unlisted : ∀ option ∈ grammar.options, ¬ Names argument option.1)
      (refused : grammar.keepsUnknown = false) :
      Means grammar argument (.fault (.unknownOption (unknownPart argument)))

/-- An argument is read as what it means. -/
theorem Sound.read_of_means (sound : grammar.Sound) {argument : Text} {reading : Reading}
    (means : grammar.Means argument reading) : grammar.read argument = reading := by
  cases means with
  | finish => exact grammar.read_optionsEnd
  | last plain strict =>
      rw [grammar.read_of_not_looksLikeOption plain, strict]
      rfl
  | word plain interspersed =>
      rw [grammar.read_of_not_looksLikeOption plain, if_pos interspersed]
  | unknown dashed apart unlisted kept =>
      rw [read, if_neg apart, if_pos dashed]
      simp only [readOption, kindOf?_splitValue unlisted, kept, if_true]
  | alien dashed apart unlisted refused =>
      rw [read, if_neg apart, if_pos dashed]
      simp only [readOption, kindOf?_splitValue unlisted, refused, Bool.false_eq_true, if_false]
  | flag listed | opening listed =>
      rw [read, if_neg (sound.apart _ listed), if_pos (sound.dashed _ listed),
        sound.splitValue_name listed]
      simp only [readOption, sound.kinds _ listed]
  | attached listed value | surplus listed value =>
      rw [read, if_neg (sound.attach_ne listed value), if_pos (sound.dashed_attach listed value),
        sound.splitValue_attach listed]
      simp only [readOption, sound.kinds _ listed]

/-- Every argument means something. -/
theorem exists_means (grammar : Grammar) (argument : Text) :
    ∃ reading, grammar.Means argument reading := by
  by_cases ends : argument = optionsEnd
  · exact ⟨.finish, ends ▸ Means.finish⟩
  cases dashed : looksLikeOption argument with
  | false =>
      cases interspersed : grammar.interspersed with
      | false => exact ⟨_, .last dashed interspersed⟩
      | true => exact ⟨_, .word dashed interspersed⟩
  | true =>
      by_cases known : ∃ option ∈ grammar.options, Names argument option.1
      · obtain ⟨⟨name, kind⟩, listed, rfl | ⟨value, rfl⟩⟩ := known
        · cases kind with
          | flag => exact ⟨_, .flag listed⟩
          | value => exact ⟨_, .opening listed⟩
        · cases kind with
          | flag => exact ⟨_, .surplus listed value⟩
          | value => exact ⟨_, .attached listed value⟩
      · have unlisted : ∀ option ∈ grammar.options, ¬ Names argument option.1 :=
          fun option listed names => known ⟨option, listed, names⟩
        cases kept : grammar.keepsUnknown with
        | false => exact ⟨_, .alien dashed ends unlisted kept⟩
        | true => exact ⟨_, .unknown dashed ends unlisted kept⟩

/-! ## Admitted and broken command lines -/

/-- A command line is admitted, with these options and these words. -/
inductive Admits (grammar : Grammar) :
    List Text → List (Text × Option Text) → List Text → Prop where
  | nothing : Admits grammar [] [] []
  /-- Behind the end of the options everything is a word. -/
  | finish (rest : List Text) : Admits grammar (optionsEnd :: rest) [] rest
  | last {word : Text} (means : grammar.Means word .last) (rest : List Text) :
      Admits grammar (word :: rest) [] (word :: rest)
  | word {word : Text} {line words : List Text} {options : List (Text × Option Text)}
      (means : grammar.Means word .word) (rest : Admits grammar line options words) :
      Admits grammar (word :: line) options (word :: words)
  | option {argument name : Text} {value : Option Text} {line words : List Text}
      {options : List (Text × Option Text)} (means : grammar.Means argument (.option name value))
      (rest : Admits grammar line options words) :
      Admits grammar (argument :: line) ((name, value) :: options) words
  /-- What follows an option that waits for its value is the value. -/
  | opening {argument name value : Text} {line words : List Text}
      {options : List (Text × Option Text)} (means : grammar.Means argument (.opening name))
      (rest : Admits grammar line options words) :
      Admits grammar (argument :: value :: line) ((name, some value) :: options) words

/-- A command line is broken, behind any number of words and options. -/
inductive Broken (grammar : Grammar) : List Text → Prop where
  /-- An option is not known, or it has a value that it does not take. -/
  | fault {argument : Text} {fault : UsageFault} (means : grammar.Means argument (.fault fault))
      (rest : List Text) : Broken grammar (argument :: rest)
  /-- The last argument is an option that waits for its value. -/
  | lacking {argument name : Text} (means : grammar.Means argument (.opening name)) :
      Broken grammar [argument]
  | word {word : Text} {line : List Text} (means : grammar.Means word .word)
      (rest : Broken grammar line) : Broken grammar (word :: line)
  | option {argument name : Text} {value : Option Text} {line : List Text}
      (means : grammar.Means argument (.option name value)) (rest : Broken grammar line) :
      Broken grammar (argument :: line)
  | opening {argument name value : Text} {line : List Text}
      (means : grammar.Means argument (.opening name)) (rest : Broken grammar line) :
      Broken grammar (argument :: value :: line)

/-- A command line is admitted or broken. -/
theorem admits_or_broken (grammar : Grammar) :
    ∀ line : List Text, (∃ options words, grammar.Admits line options words) ∨ grammar.Broken line
  | [] => .inl ⟨[], [], .nothing⟩
  | argument :: rest => by
      obtain ⟨reading, means⟩ := grammar.exists_means argument
      cases reading with
      | finish =>
          cases means
          exact .inl ⟨[], rest, .finish rest⟩
      | last => exact .inl ⟨[], _, .last means rest⟩
      | word =>
          rcases admits_or_broken grammar rest with ⟨options, words, admits⟩ | broken
          · exact .inl ⟨options, _, .word means admits⟩
          · exact .inr (.word means broken)
      | option name value =>
          rcases admits_or_broken grammar rest with ⟨options, words, admits⟩ | broken
          · exact .inl ⟨_, words, .option means admits⟩
          · exact .inr (.option means broken)
      | opening name =>
          match rest with
          | [] => exact .inr (.lacking means)
          | value :: line =>
              rcases admits_or_broken grammar line with ⟨options, words, admits⟩ | broken
              · exact .inl ⟨_, words, .opening means admits⟩
              · exact .inr (.opening means broken)
      | fault fault => exact .inr (.fault means rest)

namespace Sound

variable (sound : grammar.Sound) {line words : List Text} {options : List (Text × Option Text)}

include sound

/-- An admitted command line is taken apart into its options and its words. -/
theorem parseFrom_of_admits (admits : grammar.Admits line options words) :
    grammar.parseFrom none line = .ok ⟨options, words⟩ := by
  induction admits with
  | nothing => rfl
  | finish rest => rw [parseFrom, grammar.read_optionsEnd]
  | last means rest => rw [parseFrom, sound.read_of_means means]
  | word means _ hypothesis | option means _ hypothesis =>
      rw [parseFrom, sound.read_of_means means]
      dsimp only
      rw [hypothesis]
      rfl
  | opening means _ hypothesis =>
      rw [parseFrom, sound.read_of_means means]
      dsimp only
      rw [parseFrom, hypothesis]
      rfl

/-- A broken command line is not taken apart. -/
theorem parseFrom_of_broken (broken : grammar.Broken line) :
    ∃ misreading, grammar.parseFrom none line = .error misreading := by
  induction broken with
  | fault means rest =>
      rw [parseFrom, sound.read_of_means means]
      exact ⟨_, rfl⟩
  | lacking means =>
      rw [parseFrom, sound.read_of_means means]
      exact ⟨_, rfl⟩
  | word means _ hypothesis | option means _ hypothesis =>
      obtain ⟨misreading, found⟩ := hypothesis
      rw [parseFrom, sound.read_of_means means]
      dsimp only
      rw [found]
      exact ⟨misreading, rfl⟩
  | opening means _ hypothesis =>
      obtain ⟨misreading, found⟩ := hypothesis
      rw [parseFrom, sound.read_of_means means]
      dsimp only
      rw [parseFrom, found]
      exact ⟨misreading, rfl⟩

/-- **A command line is taken apart into the options and the words with which it is
admitted.** -/
theorem parseFrom_eq_ok_iff :
    grammar.parseFrom none line = .ok ⟨options, words⟩ ↔ grammar.Admits line options words := by
  constructor
  · intro parsed
    rcases grammar.admits_or_broken line with ⟨others, rest, admits⟩ | broken
    · have also := sound.parseFrom_of_admits admits
      rw [parsed] at also
      cases also
      exact admits
    · obtain ⟨misreading, found⟩ := sound.parseFrom_of_broken broken
      rw [parsed] at found
      cases found
  · exact sound.parseFrom_of_admits

/-- **A command line is not taken apart exactly if it is broken.** -/
theorem exists_parseFrom_error_iff :
    (∃ misreading, grammar.parseFrom none line = .error misreading) ↔ grammar.Broken line := by
  constructor
  · rintro ⟨misreading, found⟩
    rcases grammar.admits_or_broken line with ⟨options, words, admits⟩ | broken
    · rw [sound.parseFrom_of_admits admits] at found
      cases found
    · exact broken
  · exact sound.parseFrom_of_broken

theorem parse_eq_ok_iff :
    grammar.parse line = .ok ⟨options, words⟩ ↔ grammar.Admits line options words := by
  rw [← sound.parseFrom_eq_ok_iff, parse]
  cases grammar.parseFrom none line with
  | ok arguments =>
      constructor
      · intro same
        exact congrArg _ (Except.ok.inj same)
      · intro same
        rw [same]
        rfl
  | error misreading => constructor <;> (intro impossible; cases impossible)

theorem exists_parse_error_iff :
    (∃ fault, grammar.parse line = .error fault) ↔ grammar.Broken line := by
  rw [← sound.exists_parseFrom_error_iff, parse]
  cases grammar.parseFrom none line with
  | ok arguments => constructor <;> rintro ⟨_, ⟨⟩⟩
  | error misreading => exact ⟨fun _ => ⟨misreading, rfl⟩, fun _ => ⟨misreading.fault, rfl⟩⟩

end Sound

end Grammar

/-! ## The grammars of the commands -/

namespace CommandName

open Invocation (showGrammar reportGrammar trackGrammar)

/-- The options of a command. -/
def grammar : CommandName → Grammar
  | .showConfig => showGrammar
  | .report => reportGrammar
  | .track => trackGrammar

theorem sound_leading : leading.Sound := ⟨by decide, by decide, by decide, by decide⟩

theorem sound_grammar (command : CommandName) : command.grammar.Sound := by
  cases command <;> exact ⟨by decide, by decide, by decide, by decide⟩

end CommandName

end Heartbeat
