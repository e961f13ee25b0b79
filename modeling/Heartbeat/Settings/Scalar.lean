import Heartbeat.Settings
import Heartbeat.Text.Blank

/-!
# Checking settings

A setting that comes from a variable is a text, and one that comes from a caller
may be anything.  Checking turns it into what the setting has to be, or says what
is wrong with it.

A truth value may be written in several words, in letters of either case.  A
number may be surrounded by white space, or have single underscores between its
digits, but not both.
-/

namespace Heartbeat

set_option autoImplicit false

/-- What is wrong with a setting. -/
inductive SettingFault where
  | notText
  | notUnicode
  | notBool
  | noBoolWord
  | notNumber
  | noNumberText
  | notPositive
deriving DecidableEq

namespace SettingFault

/-- The name of a fault. -/
def name : SettingFault → String
  | .notText => "string_type"
  | .notUnicode => "string_unicode"
  | .notBool => "bool_type"
  | .noBoolWord => "bool_parsing"
  | .notNumber => "float_type"
  | .noNumberText => "float_parsing"
  | .notPositive => "greater_than"

/-- The wording of a fault. -/
def message : SettingFault → String
  | .notText => "Input should be a valid string"
  | .notUnicode =>
    "Input should be a valid string, unable to parse raw data as a unicode string"
  | .notBool => "Input should be a valid boolean"
  | .noBoolWord => "Input should be a valid boolean, unable to interpret input"
  | .notNumber => "Input should be a valid number"
  | .noNumberText => "Input should be a valid number, unable to parse string as a number"
  | .notPositive => "Input should be greater than 0"

end SettingFault

namespace Scalar

/-! ## Texts -/

/-- A text. -/
def text (value : Value) : Except SettingFault Text :=
  match value.text? with
  | some content => .ok content
  | none => .error .notText

/-- A text or nothing. -/
def optionalText (value : Value) : Except SettingFault (Option Text) :=
  if value.isNull then .ok none else some <$> text value

/-! ## Truth values -/

/-- The words for the truth values. -/
def boolWords : List (String × Bool) :=
  [("0", false), ("off", false), ("f", false), ("false", false), ("n", false), ("no", false),
    ("1", true), ("on", true), ("t", true), ("true", true), ("y", true), ("yes", true)]

/-- The truth value that a word is for. -/
def boolOfWord (word : Text) : Except SettingFault Bool :=
  if word.any CodePoint.isSurrogate then .error .notUnicode
  else match boolWords.find? fun (candidate, _) => word.toLowerAscii.is candidate with
    | some (_, value) => .ok value
    | none => .error .noBoolWord

/-- The least natural number that does not fit into a signed word of 64 bits. -/
def wordBound : Int := 0x8000000000000000

/-- Whether an integer fits into a signed word of 64 bits. -/
def fitsWord (number : Int) : Bool := decide (-wordBound ≤ number) && decide (number < wordBound)

/-- The truth value that a whole number is for, if it is zero or one. -/
def boolOfInt (number : Int) : Except SettingFault Bool :=
  if number = 0 then .ok false
  else if number = 1 then .ok true
  else if fitsWord number then .error .noBoolWord
  else .error .notBool

/-- The truth value that a double is for, if it is zero or one.  Doubles are looked
at as whole numbers strictly above the least word only. -/
def boolOfDouble (number : FiniteDouble) : Except SettingFault Bool :=
  if Double.isWhole number && decide (-wordBound < Double.truncate number) then
    boolOfInt (Double.truncate number)
  else .error .notBool

/-- A truth value. -/
def bool (value : Value) : Except SettingFault Bool :=
  match value with
  | .bool flag => .ok flag
  | .int number => boolOfInt number
  | .double (.finite number) => boolOfDouble number
  | value =>
    match value.text? with
    | some word => boolOfWord word
    | none => .error .notBool

/-! ## Numbers -/

/-- A text without its underscores, if they stand alone between other points. -/
def withoutUnderscores? (text : Text) : Option Text :=
  let underscore : CodePoint := 0x5F
  let pieces := Text.split underscore text
  if pieces.any List.isEmpty then none else some pieces.flatten

/-- The double that a text writes. -/
def doubleOfText (text : Text) : Except SettingFault Double :=
  if text.any CodePoint.isSurrogate then .error .notUnicode
  else match Double.ofText? text.trimWhite with
    | some number => .ok number
    | none =>
      match (withoutUnderscores? text).bind Double.ofText? with
      | some number => .ok number
      | none => .error .noNumberText

/-- The double nearest to an integer, if there is one. -/
def doubleOfInt (number : Int) : Except SettingFault Double :=
  match Double.ofInt number with
  | .finite value => .ok (.finite value)
  | _ => .error .notNumber

/-- A number. -/
def double (value : Value) : Except SettingFault Double :=
  match value with
  | .double number => .ok number
  | .int number => doubleOfInt number
  | .bool flag => doubleOfInt flag.toNat
  | value =>
    match value.text? with
    | some content => doubleOfText content
    | none => .error .notNumber

/-- A number greater than zero. -/
def positiveDouble (value : Value) : Except SettingFault Double := do
  let number ← double value
  if number.isPositive then return number else throw .notPositive

end Scalar

end Heartbeat
