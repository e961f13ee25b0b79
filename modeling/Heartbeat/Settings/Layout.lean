import Heartbeat.Settings
import Heartbeat.Text.Wrap

/-!
# The layout of settings

Settings are shown one to a line, each with its name and its value, between
braces and with commas between the lines.  A line that is wider than the screen is
wrapped.
-/

namespace Heartbeat

set_option autoImplicit false

namespace Settings

/-- How many cells the screen is wide. -/
def screenWidth : Nat := 80

/-- The line of one setting, without the comma. -/
def line (entry : SettingName × Value) : Except Failure Text := do
  let shown ← entry.2.shown
  return ("    " : Text) ++ Text.quoted entry.1.name ++ ": " ++ shown

/-- Lines with commas between them. -/
def separated : List Text → List Text
  | [] => []
  | [line] => [line]
  | line :: next :: lines => (line ++ [0x2C]) :: separated (next :: lines)

/-- All settings, as they are shown. -/
def layout (settings : Settings) : Except Failure Text := do
  let lines ← settings.entries.mapM line
  let wrapped := (separated lines).flatMap (Text.wrap screenWidth)
  return [0x7B, 0x0A] ++ Text.join [0x0A] wrapped ++ [0x0A, 0x7D, 0x0A]

end Settings

end Heartbeat
