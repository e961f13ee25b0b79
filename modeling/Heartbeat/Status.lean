import Heartbeat.Text

/-!
# Outcomes of a command

A heartbeat says how a command ended in one of three words.
-/

namespace Heartbeat

set_option autoImplicit false

/-- How a command ended. -/
inductive Status where
  | success
  | failure
  | canceled
deriving DecidableEq, Repr

namespace Status

/-- All outcomes, in the order in which they are offered. -/
def all : List Status := [.success, .failure, .canceled]

/-- The word for an outcome. -/
def name : Status → String
  | .success => "success"
  | .failure => "failure"
  | .canceled => "canceled"

/-- The text of the word for an outcome. -/
def text (status : Status) : Text := status.name

/-- The outcome that a word names.  Only the exact word does. -/
def ofText? (text : Text) : Option Status := all.find? fun status => decide (status.text = text)

/-- Every outcome is found by its word. -/
theorem ofText?_text (status : Status) : ofText? status.text = some status := by
  cases status <;> decide

/-- A text names an outcome only if it is the word for it. -/
theorem text_of_ofText? {text : Text} {status : Status} (found : ofText? text = some status) :
    status.text = text := by
  have holds := List.find?_some found
  simpa using holds

end Status

end Heartbeat
