import Heartbeat.Text

/-!
# Signals

A process is sent a signal by its number or by its name, in letters of either case.
-/

namespace Heartbeat

set_option autoImplicit false

namespace Shell

namespace Signal

/-- The names of the signals, from zero on; zero stands for the end of a shell. -/
def names : List String :=
  ["EXIT", "HUP", "INT", "QUIT", "ILL", "TRAP", "ABRT", "BUS", "FPE", "KILL", "USR1", "SEGV",
    "USR2", "PIPE", "ALRM", "TERM", "STKFLT", "CHLD", "CONT", "STOP", "TSTP", "TTIN", "TTOU",
    "URG", "XCPU", "XFSZ", "VTALRM", "PROF", "WINCH", "IO", "PWR", "SYS"]

/-- The first number that is no signal. -/
def bound : Nat := 65

/-- The number that digits write. -/
def number? (text : Text) : Option Nat :=
  if text.isEmpty || !text.all CodePoint.isDigit then none else some (Text.digitsValue text)

/-- The names in small letters, with their numbers. -/
def numbered : List (Text × Nat) :=
  names.zipIdx.map fun (name, number) => (Text.toLowerAscii name, number)

/-- The signal that a text means, from `least` on if it is given by its name. -/
def ofText? (least : Nat) (text : Text) : Option Nat :=
  match number? text with
  | some number => if number < bound then some number else none
  | none =>
    (numbered.find? fun (name, number) =>
      decide (text.toLowerAscii = name) && decide (least ≤ number)).map Prod.snd

/-- The signal that asks a process to end. -/
def terminate : Nat := 15

/-- The signal that ends a process whatever it does. -/
def kill : Nat := 9

/-- The signals that nothing can be done about. -/
def isFinal (signal : Nat) : Bool := signal = kill || signal = 19

/-- The signals that do not end a process that does nothing about them. -/
def isHarmless (signal : Nat) : Bool := [0, 17, 18, 19, 20, 21, 22, 23, 28].contains signal

end Signal

end Shell

end Heartbeat
