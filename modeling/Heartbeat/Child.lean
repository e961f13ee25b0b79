import Heartbeat.Delivery.Tracker
import Heartbeat.Files.Surroundings
import Heartbeat.Shell.Interpreter

/-!
# Children

A child is started by a command line whose arguments are texts that the system can
take.  A name with a slash is the path of the program; any other name is looked for
in the directories for programs, one after the other.  What cannot be started is a
failure of the system.

A child ends with a code, or by a signal, which is told as a negative code.  It leaves
behind what it changed among the files.
-/

namespace Heartbeat

set_option autoImplicit false

namespace Child

/-! ## The environment -/

/-- The environment of a child whose parent has no variables of its own. -/
def standardEnvironment : List (Text × Text) :=
  [("PATH", "/usr/local/sbin:/usr/local/bin:/usr/sbin:/usr/bin:/sbin:/bin"), ("HOME", "home")]

/-- The environment of a child, given the variables of the parent. -/
def environment (given : List (Text × Text)) : List (Text × Text) :=
  standardEnvironment.filter (fun (name, _) => !given.any fun (other, _) => decide (other = name))
    ++ given

/-! ## Arguments -/

/-- The text that an argument is. -/
def argument (value : Value) : Except Failure Text :=
  match value.text? with
  | some text => do
    Path.checkText text
    return text
  | none => .error (.notAnArgument value.className)

/-! ## Programs -/

/-- The paths at which a program is looked for. -/
def candidates (environment : List (Text × Text)) (name : Text) : List Text :=
  if name.contains Path.slash then [name]
  else
    let directories := ((environment.find? fun (other, _) => other.is "PATH").map
      fun (_, value) => Text.split 0x3A value).getD []
    directories.map fun directory =>
      if directory.isEmpty then name
      else if directory.getLast? = some Path.slash then directory ++ name
      else directory ++ [Path.slash] ++ name

/-- The program at the first path that has one, and the arguments that come before the
given ones.  Otherwise the first fault counts that
is more than an absence, and if there is none the last one. -/
def select (files : FileTree) :
    FileFault → Option FileFault → List Text → Except FileFault (Text × List Text)
  | last, first, [] => .error (first.getD last)
  | _, first, path :: paths =>
    match Shell.atPath files path with
    | .program name leading => .ok (name, leading)
    | .script _ => select files .badFormat (first <|> some .badFormat) paths
    | .inert => select files .permissionDenied (first <|> some .permissionDenied) paths
    | .nothing fault =>
      if fault = .notFound ∨ fault = .notADirectory then select files fault first paths
      else select files fault (first <|> some fault) paths

/-- The code that tells how a child ended. -/
def codeOf : Shell.Outcome → Int
  | .exited code => code
  | .killed signal => -(signal : Int)

/-- Runs a command line as a child; the files that it leaves behind are returned beside
its code. -/
def start (environment : List (Text × Text)) (files : FileTree) (line : List Value) :
    Except Failure (Int × FileTree) := do
  match line, (← line.mapM argument) with
  | value :: _, name :: arguments =>
    match select files .notFound none (candidates environment name) with
    | .error fault => throw (.notStarted fault (← value.shown))
    | .ok (program, leading) =>
      let (outcome, left) := Shell.start environment files program (leading ++ arguments)
      return (codeOf outcome, left)
  | _, _ => throw .noCommand

/-- The runner that starts children, given the variables of their parent. -/
def runner (given : List (Text × Text)) : Runner where
  traced := false
  start files line :=
    match start (environment given) files line with
    | .ok (code, left) => (.exited (.int code), left)
    | .error failure => (.failed failure, files)

end Child

end Heartbeat
