import Heartbeat.Child
import Heartbeat.CommandLine.Application
import Heartbeat.Files.Surroundings

/-!
# The program

The program looks up the variables and the environment file, makes one call of
the application, and carries out what the call did: it makes the directories,
appends to the files, and prints the output and the log.  There is no network
here, so to the application no collector is running.
-/

namespace Heartbeat

set_option autoImplicit false

namespace Program

/-- A network in which nothing is running. -/
def unreachable : Network := ⟨[some (.external .transportConnection "Connection refused")], 0⟩

/-- The variables that settings may be taken from, and those that children need. -/
def environment : IO (List (Text × Text)) := do
  let names := ["HOME", "PATH"] ++ SettingName.all.map fun setting =>
    (Text.toString setting.variableName).toUpper
  let found ← names.filterMapM fun name => do
    return (← IO.getEnv name).map fun value => (Text.ofString name, Text.ofString value)
  return found

/-- The content of the environment file, if there is one. -/
def environmentFile : IO (Option String) := do
  try return some (← IO.FS.readFile ".env") catch _ => return none

/-- A tree in which nothing is known but the working directory and its environment
file. -/
def tree (directory : Text) (environmentFile : Option String) : FileTree :=
  let location := (Path.ofText directory).names
  let above := (List.range (location.length + 1)).map fun length => location.take length
  let entries := above.foldl (fun (tree : FileTree) place => tree.put place .directory)
    { FileTree.bare with workingDirectory := location }
  match environmentFile with
  | some content =>
    entries.put (location ++ [(".env" : Text)]) (.file (Text.ofString content).bytes)
  | none => entries

/-- The path of a location. -/
def pathOf (location : Location) : String := Text.toString (Path.toText ⟨1, location⟩)

/-- Carries out what became of one entry since a tree was as given.  Files only
grow. -/
def carryOut (before : FileTree) (location : Location) (entry : FileEntry) : IO Unit := do
  match entry with
  | .directory => IO.FS.createDirAll (pathOf location)
  | .file content =>
    let added := content.drop ((before.content? location).getD []).length
    IO.FS.withFile (pathOf location) .append fun handle => handle.write ⟨added.toArray⟩
  | .device _ => return ()

/-- Prints an entry of the log. -/
def printEntry (entry : LogEntry) : IO Unit :=
  IO.eprintln (entry.event.severity.name ++ " " ++ entry.logger.dotted ++ " " ++ entry.event.name)

/-- Says why a call ended without a code. -/
def explain : Refusal → IO Unit
  | .settings complaints => do
    for (setting, fault) in complaints do
      IO.eprintln (setting.name ++ ": " ++ fault.message)
  | .usage fault => IO.eprintln (Text.toString fault.message)
  | .failure failure =>
    IO.eprintln (failure.kind.name ++ ": " ++ Text.toString failure.message)

/-- Runs the program. -/
def run (line : List String) : IO UInt32 := do
  let directory := ((← IO.getEnv "PWD").getD "/")
  let files := tree (Text.ofString directory) (← environmentFile)
  let given ← environment
  let circumstances : Circumstances :=
    { environment := given
      homes := Homes.ofEnvironment given "/"
      network := unreachable
      runner := Child.runner given }
  let (ending, application) :=
    Application.call circumstances (Application.fresh files) (line.map Text.ofString)
  for event in ending.trace do
    if let .log entry := event then printEntry entry
  for (location, entry) in application.files.entries do
    if files.lookup? location ≠ some entry then carryOut files location entry
  (← IO.getStdout).write ⟨ending.output.toArray⟩
  match ending.result with
  | .ok code => return (ExitCode.number code % 256).toNat.toUInt32
  | .error refusal =>
    explain refusal
    return refusal.code.toUInt32

end Program

end Heartbeat

/-- The program. -/
def main (line : List String) : IO UInt32 := Heartbeat.Program.run line
