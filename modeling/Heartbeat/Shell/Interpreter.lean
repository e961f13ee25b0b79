import Heartbeat.Shell.Expansion
import Heartbeat.Shell.Program
import Heartbeat.Shell.Signal

/-!
# Running scripts

Running a command changes the state of the shell and leaves a code behind.  What is
built in is done by the shell itself; anything else is a function or a program.  A
copy of the shell, for a pipeline, a background command or an output that is put in,
leaves only the files and its output behind.

A script need not come to an end, so running it is bounded by a measure, far beyond
what a script that decides how a child ends can use up.
-/

namespace Heartbeat

set_option autoImplicit false

namespace Shell

/-- How a process ends. -/
inductive Outcome where
  | exited (code : Nat)
  | killed (signal : Nat)
deriving DecidableEq

namespace Outcome

/-- What is added to the number of a signal in the code of a process that it killed. -/
def signalBase : Nat := 128

/-- The code by which a shell knows an outcome. -/
def code : Outcome → Nat
  | .exited code => code
  | .killed signal => signalBase + signal

end Outcome

/-- The code of a misused command. -/
def misuse : Nat := 2

/-- The code of a program that cannot be executed. -/
def notExecutable : Nat := 126

/-- The code of a program that is not there. -/
def notFound : Nat := 127

/-- The code of a program that ran out of its time. -/
def tooLate : Nat := 124

/-- The code of a program that is to run another one and does not know how. -/
def refusedToRun : Nat := 125

/-! ## Parts of a state -/

/-- Runs something with some of the descriptors redirected, and puts them back.  `reads`
says whether the input is among them; otherwise what was read of it is gone. -/
def restoringTargets {result : Type} (reads : Bool) (inner : Run result) : Run result :=
  fun state =>
    let (outcome, after) := inner.run state
    let input := if reads then state.input else after.input
    (outcome, { after with targets := state.targets, input })

/-- Whether some redirections are about the input. -/
def areAboutInput (redirections : List Redirection) : Bool :=
  redirections.any fun redirection => decide (redirection.descriptor = 0)

/-- Runs something in a copy of the shell and returns its code.  A signal reaches the
shell itself. -/
def inCopy (inner : Run Unit) : Run Nat := fun state =>
  let copy := { state with traps := state.traps.filter fun (_, action) => action.isEmpty }
  let (outcome, after) := inner.run copy
  let left := { state with
    files := { after.files with workingDirectory := state.files.workingDirectory }
    captured := after.captured }
  match outcome with
  | .ok () => (.ok after.last, left)
  | .error (.killed signal) => (.error (.killed signal), left)
  | .error (.exit code) => (.ok code, left)
  | .error (.returned code) => (.ok code, left)
  | .error (.leave ..) => (.ok after.last, left)

/-- Runs something and returns what it wrote beside its result. -/
def capturing {result : Type} (inner : Run result) : Run (result × Bytes) := fun state =>
  let (outcome, after) := inner.run
    { state with targets := (1, .captured) :: state.targets, captured := [] }
  let left := { after with targets := state.targets, captured := state.captured }
  match outcome with
  | .ok value => (.ok (value, after.captured), left)
  | .error halt => (.error halt, left)

/-- Opens the target of a redirection; the answer says whether that was possible. -/
def redirect (descriptor : Nat) (direction : Direction) (target : Text) : Run Bool := do
  let state ← get
  match direction with
  | .read =>
    match Program.contentOf ⟨[], state.files, state.input⟩
        (if target.is "-" then ("./-" : Text) else target) with
    | .ok content => do
      if descriptor = 0 then change fun state => { state with input := content }
      return true
    | .error _ => return false
  | .document => do
    if descriptor = 0 then change fun state => { state with input := target.bytes }
    return true
  | .write =>
    let inTheWay := state.guarded && match state.files.entryAt target with
      | .ok (_, .file _) => true
      | _ => false
    if inTheWay then return false
    else match state.files.truncate target with
    | .ok (location, files) => do
      change fun state => { state with files }.setTarget descriptor (.file location)
      return true
    | .error _ => return false
  | .append =>
    match state.files.touch target with
    | .ok (location, files) => do
      change fun state => { state with files }.setTarget descriptor (.file location)
      return true
    | .error _ => return false
  | .duplicate =>
    if target.is "-" then do
      change fun state => state.setTarget descriptor .closed
      return true
    else match Signal.number? target with
      | none => return false
      | some other =>
        if state.target other = .closed then return false
        else do
          change fun state => state.setTarget descriptor (state.target other)
          return true

/-! ## What is built in -/

/-- What is built in and ends the shell if it is misused. -/
def specialNames : List String :=
  [":", ".", "break", "continue", "eval", "exec", "exit", "export", "readonly", "return", "set",
    "shift", "times", "trap", "unset", "local"]

/-- What else is built in. -/
def builtinNames : List String :=
  ["true", "false", "echo", "printf", "test", "[", "cd", "chdir", "pwd", "kill", "wait", "read",
    "umask", "command", "type", "alias", "unalias", "jobs", "fg", "bg", "hash", "ulimit",
    "getopts"]

/-- The number that an argument writes, up to the largest of 31 bits; blanks around it do
not matter. -/
def argumentNumber? (text : Text) : Option Nat :=
  match Condition.number? text with
  | some number => if 0 ≤ number ∧ number < 0x80000000 then some number.toNat else none
  | none => none

/-- Sets the options that letters stand for. -/
def setOptions (on : Bool) (letters : Text) : Run Unit :=
  letters.forM fun letter =>
    change fun state =>
      if letter = CodePoint.ofChar 'e' then { state with strict := on }
      else if letter = CodePoint.ofChar 'u' then { state with complete := on }
      else if letter = CodePoint.ofChar 'f' then { state with literal := on }
      else if letter = CodePoint.ofChar 'C' then { state with guarded := on }
      else if letter = CodePoint.ofChar 'n' then { state with idle := on }
      else state

/-- The letters of all options. -/
def optionLetters : Text := "aefInuvxmbCEVi"

/-- The letter of an option by its long name. -/
def longOption? (name : Text) : Option Text :=
  ([("errexit", "e"), ("nounset", "u"), ("noglob", "f"), ("xtrace", "x"), ("verbose", "v"),
    ("noclobber", "C"), ("noexec", "n")] :
    List (String × String)).findSome? fun (long, letter) =>
      if name.is long then some (letter : Text) else none

/-- Sets options and parameters from arguments. -/
def setFrom : List Text → Run Unit
  | [] => return ()
  | argument :: rest => do
    match argument with
    | [] => change fun state => { state with parameters := argument :: rest }
    | first :: letters =>
      if argument.is "--" then change fun state => { state with parameters := rest }
      else if argument.is "-o" || argument.is "+o" then
        match rest with
        | [] => return ()
        | name :: others =>
          match longOption? name with
          | some letter => do
            setOptions (first.val = 0x2D) letter
            setFrom others
          | none => throw (.exit misuse)
      else if first.val = 0x2D || first.val = 0x2B then
        if letters.all optionLetters.contains then do
          setOptions (first.val = 0x2D) letters
          setFrom rest
        else throw (.exit misuse)
      else change fun state => { state with parameters := argument :: rest }

/-- Changes a variable to which an argument may also give a value. -/
def declare (update : Binding → Binding) (argument : Text) : Run Unit := do
  let (name, value) := match Text.cut? 0x3D argument with
    | some (name, value) => (name, some value)
    | none => (argument, none)
  if isName name then do
    if let some value := value then assign name value
    change fun state => match state.binding? name with
      | some binding => state.bind (update binding)
      | none => state.bind (update ⟨name, [], false, false⟩)
  else throw (.exit misuse)

/-- Changes the working directory; the answer is the code. -/
def enterDirectory (target : Text) : Run Nat := do
  let state ← get
  match state.files.entryAt target with
  | .ok (location, .directory) => do
    let old := Path.toText ⟨1, state.files.workingDirectory⟩
    change fun state => { state with files := { state.files with workingDirectory := location } }
    assign "OLDPWD" old
    assign "PWD" (Path.toText ⟨1, location⟩)
    return 0
  | _ => return misuse

/-- Removes variables or functions. -/
def forget (names : List Text) : Run Unit := do
  let functions := names.head? = some "-f"
  let names := names.filter fun name => !(name.is "-f" || name.is "-v")
  names.forM fun name => do
    if functions then
      change fun state => { state with
        functions := state.functions.filter fun (other, _) => decide (other ≠ name) }
    else match (← get).binding? name with
      | some binding =>
        if binding.fixed then throw (.exit misuse) else change fun state => state.unbind name
      | none => return ()

/-- The line at the front of an input, and what follows it, if the line has an end.
Unless the input is taken as it is, a backslash takes the meaning from the next point,
and the end of the line from a line feed. -/
def lineOf (asIs : Bool) : Text → List Mark × Option Text
  | [] => ([], none)
  | [point] =>
    if point = lineFeed then ([], some [])
    else if !asIs && point = CodePoint.backslash then ([], none)
    else ([⟨true, point⟩], none)
  | point :: next :: rest =>
    if point = lineFeed then ([], some (next :: rest))
    else if !asIs && point = CodePoint.backslash then
      let (marks, after) := lineOf asIs rest
      (if next = lineFeed then marks else ⟨false, next⟩ :: marks, after)
    else
      let (marks, after) := lineOf asIs (next :: rest)
      (⟨true, point⟩ :: marks, after)

/-- Gives the words of a line to variables, the last one getting what is left. -/
def distribute (separators : Text) (line : List Mark) : List Text → Run Unit
  | [] => return ()
  | name :: names => do
    let parts := fun (mark : Mark) => mark.active && separators.contains mark.point
    let isBlank := fun (mark : Mark) => parts mark && (isGap mark.point || mark.point = lineFeed)
    let line := line.dropWhile isBlank
    if names.isEmpty then
      assign name (((line.reverse.dropWhile isBlank).reverse).map Mark.point)
    else do
      let first := line.takeWhile fun mark => !parts mark
      assign name (first.map Mark.point)
      let rest := (line.drop first.length).dropWhile isBlank
      distribute separators
        (match rest with
          | mark :: others => if parts mark then others else rest
          | [] => [])
        names

/-- Reads a line of the input into variables; the answer is the code. -/
def readInput (arguments : List Text) : Run Nat := do
  let state ← get
  let asIs := arguments.any fun argument => argument.is "-r"
  let (line, rest) := lineOf asIs ((Bytes.decode? state.input).getD [])
  change fun state => { state with input := (rest.getD []).bytes }
  distribute (Expansion.separators state) line
    (arguments.filter fun argument => !argument.is "-r")
  return if rest.isSome then 0 else 1

/-- Sets what is to be run on signals; the answer is the code. -/
def setTraps (arguments : List Text) : Run Nat := do
  match arguments with
  | [] => return 0
  | [single] =>
    match Signal.ofText? 0 single with
    | some signal => do
      change fun state => { state with
        traps := state.traps.filter fun (other, _) => decide (other ≠ signal) }
      return 0
    | none => return 1
  | action :: names =>
    names.foldlM
      (fun code name => do
        match Signal.ofText? 0 name with
        | none => return 1
        | some signal => do
          change fun state =>
            let others := state.traps.filter fun (other, _) => decide (other ≠ signal)
            { state with
              traps := if action.is "-" then others else (signal, action) :: others }
          return code)
      0

/-- The code of a background command. -/
def jobCode (state : State) (argument : Text) : Nat :=
  match Signal.number? argument with
  | none => misuse
  | some number =>
    match state.jobs.find? fun (other, _) => decide (other = number) with
    | some (_, code) => code
    | none => notFound

/-- What the arguments for sending a signal mean: the signal and the processes; none if
they are wrong. -/
def signalled? (arguments : List Text) : Option (Nat × List Text) :=
  match arguments with
  | [] => none
  | first :: rest =>
    match first with
    | dash :: word =>
      if dash.val = 0x2D then
        match Signal.ofText? 1 word with
        | some signal => if rest.isEmpty then none else some (signal, rest)
        | none =>
          if first.is "--" then if rest.isEmpty then none else some (Signal.terminate, rest)
          else match word with
            | letter :: name =>
              if letter = CodePoint.ofChar 's' then
                match (if name.isEmpty then rest else name :: rest) with
                | name :: others =>
                  match Signal.ofText? 1 name with
                  | some signal => if others.isEmpty then none else some (signal, others)
                  | none => none
                | [] => none
              else none
            | [] => some (Signal.terminate, arguments)
      else some (Signal.terminate, arguments)
    | [] => some (Signal.terminate, arguments)

/-- The place of a script that is read in by its name. -/
def sourcePlace (state : State) (name : Text) : Option Text :=
  if name.contains Path.slash then some name
  else (Text.split 0x3A ((state.value? "PATH").getD [])).findSome? fun directory =>
    let path := (if directory.isEmpty then Path.here else directory) ++ [Path.slash] ++ name
    match state.files.entryAt path with
    | .ok (_, .file _) => some path
    | _ => none

/-! ## Programs -/

/-- The programs that run other programs. -/
def runningNames : List String := ["sh", "dash", "bash", "env", "nice", "nohup", "timeout"]

/-- Whether a shell is the plain one, to which a directory is an empty script and the
absence of a script a misuse. -/
def isPlain (name : Text) : Bool := !name.is "bash"

/-- What is found under the path of a program. -/
inductive Found where
  /-- A program, and the arguments that come before the given ones. -/
  | program (name : Text) (leading : List Text)
  /-- Something that can be executed and does not say what runs it. -/
  | script (path : Text)
  /-- There is something, but it cannot be executed. -/
  | inert
  | nothing (fault : FileFault)

/-- Whether something was found that can be executed. -/
def Found.isExecutable : Found → Bool
  | .program .. | .script _ => true
  | _ => false

/-- What the first line of a script says of what runs it: a path, and perhaps one
argument. -/
def interpreter? (content : Bytes) : Option (Text × List Text) :=
  if content.take 2 = [0x23, 0x21] then
    let line := (Bytes.decode? ((content.drop 2).takeWhile fun byte => byte ≠ Line.feed)).getD []
    let line := Text.dropEndWhile isGap (line.dropWhile isGap)
    let path := line.takeWhile fun point => !isGap point
    let argument := (line.drop path.length).dropWhile isGap
    if path.isEmpty then none else some (path, if argument.isEmpty then [] else [argument])
  else none

/-- What is found at a path, as far as scripts that are run by scripts go. -/
def atPathWithin (files : FileTree) : Nat → Text → Found
  | 0, _ => .inert
  | measure + 1, path =>
    match files.entryAt path with
    | .error fault => .nothing fault
    | .ok (location, .file content) =>
      if !files.isExecutable location then .inert
      else match FileTree.programName? content, interpreter? content with
        | some name, _ => .program name []
        | none, none => .script path
        | none, some (interpreter, leading) =>
          match atPathWithin files measure interpreter with
          | .program name former => .program name (former ++ leading ++ [path])
          | .script _ => .script path
          | found => found
    | .ok _ => .inert

/-- How many scripts in a row may be run by scripts. -/
def scriptLimit : Nat := 5

/-- What is found at a path. -/
def atPath (files : FileTree) (path : Text) : Found := atPathWithin files scriptLimit path

/-- What a shell finds under a name: a path as it is, and otherwise the first that the
directories for programs have. -/
def search (state : State) (name : Text) : Found :=
  if name.contains Path.slash then atPath state.files name
  else
    let directories := Text.split 0x3A ((state.value? "PATH").getD [])
    let found := directories.filterMap fun directory =>
      match atPath state.files
          ((if directory.isEmpty then Path.here else directory) ++ [Path.slash] ++ name) with
      | .program name leading => some (Found.program name leading)
      | .script path => some (Found.script path)
      | .inert =>
        match state.files.entryAt
            ((if directory.isEmpty then Path.here else directory) ++ [Path.slash] ++ name) with
        | .ok (_, .directory) => none
        | _ => some .inert
      | .nothing _ => none
    if name.isEmpty then .nothing .notFound else found.head?.getD (.nothing .notFound)

/-- The path at which a shell finds a program that is looked for by its name. -/
def foundAt? (state : State) (name : Text) : Option Text :=
  if name.contains Path.slash then some name
  else (Text.split 0x3A ((state.value? "PATH").getD [])).findSome? fun directory =>
    let path := directory ++ [Path.slash] ++ name
    if (atPath state.files path).isExecutable then some path else none

/-- What a shell says of a name that it knows. -/
def description (state : State) (name : Text) : Option Text :=
  if keywords.any name.is then some " is a shell keyword"
  else if state.functions.any fun (other, _) => decide (other = name) then
    some " is a shell function"
  else if specialNames.any name.is then some " is a special shell builtin"
  else if builtinNames.any name.is then some " is a shell builtin"
  else if (search state name).isExecutable then
    (foundAt? state name).map fun path => (" is " : Text) ++ path
  else none

/-- The settings of a shell that its arguments make, and what is left of them. -/
structure ShellArguments where
  /-- Whether the script is the next argument itself. -/
  inline : Bool
  options : Text
  rest : List Text

/-- Reads the arguments of a shell; none if there is an option that does not exist. -/
def shellArguments : ShellArguments → List Text → Option ShellArguments
  | settings, [] => some { settings with rest := [] }
  | settings, argument :: rest =>
    match argument with
    | first :: second :: others =>
      if argument.is "--" then some { settings with rest := rest }
      else if first.val = 0x2D || first.val = 0x2B then
        let letters := second :: others
        if letters.all fun letter =>
            optionLetters.contains letter || (("cs" : Text) : List CodePoint).contains letter then
          shellArguments
            { settings with
              inline := settings.inline || letters.contains (CodePoint.ofChar 'c')
              options := settings.options ++ if first.val = 0x2D then letters else [] } rest
        else none
      else some { settings with rest := argument :: rest }
    | _ => some { settings with rest := if argument.is "-" then rest else argument :: rest }

/-- The environment that arguments of the form of an assignment add to, and what is left
of the arguments. -/
def withAssignments (environment : List (Text × Text)) :
    List Text → List (Text × Text) × List Text
  | [] => (environment, [])
  | argument :: rest =>
    match Text.cut? 0x3D argument with
    | some (name, value) =>
      withAssignments
        (environment.filter (fun (other, _) => decide (other ≠ name)) ++ [(name, value)]) rest
    | none => (environment, argument :: rest)

/-! ## Running -/

/-- Ends the shell after a command that failed, if it is strict and nobody asked. -/
def checkStrict (tested : Bool) : Run Unit := do
  let state ← get
  if state.strict && !tested && state.last ≠ 0 then throw (.exit state.last) else return ()

/-- Runs one round of a loop; the answer says whether there may be another. -/
def round (inner : Run Unit) : Run Bool :=
  tryCatch
    (do
      inner
      return true)
    fun halt => match halt with
      | .leave (loops + 2) again => throw (.leave (loops + 1) again)
      | .leave _ again => return again
      | other => throw other

mutual
/-- Runs a command.  `tested` says whether somebody asks how it ends. -/
def run : Nat → Bool → Command → Run Unit
  | 0, _, _ => throw (.exit misuse)
  | measure + 1, tested, command => do
    if (← get).idle then return ()
    match command with
    | .nothing => finish 0
    | .simple assignments words redirections => do
      runSimple measure tested assignments words redirections
      checkStrict tested
    | .sequence first second => do
      run measure tested first
      run measure tested second
    | .both first second => do
      run measure true first
      if (← get).last = 0 then run measure tested second else return ()
    | .either first second => do
      run measure true first
      if (← get).last = 0 then return () else run measure tested second
    | .negation inner => do
      run measure true inner
      finish (if (← get).last = 0 then 1 else 0)
    | .pipeline first second => do
      let (_, output) ← capturing (inCopy (run measure tested first))
      let code ← restoringTargets true do
        change fun state => { state with input := output }
        inCopy (run measure tested second)
      finish code
      checkStrict tested
    | .background inner => do
      let code ← restoringTargets true do
        change fun state => { state with input := [] }
        inCopy (run measure false inner)
      change fun state => { state with
        jobs := (State.jobProcess state.jobs.length, code) :: state.jobs, last := 0 }
    | .apart inner => do
      let code ← inCopy (concluding measure (run measure tested inner))
      finish code
      checkStrict tested
    | .conditional condition consequence alternative => do
      run measure true condition
      if (← get).last = 0 then run measure tested consequence
      else run measure tested alternative
    | .loop whileTrue condition body => do
      change fun state => { state with loops := state.loops + 1 }
      repeated measure tested whileTrue condition body 0
      change fun state => { state with loops := state.loops - 1 }
    | .each name words body => do
      let texts ← match words with
        | none => pure (← get).parameters
        | some words => do
          let fields ← words.mapM (Expansion.fieldsOf (captured measure))
          pure fields.flatten
      if texts.isEmpty then finish 0
      change fun state => { state with loops := state.loops + 1 }
      eachOf measure tested name body texts
      change fun state => { state with loops := state.loops - 1 }
    | .choice word arms => do
      let text ← Expansion.text (captured measure) word
      chosen measure tested text arms
    | .definition name body => do
      change fun state => { state with
        functions :=
          (name, body) :: state.functions.filter fun (other, _) => decide (other ≠ name) }
      finish 0
    | .redirected inner redirections =>
      restoringTargets (areAboutInput redirections) do
        if (← redirectAll measure redirections) then run measure tested inner
        else do
          finish misuse
          checkStrict tested

/-- Runs the rounds of a loop; `last` is the code of the former one. -/
def repeated : Nat → Bool → Bool → Command → Command → Nat → Run Unit
  | 0, _, _, _, _, _ => throw (.exit misuse)
  | measure + 1, tested, whileTrue, condition, body, last => do
    let goes ← round do
      run measure true condition
      if decide ((← get).last = 0) == whileTrue then run measure tested body
      else do
        finish last
        throw (.leave 1 false)
    if goes then repeated measure tested whileTrue condition body (← get).last else return ()

/-- Runs the rounds of a loop over texts. -/
def eachOf : Nat → Bool → Text → Command → List Text → Run Unit
  | 0, _, _, _, _ => throw (.exit misuse)
  | _ + 1, _, _, _, [] => return ()
  | measure + 1, tested, name, body, text :: texts => do
    assign name text
    let goes ← round (run measure tested body)
    if goes then eachOf measure tested name body texts else return ()

/-- Runs the first arm with a pattern that describes a text. -/
def chosen : Nat → Bool → Text → List (List Word × Command) → Run Unit
  | 0, _, _, _ => throw (.exit misuse)
  | _ + 1, _, _, [] => finish 0
  | measure + 1, tested, text, (words, body) :: arms => do
    let patterns ← words.mapM (Expansion.pattern (captured measure))
    if patterns.any fun pattern => pattern.describes text then run measure tested body
    else chosen measure tested text arms

/-- Carries out redirections; the answer says whether all were possible. -/
def redirectAll : Nat → List Redirection → Run Bool
  | 0, _ => throw (.exit misuse)
  | _ + 1, [] => return true
  | measure + 1, redirection :: others => do
    let target ← Expansion.text (captured measure) redirection.target
    if (← redirect redirection.descriptor redirection.direction target) then
      redirectAll measure others
    else return false

/-- Gives values to variables. -/
def assignAll : Nat → Bool → List Assignment → Run Unit
  | 0, _, _ => throw (.exit misuse)
  | _ + 1, _, [] => return ()
  | measure + 1, forChildren, assignment :: others => do
    assign assignment.name (← Expansion.text (captured measure) assignment.value)
    if forChildren then declare (fun binding => { binding with exported := true }) assignment.name
    assignAll measure forChildren others

/-- Runs a simple command. -/
def runSimple :
    Nat → Bool → List Assignment → List Word → List Redirection → Run Unit
  | 0, _, _, _, _ => throw (.exit misuse)
  | measure + 1, tested, assignments, words, redirections => do
    change fun state => { state with inserted := none }
    let fields ← words.mapM (Expansion.fieldsOf (captured measure))
    match fields.flatten with
    | [] =>
      restoringTargets (areAboutInput redirections) do
        if (← redirectAll measure redirections) then do
          assignAll measure false assignments
          finish ((← get).inserted.getD 0)
        else finish misuse
    | name :: arguments =>
      if specialNames.any name.is then
        if name.is "exec" && arguments.isEmpty then do
          if (← redirectAll measure redirections) then finish 0 else throw (.exit misuse)
        else restoringTargets (areAboutInput redirections) do
          if (← redirectAll measure redirections) then do
            assignAll measure false assignments
            finish (← special measure tested name arguments)
          else throw (.exit misuse)
      else restoringTargets (areAboutInput redirections) do
        if (← redirectAll measure redirections) then do
          let former := (← get).bindings
          assignAll measure true assignments
          let code ← match (← get).functions.find? fun (other, _) => decide (other = name) with
            | some (_, body) => call measure tested body arguments
            | none => command measure name arguments
          if !assignments.isEmpty then change fun state => { state with bindings := former }
          finish code
        else finish misuse

/-- Runs a function with parameters; the answer is its code. -/
def call : Nat → Bool → Command → List Text → Run Nat
  | 0, _, _, _ => throw (.exit misuse)
  | measure + 1, tested, body, arguments => do
    let before ← get
    change fun state => { state with parameters := arguments, inFunction := true, loops := 0 }
    let code ← tryCatch
      (do
        run measure tested body
        return (← get).last)
      fun halt => match halt with
        | .returned code => return code
        | other => throw other
    change fun state => { state with
      parameters := before.parameters, inFunction := before.inFunction, loops := before.loops }
    return code

/-- Runs what is built in or a program; the answer is the code. -/
def command : Nat → Text → List Text → Run Nat
  | 0, _, _ => throw (.exit misuse)
  | measure + 1, name, arguments => do
    if builtinNames.any name.is then builtin measure name arguments
    else return (← launch measure (search (← get) name) arguments).code

/-- Does what is built in and special; the answer is the code. -/
def special : Nat → Bool → Text → List Text → Run Nat
  | 0, _, _, _ => throw (.exit misuse)
  | measure + 1, tested, name, arguments => do
    let state ← get
    let number : Run Nat := match arguments with
      | [] => return 1
      | argument :: _ => match argumentNumber? argument with
        | some number => return number
        | none => throw (.exit misuse)
    if name.is "exit" then
      if arguments.isEmpty then throw (.exit state.last) else throw (.exit ((← number) % 256))
    else if name.is "return" then
      if arguments.isEmpty then throw (.returned state.last)
      else throw (.returned ((← number) % 256))
    else if name.is "break" || name.is "continue" then do
      let loops ← number
      if loops = 0 then throw (.exit misuse)
      else if state.loops = 0 then return 0
      else throw (.leave (min loops state.loops) (name.is "continue"))
    else if name.is "shift" then do
      let count ← number
      if state.parameters.length < count then throw (.exit misuse)
      else do
        change fun state => { state with parameters := state.parameters.drop count }
        return 0
    else if name.is "set" then do
      setFrom arguments
      return 0
    else if name.is "export" then do
      (arguments.filter fun argument => !argument.is "-p").forM
        (declare fun binding => { binding with exported := true })
      return 0
    else if name.is "readonly" then do
      (arguments.filter fun argument => !argument.is "-p").forM
        (declare fun binding => { binding with fixed := true })
      return 0
    else if name.is "unset" then do
      forget arguments
      return 0
    else if name.is "local" then
      if state.inFunction then do
        arguments.forM (declare fun binding => binding)
        return 0
      else throw (.exit misuse)
    else if name.is "trap" then
      setTraps (arguments.filter fun argument => !argument.is "--")
    else if name.is "eval" then do
      finish 0
      lines measure tested (tokens (Text.join [0x20] arguments))
      return (← get).last
    else if name.is "exec" then
      match arguments with
      | [] => return 0
      | target :: others =>
        throw (.exit (← launch measure (search state target) others).code)
    else if name.is "." then
      match arguments with
      | [] => throw (.exit misuse)
      | file :: _ =>
        match (sourcePlace state file).map state.files.entryAt with
        | some (.ok (_, .file content)) => do
          finish 0
          tryCatch (lines measure tested (tokens ((Bytes.decode? content).getD [])))
            fun halt => match halt with
              | .returned code => finish code
              | other => throw other
          return (← get).last
        | some (.ok (_, .device _)) => return 0
        | _ => throw (.exit misuse)
    else return 0

/-- Does what else is built in; the answer is the code. -/
def builtin : Nat → Text → List Text → Run Nat
  | 0, _, _ => throw (.exit misuse)
  | measure + 1, name, arguments => do
    let state ← get
    let printing := fun (bytes : Bytes) (code : Nat) => do
      if (← emit 1 bytes) then return code else return max code 1
    if name.is "false" then return 1
    else if name.is "echo" then printing (Printed.echoed arguments) 0
    else if name.is "printf" then
      let (bytes, code) := Printed.formatted arguments
      printing bytes code
    else if name.is "test" then return Condition.code false state.files arguments
    else if name.is "[" then
      match arguments.getLast? with
      | some last =>
        return if last.is "]" then Condition.code false state.files arguments.dropLast else misuse
      | none => return misuse
    else if name.is "cd" || name.is "chdir" then
      match arguments.filter fun argument => !(argument.is "-P" || argument.is "-L") with
      | [] => match state.value? "HOME" with
        | some home => enterDirectory home
        | none => return 0
      | target :: _ =>
        if target.is "-" then enterDirectory ((state.value? "OLDPWD").getD Path.here)
        else if target.isEmpty then return 0
        else enterDirectory target
    else if name.is "pwd" then
      printing (Program.lines [Path.toText ⟨1, state.files.workingDirectory⟩]) 0
    else if name.is "kill" then
      if arguments.head? = some "-l" then return 0
      else match signalled? arguments with
        | none => return misuse
        | some (signal, processes) => send measure signal processes 0
    else if name.is "wait" then
      match arguments.getLast? with
      | none => return 0
      | some last => return jobCode state last
    else if name.is "read" then readInput arguments
    else if name.is "command" then
      match arguments with
      | [] => return 0
      | target :: others =>
        if target.is "-v" || target.is "-V" then
          match others with
          | [] => return 0
          | known :: _ =>
            if specialNames.any known.is || builtinNames.any known.is
                || state.functions.any fun (other, _) => decide (other = known) then
              printing (Program.lines [known]) 0
            else if (search state known).isExecutable then
              printing (Program.lines [(foundAt? state known).getD known]) 0
            else return notFound
        else if target.is "-p" then
          match others with
          | [] => return 0
          | target :: others => command measure target others
        else if specialNames.any target.is then special measure false target others
        else command measure target others
    else if name.is "type" then
      let kinds := arguments.map (description state)
      printing
        (Program.lines ((arguments.zip kinds).map fun (known, kind) =>
          known ++ (kind.getD ": not found")))
        (if kinds.all Option.isSome then 0 else notFound)
    else if name.is "alias" then
      return if arguments.all fun argument => (argument.drop 1).contains 0x3D then 0 else 1
    else if name.is "fg" || name.is "bg" then return misuse
    else if name.is "getopts" then return if arguments.isEmpty then 0 else 1
    else return 0

/-- Sends a signal to processes; the answer is the code, given that of the former
ones. -/
def send : Nat → Nat → List Text → Nat → Run Nat
  | 0, _, _, _ => throw (.exit misuse)
  | _ + 1, _, [], code => return code
  | measure + 1, signal, process :: processes, code => do
    let state ← get
    match argumentNumber? process with
    | none =>
      match process with
      | dash :: rest =>
        if dash.val = 0x2D && (argumentNumber? rest).isSome then send measure signal processes 1
        else return misuse
      | [] => return misuse
    | some number =>
      if number = State.process then
        match state.traps.find? fun (other, _) => decide (other = signal) with
        | some (_, action) =>
          if Signal.isFinal signal then throw (.killed signal)
          else do
            if signal ≠ 0 && !action.isEmpty then do
              let last := state.last
              lines measure false (tokens action)
              finish last
            send measure signal processes code
        | none =>
          if Signal.isHarmless signal then send measure signal processes code
          else throw (.killed signal)
      else if state.jobs.any fun (other, _) => decide (other = number) then
        send measure signal processes code
      else send measure signal processes 1

/-- Runs the lines of a script. -/
def lines : Nat → Bool → List Token → Run Unit
  | 0, _, _ => throw (.exit misuse)
  | _ + 1, _, [] => return ()
  | measure + 1, tested, tokens => do
    match readLine tokens with
    | none => throw (.exit misuse)
    | some (.nothing, rest) => lines measure tested rest
    | some (command, rest) => do
      run measure tested command
      lines measure tested rest

/-- Runs something and then what is to be run at the end of the shell. -/
def concluding : Nat → Run Unit → Run Unit
  | 0, _ => throw (.exit misuse)
  | measure + 1, inner => do
    let code ← tryCatch
      (do
        inner
        return (← get).last)
      fun halt => match halt with
        | .exit code => return code
        | .returned code => return code
        | .leave .. => return (← get).last
        | .killed signal => throw (.killed signal)
    finish code
    match (← get).traps.find? fun (signal, _) => decide (signal = 0) with
    | some (_, action) => do
      change fun state => { state with
        traps := state.traps.filter fun (signal, _) => decide (signal ≠ 0) }
      tryCatch (lines measure false (tokens action)) fun halt => match halt with
        | .returned _ => return ()
        | .leave .. => return ()
        | other => throw other
      finish code
    | none => return ()

/-- The output of a script that is run in a copy of the shell. -/
def captured : Nat → Text → Run Bytes
  | 0, _ => throw (.exit misuse)
  | measure + 1, script => do
    let tokens := tokens script
    let (code, output) ← capturing
      (inCopy (concluding measure (do
        if tokens.all fun token => decide (token = .newline) then finish 0
        else lines measure false tokens)))
    change fun state => { state with inserted := some code }
    return output

/-- Runs what was found, for a shell. -/
def launch : Nat → Found → List Text → Run Outcome
  | 0, _, _ => throw (.exit misuse)
  | measure + 1, found, arguments =>
    match found with
    | .program name leading => program measure name (leading ++ arguments)
    | .script path => shell measure "sh" (path :: arguments)
    | .inert => return .exited notExecutable
    | .nothing _ => return .exited notFound

/-- Runs what was found, for a program that runs others. -/
def handOver : Nat → Found → List Text → Run Outcome
  | 0, _, _ => throw (.exit misuse)
  | measure + 1, found, arguments =>
    match found with
    | .nothing fault =>
      return .exited (if fault = .notFound then notFound else notExecutable)
    | found => launch measure found arguments

/-- Runs a program. -/
def program : Nat → Text → List Text → Run Outcome
  | 0, _, _ => throw (.exit misuse)
  | measure + 1, name, arguments => do
    let state ← get
    if name.is "env" then
      let cleared := arguments.head? = some "-i" || arguments.head? = some "-"
      let arguments := if cleared then arguments.drop 1 else arguments
      let arguments := if arguments.head? = some "--" then arguments.drop 1 else arguments
      let (environment, rest) := withAssignments
        (if cleared then [] else state.environment) arguments
      match rest with
      | [] => do
        let _ ← emit 1 (Program.lines (environment.map fun (name, value) =>
          name ++ [0x3D] ++ value))
        return .exited 0
      | target :: others =>
        if target.is "--help" || target.is "--version" then return .exited 0
        else if target.head? = some (CodePoint.ofChar '-') then return .exited 125
        else do
          let former := state.bindings
          let found := search state target
          change fun state => { state with
            bindings := environment.map fun (name, value) => ⟨name, value, true, false⟩ }
          let outcome ← handOver measure found others
          change fun state => { state with bindings := former }
          return outcome
    else if name.is "nice" then
      let arguments := match arguments with
        | [] => []
        | first :: rest =>
          if first.is "-n" then rest.drop 1
          else if first.head? = some (CodePoint.ofChar '-') then rest
          else arguments
      match arguments with
      | [] => return .exited 0
      | target :: others => handOver measure (search state target) others
    else if name.is "nohup" then
      match arguments with
      | [] => return .exited refusedToRun
      | target :: others =>
        if target.is "--help" || target.is "--version" then return .exited 0
        else handOver measure (search state target) others
    else if name.is "timeout" then
      let isKilling := arguments.head? = some ("-s" : Text)
        && (arguments.drop 1).head? = some ("KILL" : Text)
      let settings :=
        if ["-s", "-k"].any fun option => arguments.head? = some (option : Text) then 2
        else if arguments.head? = some ("--foreground" : Text) then 1
        else 0
      match arguments.drop settings with
      | [only] =>
        return .exited (if only.is "--help" || only.is "--version" then 0 else refusedToRun)
      | limit :: target :: others =>
        match Program.duration? limit, others.mapM Program.duration? with
        | none, _ => return .exited refusedToRun
        | some limit, some times =>
          if target.is "sleep" && limit ≠ 0 && decide (limit < times.sum) then
            return if isKilling then .killed Signal.kill else .exited tooLate
          else handOver measure (search state target) others
        | some _, none => handOver measure (search state target) others
      | _ => return .exited refusedToRun
    else if runningNames.any name.is then shell measure name arguments
    else match Program.run? name ⟨state.environment, state.files, state.input⟩ arguments with
      | none => return .exited notFound
      | some completion => do
        change fun state => { state with files := completion.files }
        let taken ← emit 1 completion.output
        return .exited (if taken then completion.code else max completion.code 1)

/-- Runs a shell of its own. -/
def shell : Nat → Text → List Text → Run Outcome
  | 0, _, _ => throw (.exit misuse)
  | measure + 1, name, arguments => do
    let state ← get
    let asksAbout := !isPlain name
      && arguments.any fun argument => argument.is "--help" || argument.is "--version"
    match (if asksAbout then none else shellArguments ⟨false, [], []⟩ arguments) with
    | none => return .exited (if asksAbout then 0 else misuse)
    | some settings =>
      let content : Option (Text × Text × List Text) :=
        match settings.rest with
        | [] =>
          if settings.inline then none else some ((Bytes.decode? state.input).getD [], name, [])
        | first :: rest =>
          if settings.inline then some (first, rest.head?.getD name, rest.drop 1)
          else match state.files.entryAt first with
            | .ok (_, .file content) => some ((Bytes.decode? content).getD [], first, rest)
            | .ok (_, .device _) => some ([], first, rest)
            | .ok (_, .directory) => if isPlain name then some ([], first, rest) else none
            | .error _ => none
      match content with
      | none =>
        let isThere := match settings.rest with
          | first :: _ => (state.files.entryAt first).toOption.isSome
          | [] => false
        return .exited (if isPlain name || settings.inline then misuse
          else if isThere then notExecutable else notFound)
      | some (script, called, parameters) =>
        let begun := State.initial state.environment state.files called parameters state.input
        let fresh := { begun with targets := state.targets, captured := state.captured }
        let (outcome, after) := (concluding measure (do
          setOptions true settings.options
          lines measure false (tokens script))).run fresh
        change fun state => { state with
          files := { after.files with workingDirectory := state.files.workingDirectory }
          captured := after.captured }
        return match outcome with
          | .ok () => .exited after.last
          | .error (.exit code) => .exited code
          | .error (.killed signal) => .killed signal
          | .error (.returned code) => .exited code
          | .error (.leave ..) => .exited after.last
end

/-- How far running a process may go. -/
def measure : Nat := 20000

/-- Runs a program with arguments; the files that it leaves behind are returned beside
the outcome. -/
def start (environment : List (Text × Text)) (files : FileTree) (name : Text)
    (arguments : List Text) : Outcome × FileTree :=
  let (outcome, state) := (program measure name arguments).run
    (State.initial environment files name [] [])
  let files := { state.files with workingDirectory := files.workingDirectory }
  match outcome with
  | .ok outcome => (outcome, files)
  | .error _ => (.exited misuse, files)

end Shell

end Heartbeat
