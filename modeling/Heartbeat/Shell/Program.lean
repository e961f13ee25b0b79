import Heartbeat.Files.Surroundings
import Heartbeat.Shell.Expression
import Heartbeat.Shell.Line

/-!
# Programs

The programs that a system has beside its shell, as far as they only look at their
arguments, their input and the tree of files.  A program prints something and ends
with a code; what it did before it found something wrong stays done.
-/

namespace Heartbeat

set_option autoImplicit false

namespace Shell

/-- What a program is started with. -/
structure Process where
  environment : List (Text × Text)
  files : FileTree
  input : Bytes

/-- What a program leaves behind. -/
structure Completion where
  code : Nat
  output : Bytes
  files : FileTree

namespace Program

/-! ## Arguments -/

/-- The arguments of a program: the letters of its short options, its long options, and
the operands. -/
structure Options where
  letters : Text
  long : List Text
  operands : List Text

/-- Takes arguments apart.  Two dashes alone end the options. -/
def options : List Text → Options
  | [] => ⟨[], [], []⟩
  | argument :: rest =>
    if argument.is "--" then ⟨[], [], rest⟩
    else match argument with
      | first :: second :: others =>
        let later := options rest
        if first.val = 0x2D then
          if second.val = 0x2D then { later with long := others :: later.long }
          else { later with letters := second :: others ++ later.letters }
        else { later with operands := argument :: later.operands }
      | _ =>
        let later := options rest
        { later with operands := argument :: later.operands }

namespace Options

/-- Whether an option was given, by its letter or its long name. -/
def has (options : Options) (letter : Char) (name : String) : Bool :=
  options.letters.contains (CodePoint.ofChar letter) || options.long.any fun long => long.is name

/-- Whether all options are among some letters and some long names. -/
def within (options : Options) (letters : Text) (names : List String) : Bool :=
  options.letters.all letters.contains && options.long.all fun long => names.any long.is

/-- Whether a program is only asked about itself. -/
def asksAbout (options : Options) : Bool :=
  options.long.any fun long => long.is "help" || long.is "version"

end Options

/-! ## Usages -/

/-- How a program is used: the options that it has, how many operands it takes, and the
code with which it refuses anything else. -/
structure Usage where
  letters : String
  long : List String
  least : Nat
  most : Option Nat
  refusal : Nat

namespace Usage

/-- Whether arguments are in order. -/
def admits (usage : Usage) (options : Options) : Bool :=
  options.within usage.letters usage.long && decide (usage.least ≤ options.operands.length)
    && match usage.most with
      | some most => decide (options.operands.length ≤ most)
      | none => true

/-- The usages of the programs that refuse what they do not know. -/
def all : List (String × Usage) :=
  [("mkdir", ⟨"pv", ["parents", "verbose"], 1, none, 1⟩),
    ("rmdir", ⟨"pv", ["parents", "verbose"], 1, none, 1⟩),
    ("touch", ⟨"acfmh", ["no-create", "no-dereference"], 1, none, 1⟩),
    ("rm", ⟨"rRfvidI", ["recursive", "force", "verbose", "dir", "one-file-system"], 0, none, 1⟩),
    ("cp", ⟨"rRafvpdnuiLPTlsxHb", ["recursive", "archive", "force", "verbose"], 2, none, 1⟩),
    ("mv", ⟨"fvniuTb", ["force", "verbose", "no-clobber"], 2, none, 1⟩),
    ("cat", ⟨"AbeEnstTuv", ["number", "show-all"], 0, none, 1⟩),
    ("ls",
      ⟨"aAbBcCdDfFgGhHiklLmnNopqQrRsStuUvxXZ1", ["all", "almost-all", "recursive"], 0, none, 2⟩),
    ("dir", ⟨"aAbBcCdDfFgGhHiklLmnNopqQrRsStuUvxXZ1", ["all", "almost-all"], 0, none, 2⟩),
    ("vdir", ⟨"aAbBcCdDfFgGhHiklLmnNopqQrRsStuUvxXZ1", ["all", "almost-all"], 0, none, 2⟩),
    ("tee", ⟨"aip", ["append", "ignore-interrupts"], 0, none, 1⟩),
    ("sleep", ⟨"", [], 1, none, 1⟩),
    ("pwd", ⟨"LP", ["logical", "physical"], 0, none, 1⟩),
    ("printenv", ⟨"0", ["null"], 0, none, 2⟩),
    ("basename", ⟨"z", ["zero"], 1, some 2, 1⟩),
    ("dirname", ⟨"z", ["zero"], 1, none, 1⟩),
    ("id", ⟨"agGnruzZ", ["user", "group", "groups", "name"], 0, none, 1⟩),
    ("whoami", ⟨"", [], 0, some 0, 1⟩),
    ("uname", ⟨"asnrvmpio", ["all"], 0, some 0, 1⟩),
    ("nproc", ⟨"", ["all"], 0, some 0, 1⟩),
    ("date", ⟨"uR", ["utc", "universal"], 0, some 1, 1⟩),
    ("sync", ⟨"df", ["data", "file-system"], 0, none, 1⟩),
    ("chmod", ⟨"cfvR", ["changes", "quiet", "verbose", "recursive"], 2, none, 1⟩),
    ("tty", ⟨"s", ["silent", "quiet"], 0, some 0, 2⟩),
    ("wc", ⟨"clmw", ["bytes", "lines", "chars", "words"], 0, none, 1⟩),
    ("sort", ⟨"nrusfbdi", ["numeric-sort", "reverse", "unique", "stable"], 0, none, 2⟩),
    ("uniq", ⟨"cdu", ["count", "repeated", "unique"], 0, some 2, 1⟩)]

/-- The usage of a program, if it has one. -/
def of? (name : Text) : Option Usage :=
  (all.find? fun (candidate, _) => name.is candidate).map Prod.snd

end Usage

/-! ## Files -/

/-- Does something to the tree for every operand.  The code is one as soon as one of
them fails. -/
def forEach (step : FileTree → Text → Except FileFault FileTree) (files : FileTree)
    (operands : List Text) : Nat × FileTree :=
  operands.foldl
    (fun (code, files) operand => match step files operand with
      | .ok files => (code, files)
      | .error _ => (1, files))
    (0, files)

/-- Makes a directory, with those above it if wanted. -/
def makeDirectory (above : Bool) (files : FileTree) (operand : Text) :
    Except FileFault FileTree :=
  if operand.isEmpty then .error .notFound
  else if above then
    let path := Path.ofText operand
    match files.makeDirectories path.slashes path.names.reverse with
    | (.ok (), files) => .ok files
    | (.error _, _) => .error .notADirectory
  else files.makeDirectory (Path.ofText operand)

/-- Removes an empty directory. -/
def removeDirectory (files : FileTree) (operand : Text) : Except FileFault FileTree := do
  let (location, entry) ← files.entryAt operand
  if entry ≠ .directory then throw .notADirectory
  else if (files.names location).isEmpty then return files.remove location
  else throw .alreadyExists

/-- Makes a file unless it is there. -/
def touch (make : Bool) (files : FileTree) (operand : Text) : Except FileFault FileTree :=
  match files.entryAt operand with
  | .ok _ => .ok files
  | .error .notFound => if make then Prod.snd <$> files.touch operand else .ok files
  | .error fault => .error fault

/-- Removes an entry; a directory only if wanted, and never the one that the path goes
through at its end. -/
def removeEntry (directories missing : Bool) (files : FileTree) (operand : Text) :
    Except FileFault FileTree :=
  match files.entryAt operand with
  | .error .notFound => if missing then .ok files else .error .notFound
  | .error fault => .error fault
  | .ok (location, entry) =>
    let last := ((Text.split Path.slash operand).filter fun name => !name.isEmpty).getLast?
    if last = some Path.here ∨ last = some Path.above ∨ last = none then .error .isADirectory
    else if entry = .directory ∧ !directories then .error .isADirectory
    else .ok (files.remove location)

/-- Where something goes that is copied or moved to a destination: into it if it is a
directory. -/
def destination (files : FileTree) (source target : Text) : Except FileFault Location := do
  match files.entryAt target with
  | .ok (location, .directory) =>
    match (Path.ofText source).names.getLast? with
    | some name => return location ++ [name]
    | none => return location
  | .ok (location, _) => return location
  | .error .notFound => files.place target
  | .error fault => throw fault

/-- Copies an entry. -/
def copyEntry (directories : Bool) (target : Text) (files : FileTree) (operand : Text) :
    Except FileFault FileTree := do
  let (source, entry) ← files.entryAt operand
  let place ← destination files operand target
  match entry with
  | .directory =>
    let free := files.lookup? place = none ∨ files.lookup? place = some .directory
    if directories ∧ !source.isPrefixOf place ∧ free then return files.copy source place
    else throw .isADirectory
  | .file content =>
    if place = source then throw .alreadyExists
    else match files.lookup? place with
      | some .directory => throw .isADirectory
      | some (.device _) => return files
      | _ =>
        if FileTree.wantsDirectory target ∧ (files.lookup? place).isNone
            ∧ (files.entryAt target).toOption.isNone then throw .notADirectory
        else
          let left := files.put place (.file content)
          return if (files.lookup? place).isSome then left
            else left.setExecutable place (files.isExecutable source)
  | .device _ => return files.put place (.file [])

/-- Moves an entry. -/
def moveEntry (target : Text) (files : FileTree) (operand : Text) :
    Except FileFault FileTree := do
  let (source, entry) ← files.entryAt operand
  let place ← destination files operand target
  if source.isPrefixOf place then throw .alreadyExists
  else if files.lookup? place = some .directory then throw .isADirectory
  else if entry = .directory ∧ files.lookup? place ≠ none then throw .notADirectory
  else if entry ≠ .directory ∧ FileTree.wantsDirectory target
      ∧ (files.entryAt target).toOption.isNone then throw .notADirectory
  else
    let moved := files.copy source place
    return moved.remove source

/-! ## Contents -/

/-- The content of an operand, a dash being the input. -/
def contentOf (process : Process) (operand : Text) : Except FileFault Bytes :=
  if operand.is "-" then .ok process.input
  else match process.files.entryAt operand with
    | .ok (_, .file content) => .ok content
    | .ok (_, .device _) => .ok []
    | .ok (_, .directory) => .error .isADirectory
    | .error fault => .error fault

/-- The contents of operands one after the other, and the code. -/
def contents (process : Process) (operands : List Text) : Bytes × Nat :=
  let operands := if operands.isEmpty then [("-" : Text)] else operands
  operands.foldl
    (fun (bytes, code) operand => match contentOf process operand with
      | .ok content => (bytes ++ content, code)
      | .error _ => (bytes, 1))
    ([], 0)

/-- Lines as output. -/
def lines (texts : List Text) : Bytes :=
  texts.flatMap fun text => Text.nativeBytes text ++ [0x0A]

/-- The names that a listing shows, and the code. -/
def listing (files : FileTree) (hidden : Bool) (operands : List Text) : Bytes × Nat :=
  let operands := if operands.isEmpty then [Path.here] else operands
  let isShown := fun (name : Text) => hidden || name.head? != some (CodePoint.ofChar '.')
  let (shown, code) := operands.foldl
    (fun (shown, code) operand => match files.entryAt operand with
      | .ok (location, .directory) => (shown ++ (files.names location).filter isShown, code)
      | .ok _ => (shown ++ [operand], code)
      | .error _ => (shown, 2))
    (([] : List Text), 0)
  (lines shown, code)

/-- Whether a file can be executed after a change of the rights to it, given whether it
could before.  A change is written in octal, or by letters for whom, for the kind of
change, and for what. -/
def afterChange? (text : Text) (before : Bool) : Option Bool :=
  let isOctal := fun (point : CodePoint) => point.isDigit && decide (point.digitValue < 8)
  if !text.isEmpty && decide (text.length ≤ 4) && text.all isOctal then
    some ((text.drop (text.length - 3)).any fun digit => decide (digit.digitValue % 2 = 1))
  else (Text.split 0x2C text).foldlM
    (fun before clause =>
      match clause.dropWhile fun point => ("ugoa" : Text).contains point with
      | change :: rights =>
        if ("+-=" : Text).contains change
            && rights.all (fun point => ("rwxXst" : Text).contains point) then
          let mentioned := rights.contains (CodePoint.ofChar 'x')
          some (if change.val = 0x2B then before || mentioned
            else if change.val = 0x2D then before && !mentioned
            else mentioned || (before && rights.contains (CodePoint.ofChar 'X')))
        else none
      | [] => none)
    before

/-- Changes the rights to files, of which only the one to execute them is kept. -/
def changeMode (process : Process) (operands : List Text) : Nat × FileTree :=
  match operands with
  | mode :: paths =>
    if (afterChange? mode false).isNone then (1, process.files)
    else forEach
      (fun files path => do
        let (location, _) ← files.entryAt path
        let before := files.isExecutable location
        return files.setExecutable location ((afterChange? mode before).getD before))
      process.files paths
  | [] => (1, process.files)

/-- The time that a text says, in billionths of a second: a number, perhaps with a
fraction, and a unit. -/
def duration? (text : Text) : Option Nat :=
  let unit : CodePoint → Option Nat := fun point =>
    if point = CodePoint.ofChar 's' then some 1
    else if point = CodePoint.ofChar 'm' then some 60
    else if point = CodePoint.ofChar 'h' then some 3600
    else if point = CodePoint.ofChar 'd' then some 86400
    else none
  let factor := (text.getLast?.bind unit).getD 1
  let number := if (text.getLast?.bind unit).isSome then text.dropLast else text
  let (whole, fraction) := (Text.cut? 0x2E number).getD (number, [])
  if (whole ++ fraction).isEmpty || !(whole ++ fraction).all CodePoint.isDigit then none
  else
    let places : Text := (fraction ++ List.replicate 9 (CodePoint.ofChar '0')).take 9
    some (factor * (1000000000 * Text.digitsValue whole + Text.digitsValue places))

/-- The last name of a path. -/
def baseName (operand ending : Text) : Text :=
  match (Path.ofText operand).names.getLast? with
  | none => if operand.isEmpty then [] else [Path.slash]
  | some name =>
    if name ≠ ending ∧ ending.isSuffixOf name then name.take (name.length - ending.length)
    else name

/-- The way to the last name of a path. -/
def directoryName (operand : Text) : Text :=
  let isSlash := fun (point : CodePoint) => decide (point = Path.slash)
  let trimmed := Text.dropEndWhile isSlash operand
  let way := Text.dropEndWhile (fun point => decide (point ≠ Path.slash)) trimmed
  if trimmed.isEmpty then if operand.isEmpty then Path.here else [Path.slash]
  else if way.isEmpty then Path.here
  else match Text.dropEndWhile isSlash way with
    | [] => [Path.slash]
    | directory => directory

/-! ## The programs -/

/-- A program that leaves the files as they are. -/
def printing (process : Process) (output : Bytes) (code : Nat) : Option Completion :=
  some ⟨code, output, process.files⟩

/-- A program that changes the files. -/
def changing (outcome : Nat × FileTree) : Option Completion := some ⟨outcome.1, [], outcome.2⟩

/-- Programs that find nothing wrong with anything and whose output says nothing about
the tree of files. -/
def indifferent : List String :=
  ["true", "whoami", "uname", "hostname", "nproc", "chown", "clear"]

/-- Prints arguments; options before them say whether escapes are replaced and whether a
line feed follows. -/
def echo (process : Process) (arguments : List Text) : Option Completion :=
  let isOption := fun (argument : Text) => match argument with
    | first :: second :: others =>
      first.val = 0x2D && (second :: others).all (("neE" : Text) : List CodePoint).contains
    | _ => false
  let options := arguments.takeWhile isOption
  let operands := arguments.drop options.length
  let letters := options.flatten.filter fun point => point.val ≠ 0x2D
  let escapes := (letters.filter fun point => point ≠ CodePoint.ofChar 'n').getLast?
    = some (CodePoint.ofChar 'e')
  let (bytes, more) := if escapes then Printed.joined operands
    else (Text.nativeBytes (Text.join [0x20] operands), true)
  let unfinished := letters.contains (CodePoint.ofChar 'n') || !more
  printing process (if unfinished then bytes else bytes ++ [0x0A]) 0

/-- Puts the input, or several files, into files as well. -/
def tee (process : Process) (options : Options) : Option Completion :=
  let keeps := options.has 'a' "append"
  let (code, files) := forEach
    (fun files operand => do
      let (location, files) ← if keeps then files.touch operand else files.truncate operand
      return files.appendTo location process.input)
    process.files options.operands
  some ⟨code, process.input, files⟩

/-- Shows a part of each content, under headings if there are several. -/
def showing (process : Process) (part : Option Line.Part)
    (shown : Line.Part → Bytes → Bytes) : Option Completion :=
  match part with
  | none => printing process [] 1
  | some part =>
    let operands := if part.operands.isEmpty then [("-" : Text)] else part.operands
    let heading := fun (operand : Text) =>
      let name := if operand.is "-" then ("standard input" : Text) else operand
      ("==> " : Text) ++ name ++ (" <==" : Text)
    let (bytes, code) := operands.foldl
      (fun (bytes, code) operand => match contentOf process operand with
        | .ok content =>
          let heading := if operands.length ≤ 1 then []
            else (if bytes.isEmpty then [] else [Line.feed]) ++ lines [heading operand]
          (bytes ++ heading ++ shown part content, code)
        | .error _ => (bytes, 1))
      (([] : Bytes), 0)
    printing process bytes code

/-- The counts of each content, filled with blanks to the width of the largest one if
there are several, and the code. -/
def countings (process : Process) (options : Options) : Bytes × Nat :=
  let wanted : List (Bytes → Nat) :=
    let chosen :=
      (if options.has 'l' "lines" then [Line.feeds] else [])
        ++ (if options.has 'w' "words" then [Line.words false] else [])
        ++ if options.has 'c' "bytes" || options.has 'm' "chars" then [List.length] else []
    if chosen.isEmpty then [Line.feeds, Line.words false, List.length] else chosen
  let operands := options.operands
  let found := (if operands.isEmpty then [("-" : Text)] else operands).map fun operand =>
    (operand, contentOf process operand)
  let contents := found.filterMap fun (_, content) => content.toOption
  let total := contents.foldl (fun total content => total + content.length) 0
  let width := if wanted.length = 1 && found.length = 1 then 1
    else if operands.isEmpty then 7
    else (Text.ofNat total).length
  let filled := fun (count : Nat) =>
    let digits := Text.ofNat count
    List.replicate (width - digits.length) (0x20 : CodePoint) ++ digits
  let row := fun (operand : Text) (counts : List Nat) =>
    Text.join [0x20] (counts.map filled) ++ if operand.isEmpty then [] else 0x20 :: operand
  let rows := found.filterMap fun (operand, content) => match content with
    | .ok content =>
      some (row (if operands.isEmpty then [] else operand) (wanted.map fun count => count content))
    | .error _ => none
  let sums := wanted.map fun count =>
    contents.foldl (fun total content => total + count content) 0
  (lines (rows ++ if found.length ≤ 1 then [] else [row "total" sums]),
    if found.all fun (_, content) => content.toOption.isSome then 0 else 1)

/-- Shows the lines once that are there several times in a row; they go to the second
operand if there is one. -/
def uniq (process : Process) (options : Options) : Option Completion :=
  match contentOf process (options.operands.head?.getD "-") with
  | .error _ => printing process [] 1
  | .ok content =>
    let runs := (Line.runs (Line.ofBytes content)).filter fun (_, count) =>
      (!options.has 'd' "repeated" || decide (1 < count))
        && (!options.has 'u' "unique" || decide (count = 1))
    let output := runs.flatMap fun (line, count) =>
      let digits := Text.ofNat count
      let filled := List.replicate (7 - digits.length) (0x20 : CodePoint) ++ digits ++ [0x20]
      let counted := if options.has 'c' "count" then Text.nativeBytes filled else []
      counted ++ line ++ [Line.feed]
    match options.operands.drop 1 with
    | [] => printing process output 0
    | target :: _ =>
      match process.files.truncate target with
      | .ok (location, files) => changing (0, files.appendTo location output)
      | .error _ => printing process [] 1

/-- What a program does with arguments that are in order, by its name; none if there is
no such program. -/
def perform? (name : Text) (process : Process) (arguments : List Text) : Option Completion :=
  let options := options arguments
  let operands := options.operands
  if indifferent.any name.is then printing process [] 0
  else if name.is "false" then printing process [] 1
  else if name.is "echo" then echo process arguments
  else if name.is "printf" then
    if arguments.any fun argument => argument.is "--help" || argument.is "--version" then
      printing process [] 0
    else
      let (bytes, code) := Printed.formattedAs true arguments
      printing process bytes (min code 1)
  else if name.is "test" then printing process [] (Condition.code true process.files arguments)
  else if name.is "[" then
    match arguments.getLast? with
    | some last =>
      printing process []
        (if last.is "]" then Condition.code true process.files arguments.dropLast else 2)
    | none => printing process [] 2
  else if name.is "mkdir" then
    changing (forEach (makeDirectory (options.has 'p' "parents")) process.files operands)
  else if name.is "rmdir" then changing (forEach removeDirectory process.files operands)
  else if name.is "touch" then
    changing (forEach (touch (!options.has 'c' "no-create")) process.files
      (operands.filter fun operand => !operand.is "-"))
  else if name.is "rm" then
    let force := options.has 'f' "force"
    let directories := options.has 'r' "recursive"
      || options.letters.contains (CodePoint.ofChar 'R')
    if operands.isEmpty then printing process [] (if force then 0 else 1)
    else changing (forEach (removeEntry directories force) process.files operands)
  else if name.is "cp" || name.is "mv" then
    match operands.getLast?, operands.dropLast with
    | some target, sources =>
      let isDirectory := match process.files.entryAt target with
        | .ok (_, .directory) => true
        | _ => false
      if sources.isEmpty || (sources.length > 1 && !isDirectory) then printing process [] 1
      else if name.is "mv" then changing (forEach (moveEntry target) process.files sources)
      else
        let directories := options.has 'r' "recursive" || options.has 'a' "archive"
          || options.letters.contains (CodePoint.ofChar 'R')
        changing (forEach (copyEntry directories target) process.files sources)
    | none, _ => printing process [] 1
  else if name.is "cat" then
    let (bytes, code) := contents process operands
    printing process bytes code
  else if ["ls", "dir", "vdir"].any name.is then
    let (bytes, code) := listing process.files (options.has 'A' "almost-all") operands
    printing process bytes code
  else if name.is "tee" then tee process options
  else if name.is "sleep" then
    printing process [] (if operands.all fun operand => (duration? operand).isSome then 0 else 1)
  else if name.is "pwd" then
    printing process (lines [Path.toText ⟨1, process.files.workingDirectory⟩]) 0
  else if name.is "printenv" then
    match operands with
    | [] =>
      printing process (lines (process.environment.map fun (name, value) =>
        name ++ [0x3D] ++ value)) 0
    | names =>
      let found := names.filterMap fun name =>
        (process.environment.find? fun (other, _) => decide (other = name)).map Prod.snd
      printing process (lines found) (if found.length = names.length then 0 else 1)
  else if name.is "basename" then
    printing process
      (lines [baseName (operands.head?.getD []) ((operands.drop 1).head?.getD [])]) 0
  else if name.is "dirname" then printing process (lines (operands.map directoryName)) 0
  else if name.is "chmod" then changing (changeMode process operands)
  else if name.is "id" then
    printing process [] (if operands.all fun operand => operand.is "root" then 0 else 1)
  else if name.is "date" then
    let isFormat := fun (operand : Text) => decide (operand.head? = some (CodePoint.ofChar '+'))
    printing process [] (if operands.all isFormat then 0 else 1)
  else if name.is "sync" then
    printing process []
      (if operands.all fun path => (process.files.entryAt path).toOption.isSome then 0 else 1)
  else if name.is "tty" then printing process [] 1
  else if name.is "head" then
    showing process (Line.part? (CodePoint.ofChar '-') arguments) Line.first
  else if name.is "tail" then
    showing process (Line.part? (CodePoint.ofChar '+') arguments) Line.last
  else if name.is "wc" then
    let (counts, code) := countings process options
    printing process counts code
  else if name.is "sort" then
    let operands := if operands.isEmpty then [("-" : Text)] else operands
    match operands.mapM (contentOf process) with
    | .error _ => printing process [] 2
    | .ok contents =>
      let lines := Line.sorted (options.has 'n' "numeric-sort") (options.has 'r' "reverse")
        (options.has 'u' "unique") (contents.flatMap Line.ofBytes)
      printing process lines.flatten 0
  else if name.is "uniq" then uniq process options
  else if name.is "expr" then
    let arguments := if arguments.head? = some ("--" : Text) then arguments.drop 1 else arguments
    let result := Expression.evaluate arguments
    printing process (lines result.toOption.toList) (Expression.code result)
  else if name.is "seq" then
    match Expression.sequence? arguments with
    | some numbers => printing process (lines (numbers.map Text.ofInt)) 0
    | none => printing process [] 1
  else none

/-- The programs whose options have a form of their own, and that tell about
themselves. -/
def tellingNames : List String := ["head", "tail", "seq", "expr"]

/-- The arguments with a mode that looks like an option written out. -/
def withModes (arguments : List Text) : List Text :=
  arguments.map fun argument => match argument with
    | dash :: letter :: rights =>
      if dash.val = 0x2D && (letter :: rights).all fun point => ("rwxXst" : Text).contains point
      then CodePoint.ofChar 'a' :: argument
      else argument
    | _ => argument

/-- What a program does, by its name and its arguments; none if there is no such
program.  A program with a usage tells about itself if it is asked to, and refuses
arguments that are not in order. -/
def run? (name : Text) (process : Process) (arguments : List Text) : Option Completion :=
  let arguments := if name.is "chmod" then withModes arguments else arguments
  match Usage.of? name with
  | none =>
    if tellingNames.any name.is && (options arguments).asksAbout then printing process [] 0
    else perform? name process arguments
  | some usage =>
    let options := options arguments
    if options.asksAbout then printing process [] 0
    else if usage.admits options then perform? name process arguments
    else printing process [] usage.refusal

end Program

end Shell

end Heartbeat
