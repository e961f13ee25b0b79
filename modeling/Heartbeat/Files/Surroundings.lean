import Heartbeat.Files.Tree

/-!
# The surroundings of a working directory

A working directory does not stand alone: above it are the directories that every
system has, the programs, and the two devices.  Accounts other than that of the system's
owner are not known.
-/

namespace Heartbeat

set_option autoImplicit false

namespace FileTree

/-- The directories that every system has. -/
def standardDirectories : List Text :=
  ["bin", "dev", "etc", "home", "lib", "opt", "proc", "root", "run", "sbin", "srv", "sys", "tmp",
    "usr", "var"]

/-- The directories below the one for users. -/
def userDirectories : List Location :=
  [["bin"], ["sbin"], ["lib"], ["share"], ["local"], [("local" : Text), "bin"],
    [("local" : Text), "sbin"]]

/-- Where the working directory is. -/
def workplace : Location := ["tmp", "work"]

/-- Where programs are. -/
def programDirectories : List Location :=
  [["bin"], [("usr" : Text), "bin"]]

/-- The programs that a system has. -/
def programNames : List String :=
  ["sh", "dash", "bash", "env", "nice", "nohup", "timeout", "true", "false", "echo", "printf",
    "test", "[", "expr", "seq", "mkdir", "rmdir", "touch", "rm", "cp", "mv", "cat", "ls", "dir",
    "vdir", "tee", "head", "tail", "wc", "sort", "uniq", "sleep", "pwd", "printenv", "basename",
    "dirname", "chmod", "chown", "id", "whoami", "uname", "hostname", "nproc", "date", "sync",
    "tty", "clear"]

/-- The bytes with which a program begins. -/
def programMark : Bytes := [0x7F, 0x45, 0x4C, 0x46]

/-- The content of a program, which is known by its name. -/
def programContent (name : Text) : Bytes := programMark ++ name.bytes

/-- The name of the program that a content is, if it is one. -/
def programName? (content : Bytes) : Option Text :=
  if programMark.isPrefixOf content then Bytes.decode? (content.drop programMark.length)
  else none

/-- Where each program is, with its name. -/
def programPlaces : List (Location × Text) :=
  programDirectories.flatMap fun directory =>
    programNames.map fun name => (directory ++ [Text.ofString name], Text.ofString name)

/-- The system before anything is put into the working directory. -/
def bare : FileTree where
  entries := standardDirectories.map (fun name => ([name], FileEntry.directory))
    ++ userDirectories.map (fun names => (("usr" : Text) :: names, FileEntry.directory))
    ++ programPlaces.map (fun (place, name) => (place, FileEntry.file (programContent name)))
    ++ [(([("dev" : Text), "null"] : Location), FileEntry.device .null),
      (([("dev" : Text), "full"] : Location), FileEntry.device .full),
      (workplace, FileEntry.directory)]
  workingDirectory := workplace
  executables := programPlaces.map Prod.fst

end FileTree

namespace Homes

/-- The homes when only the owner's account is known beside the caller's own
home. -/
def standard (own : Text) : Homes := ⟨own, [("root", "/root")]⟩

/-- The homes in an environment, which says where the caller's own home is; it is
elsewhere if the environment does not say so. -/
def ofEnvironment (environment : List (Text × Text)) (elsewhere : Text) : Homes :=
  standard (((environment.reverse.find? fun (name, _) => name.is "HOME").map Prod.snd).getD
    elsewhere)

end Homes

end Heartbeat
