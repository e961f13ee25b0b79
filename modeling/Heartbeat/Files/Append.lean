import Heartbeat.Files.Tree
import Heartbeat.Value.Display

/-!
# Files opened for appending

The metrics file is opened so that everything written goes to its end.  Its
directory is made first, with the missing directories above it.  What is written
waits in the handle until it is flushed, or until it no longer fits; closing
flushes what is left, and the handle is closed even if that fails.
-/

namespace Heartbeat

set_option autoImplicit false

/-- A file that was opened for appending. -/
structure FileHandle where
  /-- The path by which it was opened. -/
  name : Text
  location : Location
  pending : Bytes
  closed : Bool

namespace FileTree

/-- The text of the path that a value is.  An outcome is taken in its plain form. -/
def pathText (value : Value) : Except Failure Text :=
  match value with
  | .text path => .ok path
  | .status _ => value.plain
  | other => .error (.notAnArgument other.className)

/-- Opens the file at a path for appending; a missing file is made empty. -/
def openAt (tree : FileTree) (path : Path) : Except Failure FileHandle × FileTree :=
  match Path.checkText path.toText with
  | .error failure => (.error failure, tree)
  | .ok () =>
    match tree.locate path with
    | .error fault => (.error (.file fault path.toText), tree)
    | .ok (_, none) => (.error (.file .isADirectory path.toText), tree)
    | .ok (directory, some name) =>
      let location := directory ++ [name]
      let handle : FileHandle := ⟨path.toText, location, [], false⟩
      match tree.lookup? location with
      | some .directory => (.error (.file .isADirectory path.toText), tree)
      | some _ => (.ok handle, tree)
      | none => (.ok handle, tree.put location (.file []))

/-- Opens the metrics file that a value names: the tilde is replaced, the directory
is made, and the file is opened. -/
def openMetricsFile (homes : Homes) (tree : FileTree) (value : Value) :
    Except Failure FileHandle × FileTree :=
  match do (Path.ofText (← pathText value)).expandHome homes with
  | .error failure => (.error failure, tree)
  | .ok path =>
    match tree.makeDirectories path.slashes path.parent.names.reverse with
    | (.error failure, tree) => (.error failure, tree)
    | (.ok (), tree) => tree.openAt path

/-- Bytes given to what is at a location. -/
def emit (tree : FileTree) (location : Location) (data : Bytes) :
    Except Failure Unit × FileTree :=
  match tree.lookup? location with
  | some (.device .full) => if data.isEmpty then (.ok (), tree) else (.error .deviceFull, tree)
  | _ => (.ok (), tree.appendTo location data)

end FileTree

namespace FileHandle

/-- How many bytes may wait in a handle. -/
def capacity : Nat := 4096

/-- Passes on the bytes that wait. -/
def flush (handle : FileHandle) (tree : FileTree) :
    Except Failure Unit × FileHandle × FileTree :=
  match tree.emit handle.location handle.pending with
  | (.ok (), tree) => (.ok (), { handle with pending := [] }, tree)
  | (.error failure, tree) => (.error failure, handle, tree)

/-- Takes bytes.  They wait if there is room for them; otherwise those that wait go
first, and what would never fit is passed on at once. -/
def write (handle : FileHandle) (tree : FileTree) (data : Bytes) :
    Except Failure Unit × FileHandle × FileTree :=
  if handle.closed then (.error .closedFile, handle, tree)
  else if handle.pending.length + data.length ≤ capacity then
    (.ok (), { handle with pending := handle.pending ++ data }, tree)
  else match handle.flush tree with
    | (.error failure, handle, tree) => (.error failure, handle, tree)
    | (.ok (), handle, tree) =>
      if capacity < data.length then
        let (result, tree) := tree.emit handle.location data
        (result, handle, tree)
      else (.ok (), { handle with pending := data }, tree)

/-- Closes a handle, passing on what waits.  A closed handle stays as it is. -/
def close (handle : FileHandle) (tree : FileTree) :
    Except Failure Unit × FileHandle × FileTree :=
  if handle.closed then (.ok (), handle, tree)
  else
    let (result, handle, tree) := handle.flush tree
    (result, { handle with pending := [], closed := true }, tree)

end FileHandle

end Heartbeat
