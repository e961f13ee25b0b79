import Heartbeat.Files.Tree

/-!
# Changing the tree of files

Beside being appended to, files are made, emptied, removed, copied and moved.  A
directory is removed and moved together with everything below it.

A path that ends with a slash or with the name of the directory itself can only lead
to a directory.
-/

namespace Heartbeat

set_option autoImplicit false

namespace FileTree

/-! ## Finding -/

/-- Whether the text of a path ends in such a way that it has to be a directory. -/
def wantsDirectory (text : Text) : Bool :=
  match (Text.split Path.slash text).getLast? with
  | some name => text.contains Path.slash && (name.isEmpty || decide (name = Path.here))
  | none => false

/-- The place of the entry that a path leads to, which may be missing. -/
def place (tree : FileTree) (text : Text) : Except FileFault Location :=
  if text.isEmpty then .error .notFound
  else match tree.locate (Path.ofText text) with
    | .error fault => .error fault
    | .ok (directory, none) => .ok directory
    | .ok (directory, some name) => .ok (directory ++ [name])

/-- The entry that a path leads to, with its place. -/
def entryAt (tree : FileTree) (text : Text) : Except FileFault (Location × FileEntry) := do
  let location ← tree.place text
  match tree.lookup? location with
  | none => throw .notFound
  | some entry =>
    if wantsDirectory text ∧ entry ≠ .directory then throw .notADirectory
    else return (location, entry)

/-- The names directly below a directory, in ascending order. -/
def names (tree : FileTree) (directory : Location) : List Text :=
  let found := tree.entries.filterMap fun (location, _) =>
    match below? directory location with
    | some [name] => some name
    | _ => none
  found.mergeSort fun left right => !List.lex right left fun a b => decide (a.val < b.val)

/-! ## Changing -/

/-- The tree without the entry at a location and everything below it. -/
def remove (tree : FileTree) (location : Location) : FileTree :=
  { tree with
    entries := tree.entries.filter fun (place, _) => !location.isPrefixOf place
    executables := tree.executables.filter fun place => !location.isPrefixOf place }

/-- The tree with the file at a location executable or not. -/
def setExecutable (tree : FileTree) (location : Location) (executable : Bool) : FileTree :=
  let others := tree.executables.filter fun place => decide (place ≠ location)
  { tree with executables := if executable then location :: others else others }

/-- The tree with an empty file at a path, whatever the file had before; the location
of the file is returned. -/
def truncate (tree : FileTree) (text : Text) : Except FileFault (Location × FileTree) := do
  let location ← tree.place text
  match tree.lookup? location with
  | some .directory => throw .isADirectory
  | some (.device _) => return (location, tree)
  | some (.file _) =>
    if wantsDirectory text then throw .notADirectory
    else return (location, tree.put location (.file []))
  | none =>
    if wantsDirectory text then throw .isADirectory
    else return (location, tree.put location (.file []))

/-- The tree with a file at a path, its content kept if it is there. -/
def touch (tree : FileTree) (text : Text) : Except FileFault (Location × FileTree) := do
  let location ← tree.place text
  match tree.lookup? location with
  | none => tree.truncate text
  | some .directory => throw .isADirectory
  | some _ => if wantsDirectory text then throw .notADirectory else return (location, tree)

/-- The tree with copies of an entry, and of everything below it, at another
location. -/
def copy (tree : FileTree) (source destination : Location) : FileTree :=
  let copied := tree.entries.filter fun (place, _) => source.isPrefixOf place
  copied.foldl
    (fun (left : FileTree) (place, entry) =>
      let target := destination ++ place.drop source.length
      (left.put target entry).setExecutable target (tree.isExecutable place))
    tree

end FileTree

end Heartbeat
