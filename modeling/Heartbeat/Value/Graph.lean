import Heartbeat.Record.Encode

/-!
# Containers that are shared

A value is a tree and does not say whether two of its containers are one.  A graph
does: its containers are numbered, and in a place of a container there is something
simple or, by its number, a container.  So a container may stand in several places,
and it may stand inside itself.

A graph is written from one of its places on.  The containers that are being written
are kept in mind from the moment they are entered until they are left.  Entering one
of them again is an offence, whereas a container that was left may be entered again.
-/

namespace Heartbeat

set_option autoImplicit false

/-- Whether a value stands for itself, and is neither a container for the format nor a
reference to one. -/
def Value.isSimple : Value → Bool
  | .list _ | .tuple _ | .dict _ | .enclosing _ => false
  | _ => true

/-- What stands in a place of a graph with the given number of containers. -/
inductive Part (size : Nat) where
  | simple (value : Value) (stands : value.isSimple = true)
  | container (number : Fin size)

/-- A container.  The keys of a dictionary are looked at, but not into. -/
inductive Container (size : Nat) where
  | list (items : List (Part size))
  | tuple (items : List (Part size))
  | dict (entries : List (Value × Part size))

/-- Containers by their numbers. -/
structure ValueGraph (size : Nat) where
  container : Fin size → Container size

namespace ValueGraph

variable {size : Nat}

/-! ## Writing -/

/-- Something that keeps in mind which containers are being written, and may come upon
an offence. -/
abbrev Writing (size : Nat) (result : Type) := StateT (List (Fin size)) (Except Offence) result

/-- Enters a container, unless it is being written. -/
def enter (number : Fin size) : Writing size Unit := do
  if (← get).contains number then throw .circular
  modify fun opened => number :: opened

/-- Leaves a container. -/
def leave (number : Fin size) : Writing size Unit :=
  modify fun opened => opened.erase number

/-- The document of what stands in a place; `left` says how many more containers may be
entered inside each other. -/
def write (graph : ValueGraph size) : Nat → Part size → Writing size Json
  | _, .simple value _ => liftM (value.toJsonAt 0)
  | 0, .container _ => throw .tooDeep
  | left + 1, .container number => do
    enter number
    let document ← match graph.container number with
      | .list items => Json.array <$> items.mapM (write graph left)
      | .tuple items => Json.array <$> items.mapM (write graph left)
      | .dict entries => Json.object <$> entries.mapM fun (key, part) => do
        let name ← liftM key.keyName
        let document ← write graph left part
        return (name, document)
    leave number
    return document

/-- The document of what stands in a place, nothing being written yet. -/
def toJson (graph : ValueGraph size) (part : Part size) : Except Offence Json :=
  (graph.write depthBound part).run' []

/-- The canonical form of what stands in a place. -/
def encode (graph : ValueGraph size) (part : Part size) : Except Failure Bytes :=
  match graph.toJson part with
  | .error offence => .error (Record.reported (.unwritable offence))
  | .ok document =>
    match document.render.encode with
    | .ok bytes => .ok bytes
    | .error run => .error (.surrogates run)

end ValueGraph

end Heartbeat
