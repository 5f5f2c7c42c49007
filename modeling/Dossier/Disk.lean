import Dossier.Act

/-!
# Calls on the store, as acts

Each act makes one call on the store at a path seen from where the program
runs.  A path with the character that no path may hold is refused before the
store is asked; a refusal of the store is a fault of the system.  `during`
renames such a fault to one that names what the program was doing.
-/

namespace Dossier.Disk

/-- A refused call as a fault. -/
def refused (e : Errno) (p : Path) : Fault := .system (.refused e p)

/-- A fault of the system as one of a task. -/
def asTask (task : StorageTask) : Fault → Fault
  | .system fault => .storage task (.system fault)
  | fault => fault

/-- An act on the store that is part of a task. -/
def during {α : Type} (task : StorageTask) (act : Act α) : Act α := act.mapFault (asTask task)

/-- Refuses a path that holds the character no path may hold. -/
def checkPath (p : Path) : Act Unit := if p.holdsNul then throw .nul else pure ()

/-! ## Looking -/

/-- Asks the store about a path. -/
def look {α : Type} (p : Path) (question : Store → Location → Path → Except Errno α) : Act α := do
  let env ← Act.environment
  let s ← get
  Act.ofExcept (refused · p) (question s.store env.here p)

/-- The size of what lies where a path leads. -/
def size (p : Path) : Act Nat := do
  checkPath p
  look p Store.sizeAt

/-- The bytes of the file where a path leads. -/
def read (p : Path) : Act Bytes := do
  checkPath p
  look p Store.read

/-! ## Changing -/

/-- Changes the store at a path. -/
def change (p : Path) (call : Store → Location → Path → Except Errno Store) : Act Unit := do
  checkPath p
  let changed ← look p call
  modify fun s => { s with store := changed }

/-- Writes a file. -/
def write (p : Path) (content : Content) : Act Unit :=
  change p fun store here p => store.write here p content

/-- Writes to a file that is open, given where it lies. -/
def writeAt (place : Location) (content : Content) : Act Unit :=
  modify fun s => { s with store := s.store.put place (.file content) }

/-- Opens a file to write it anew, so that nothing is left of what it held, and
gives its place. -/
def create (p : Path) (content : Content) : Act Location := do
  checkPath p
  let place ← look p Store.placeToWrite
  writeAt place content
  return place

/-- Removes a file. -/
def unlink (p : Path) : Act Unit := change p Store.unlink

/-- Removes a file unless there is none. -/
def unlinkIfThere (p : Path) : Act Unit :=
  (unlink p).rescue fun
    | .system (.refused .noEntry _) => pure ()
    | fault => throw fault

/-- Fails if there is a fault. -/
def failIf : Option Fault → Act Unit
  | some fault => throw fault
  | none => pure ()

/-- Changes the store at a path, as far as a call goes before it is refused. -/
def changeUntil (p : Path) (call : Store → Location → Path → Store × Option Fault) :
    Act Unit := do
  checkPath p
  let env ← Act.environment
  let s ← get
  let changed := call s.store env.here p
  set { s with store := changed.1 }
  failIf changed.2

/-- Makes a directory and those above it that are missing. -/
def ensureDirectories (p : Path) : Act Unit :=
  changeUntil p fun store here p =>
    let made := store.ensureDirectories here p
    (made.1, made.2.map fun refusal => refused refusal.1 refusal.2)

/-- Makes the directory that a file is to lie in. -/
def ensureParent (file : Path) : Act Unit :=
  during (.createDirectory file.parent) (ensureDirectories file.parent)

/-- A tree that is not removed, as a fault. -/
def ofTreeFault (p : Path) : Store.TreeFault → Fault
  | .refused e => refused e p
  | .link => .system .linkedTree

/-- Removes a directory and everything in it. -/
def removeTree (p : Path) : Act Unit :=
  changeUntil p fun store here p =>
    let removed := store.removeTree here p
    (removed.1, removed.2.map (ofTreeFault p))

end Dossier.Disk
