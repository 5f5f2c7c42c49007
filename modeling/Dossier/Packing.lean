import Dossier.Disk

/-!
# Packing

A directory is packed into an archive beside it, named after it.  The members
are the files below the directory, links to files among them, in the order of
their paths compared name by name; each is called by its path from the parent
of the directory.  What is no directory gives an archive without members.

The files are listed first.  Then the archive is opened, which empties one that
was there before, and the files are added to it one by one.  A file cannot be
added if it may not be opened or if its date does not go into an archive.  This
ends the packing, and the archive has the members that were added until then.
-/

namespace Dossier.Packing

/-- The archive beside a directory. -/
def archivePath (directory : Path) : Path := directory.sibling (directory.name ++ ".zip")

/-- The name of a member of the archive of a directory, given where it lies
below the directory. -/
def memberName (directory : Path) (below : Location) : String :=
  "/".intercalate ((if directory.name = "" then [] else [directory.name]) ++ below)

/-- The member that a file below a directory becomes. -/
def member (directory : Path) (file : Location × Content) : Archive.Member :=
  ⟨memberName directory file.1, file.2.bytes, .deflated⟩

/-- The members of the archive of a directory, given the files below it. -/
def members (directory : Path) (files : List (Location × Content)) : List Archive.Member :=
  files.map (member directory)

/-- Where the directory lies that a path leads to, if it is one. -/
def place? (s : Store) (here : Location) (directory : Path) : Except Errno (Option Location) :=
  if directory.holdsNul then .ok none
  else match s.stat here directory with
    | .ok (l, .directory) => .ok (some l)
    | .ok _ => .ok none
    | .error e => if Store.isAbsence e then .ok none else .error e

/-- The files below the directory where a path leads, none if it is no
directory. -/
def filesOf (directory : Path) : Act (List (Location × Content)) := do
  let place ← Disk.look directory place?
  let store := (← get).store
  match place with
  | none => return []
  | some l =>
    match store.obstacle? directory l with
    | some (path, e) => throw (Disk.refused e path)
    | none => return store.filesBelow l

/-- What keeps a file from being added to an archive, if anything does, given
the path to it.  A date that is too early is met before the file is opened, and
one that is too late when its record is written. -/
def snag? (machine : Machine) (file : Path) : Option Fault :=
  if machine.year file < Archive.firstYear then some (.date .early)
  else match machine.bar? file with
    | some e => some (Disk.refused e file)
    | none => if Archive.lastYear < machine.year file then some (.date .late) else none

/-- Adds files below a directory to its archive, which is open at a place and
has members already.  Gives the members it has then. -/
def addAll (directory : Path) (place : Location) :
    List Archive.Member → List (Location × Content) → Act (List Archive.Member)
  | made, [] => return made
  | made, file :: rest => do
    let env ← Act.environment
    Disk.failIf (snag? env.toMachine (directory.extend file.1))
    Disk.writeAt place (.archive (made ++ [member directory file]))
    addAll directory place (made ++ [member directory file]) rest

/-- Packs a directory and gives the path of its archive. -/
def pack (directory : Path) : Act Path := do
  let path := archivePath directory
  let packed ← Disk.during (.createArchive path) do
    let files ← filesOf directory
    let place ← Disk.create path (.archive [])
    addAll directory place [] files
  Act.note (.archived path packed.length (Archive.encode packed).length)
  return path

/-! ## Tests -/

example : (archivePath (Path.ofString "output/quiz.v2")).text = "output/quiz.v2.zip" := by
  decide +kernel
example : memberName (Path.ofString "output/quiz") ["a", "b.txt"] = "quiz/a/b.txt" := by
  decide +kernel

end Dossier.Packing
