import Dossier.Store.Walk
import Dossier.Text.Order

/-!
# Calls on the store

What a program can ask a file system to do, each call at a path seen from a
location.  A call that is refused changes nothing.  Looking, reading and
writing go through a link at the end of the path; making a directory, removing
a file and removing a tree do not.
-/

namespace Dossier.Store

/-! ## Looking -/

/-- What lies where a path leads. -/
def stat (s : Store) (here : Location) (p : Path) : Except Errno (Location × Entry) :=
  match s.find here p true with
  | .ok (.taken l e) => .ok (l, e)
  | .ok (.free _) => .error .noEntry
  | .error e => .error e

/-- A refusal that only says that there is nothing. -/
def isAbsence : Errno → Bool
  | .noEntry | .notDirectory | .linkLoop => true
  | _ => false

/-- The answer to a question about what lies where a path leads.  Where there
is nothing the answer is no; other refusals are passed on. -/
def ask (s : Store) (here : Location) (p : Path) (question : Entry → Bool) : Except Errno Bool :=
  if p.holdsNul then .ok false
  else match s.stat here p with
    | .ok (_, e) => .ok (question e)
    | .error e => if isAbsence e then .ok false else .error e

/-- Something lies where a path leads. -/
def hasEntry (s : Store) (here : Location) (p : Path) : Except Errno Bool :=
  s.ask here p fun _ => true

/-- A directory lies where a path leads. -/
def hasDirectory (s : Store) (here : Location) (p : Path) : Except Errno Bool :=
  s.ask here p Entry.isDirectory

/-- The size of what lies where a path leads. -/
def sizeAt (s : Store) (here : Location) (p : Path) : Except Errno Nat :=
  (s.stat here p).map fun found => found.2.size

/-! ## Reading and writing -/

/-- The bytes of the file where a path leads. -/
def read (s : Store) (here : Location) (p : Path) : Except Errno Bytes :=
  match s.stat here p with
  | .ok (_, .file content) => .ok content.bytes
  | .ok (_, .directory) => .error .isDirectory
  | .ok (_, .link _) => .error .linkLoop
  | .error e => .error e

/-- Where a file lies that is opened to be written, given the path to it: where
one is already, or where nothing is yet. -/
def placeToWrite (s : Store) (here : Location) (p : Path) : Except Errno Location :=
  match s.find here p true with
  | .ok (.taken _ .directory) => .error .isDirectory
  | .ok (.taken l _) => .ok l
  | .ok (.free l) => .ok l
  | .error e => .error e

/-- A store with a file of the given contents where a path leads, in place of
any that was there. -/
def write (s : Store) (here : Location) (p : Path) (content : Content) : Except Errno Store :=
  (s.placeToWrite here p).map fun l => s.put l (.file content)

/-! ## Making and removing -/

/-- A store with a new directory where a path leads. -/
def makeDirectory (s : Store) (here : Location) (p : Path) : Except Errno Store :=
  match s.find here p false with
  | .ok (.taken _ _) => .error .exists
  | .ok (.free l) => .ok (s.put l .directory)
  | .error e => .error e

/-- What is left of a refusal to make a directory: nothing if one is there. -/
def unlessThere (s : Store) (here : Location) (p : Path) (e : Errno) : Option (Errno × Path) :=
  match s.hasDirectory here p with
  | .ok true => none
  | .ok false => some (e, p)
  | .error e => some (e, p)

/-- Makes a directory unless one is there. -/
def ensureDirectory (s : Store) (here : Location) (p : Path) : Store × Option (Errno × Path) :=
  match s.makeDirectory here p with
  | .ok made => (made, none)
  | .error .noEntry => (s, some (.noEntry, p))
  | .error e => (s, s.unlessThere here p e)

/-- Makes a directory unless one is there, after up to `depth` of those above
it that are missing.  What was made before a refusal stays. -/
def ensureUpTo (s : Store) (here : Location) : Nat → Path → Store × Option (Errno × Path)
  | 0, p => s.ensureDirectory here p
  | depth + 1, p =>
    match s.makeDirectory here p with
    | .error .noEntry =>
      match ensureUpTo s here depth p.parent with
      | (made, none) => made.ensureDirectory here p
      | refused => refused
    | _ => s.ensureDirectory here p

/-- Makes a directory and those above it that are missing. -/
def ensureDirectories (s : Store) (here : Location) (p : Path) : Store × Option (Errno × Path) :=
  s.ensureUpTo here p.parts.length p

/-- A store without the file or link where a path leads. -/
def unlink (s : Store) (here : Location) (p : Path) : Except Errno Store :=
  match s.find here p false with
  | .ok (.taken _ .directory) => .error .isDirectory
  | .ok (.taken l _) => .ok (s.erase l)
  | .ok (.free _) => .error .noEntry
  | .error e => .error e

/-- Why a tree is not removed. -/
inductive TreeFault
  /-- A call is refused. -/
  | refused (e : Errno)
  /-- The tree is behind a link. -/
  | link
deriving DecidableEq, Repr

/-- Where names are followed from if what they start at may be gone: two dots still lead up from
there, and nothing else does. -/
def climb (s : Store) : Location → List String → Location × List String
  | here, [] => (here, [])
  | here, name :: rest =>
    if s.get? here = none ∧ name = ".." then climb s here.dropLast rest else (here, name :: rest)
termination_by structural _ names => names

/-- Where a path leads, not through a link at its end, if what it starts at may be gone. -/
def retrace (s : Store) (here : Location) (p : Path) : Except Errno Spot :=
  if maxPath ≤ p.text.utf8ByteSize then .error .nameTooLong
  else
    let climbed := s.climb (startOf here p) p.parts
    s.walk false maxLinks climbed.1 climbed.2

/-- Removes the directory that a path leads to, after what it holds.  Its path is
followed once more when it is empty.  A path that came through what it held, by
way of two dots or a link, leads nowhere then, and so does one that ends in two
dots; the directory stays in place, but it is empty. -/
def removeTree (s : Store) (here : Location) (p : Path) : Store × Option TreeFault :=
  match s.find here p false with
  | .error e => (s, some (.refused e))
  | .ok (.free _) => (s, some (.refused .noEntry))
  | .ok (.taken _ (.link _)) => (s, some .link)
  | .ok (.taken _ (.file _)) => (s, some (.refused .notDirectory))
  | .ok (.taken l .directory) =>
    let emptied := s.eraseBelow l
    match emptied.retrace here p with
    | .error e => (emptied, some (.refused e))
    | .ok _ =>
      if p.name = ".." then (emptied, some (.refused .notEmpty)) else (s.eraseTree l, none)

/-! ## Listing -/

/-- The order of locations, compared name by name. -/
def locationLE (a b : Location) : Bool := Text.listLE Text.nameLE a b

/-- The contents of the file at a location, directly or through a link. -/
def contentAt? (s : Store) (l : Location) : Option Content :=
  match s.walk true maxLinks [] l with
  | .ok (.taken _ (.file content)) => some content
  | _ => none

/-- The locations of everything below a directory. -/
def below (s : Store) (directory : Location) : List Location :=
  (s.entries.filter fun x => directory.isPrefixOf x.1 && x.1 != directory).map (·.1)

/-- Puts a file among files that are in order. -/
def insertFile (file : Location × Content) :
    List (Location × Content) → List (Location × Content)
  | [] => [file]
  | first :: rest =>
    if locationLE file.1 first.1 then file :: first :: rest else first :: insertFile file rest

/-- Puts files in order. -/
def sortFiles (files : List (Location × Content)) : List (Location × Content) :=
  files.foldr insertFile []

/-- The names below a directory that lead to files, with their contents, in
order.  Directories behind links are not entered. -/
def filesBelow (s : Store) (directory : Location) : List (Location × Content) :=
  sortFiles <| (s.below directory).filterMap fun l =>
    (s.contentAt? l).map fun content => (l.drop directory.length, content)

/-- Why a listing cannot ask what lies below a directory, other than for leading
nowhere: the path to it, from the one that the directory was given by, is too
long, or it is a link that leads to a name too long. -/
def obstacleAt? (s : Store) (directory : Path) (place l : Location) : Option Errno :=
  if maxPath ≤ (directory.extend (l.drop place.length)).text.utf8ByteSize then some .nameTooLong
  else match s.walk true maxLinks [] l with
    | .error e => if isAbsence e then none else some e
    | .ok _ => none

/-- Everything below a directory that is an obstacle to a listing. -/
def obstacles (s : Store) (directory : Path) (place : Location) : List (Location × Errno) :=
  (s.below place).filterMap fun l => (s.obstacleAt? directory place l).map (l, ·)

/-- Of two obstacles the one that a listing comes to first.  It comes to the names
in a directory before those in the directories there. -/
def earlier (a b : Location × Errno) : Location × Errno :=
  if locationLE a.1.dropLast b.1.dropLast then a else b

/-- The first obstacle to a listing of a directory, with the path to it.  The
directory is given by a path and by the location where that leads. -/
def obstacle? (s : Store) (directory : Path) (place : Location) : Option (Path × Errno) :=
  match s.obstacles directory place with
  | [] => none
  | o :: rest =>
    let first := rest.foldl earlier o
    some (directory.extend (first.1.drop place.length), first.2)

end Dossier.Store
