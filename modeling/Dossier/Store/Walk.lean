import Dossier.Store.Basic
import Dossier.Store.Path

/-!
# Where a path leads

A path is followed name by name from where it starts.  Every name but the last
has to lead to a directory, two dots lead to the directory above, and a link
leads to wherever its own target leads from the directory it lies in.  At most
forty links are followed.  The end is a *spot*: a location where something
lies, or a free one in a directory.

`stride` goes as far as the next link, by recursion on the names, and `walk`
joins strides, by recursion on the links still allowed.  In a store without
links a walk is one stride.
-/

namespace Dossier

/-- Why the system refuses a call. -/
inductive Errno
  | noEntry
  | denied
  | exists
  | notDirectory
  | isDirectory
  | nameTooLong
  | notEmpty
  | linkLoop
deriving DecidableEq, Repr

/-- The number of a refusal. -/
def Errno.code : Errno → Nat
  | .noEntry => 2
  | .denied => 13
  | .exists => 17
  | .notDirectory => 20
  | .isDirectory => 21
  | .nameTooLong => 36
  | .notEmpty => 39
  | .linkLoop => 40

/-- The text of a refusal. -/
def Errno.text : Errno → String
  | .noEntry => "No such file or directory"
  | .denied => "Permission denied"
  | .exists => "File exists"
  | .notDirectory => "Not a directory"
  | .isDirectory => "Is a directory"
  | .nameTooLong => "File name too long"
  | .notEmpty => "Directory not empty"
  | .linkLoop => "Too many levels of symbolic links"

/-- Where a path leads. -/
inductive Spot
  /-- To a location with something at it. -/
  | taken (l : Location) (e : Entry)
  /-- To a free location in a directory. -/
  | free (l : Location)
deriving DecidableEq, Repr

namespace Store

/-- The most bytes a name may have. -/
def maxName : Nat := 255

/-- The bytes a path may not reach. -/
def maxPath : Nat := 4096

/-- The most links a path may lead through. -/
def maxLinks : Nat := 40

/-! ## Between links -/

/-- How a stride ends. -/
inductive Stride
  /-- The names are used up. -/
  | arrived (spot : Spot)
  /-- A link lies in the way: its directory, its target and the names after
  it. -/
  | detour (here : Location) (target : String) (rest : List String)
  /-- There is no way on. -/
  | refused (e : Errno)
deriving DecidableEq, Repr

/-- Follows names from a location as far as the next link.  A link at the very
end is only followed if `follow` says so. -/
def stride (s : Store) (follow : Bool) : Location → List String → Stride
  | here, [] =>
    match s.get? here with
    | some e => .arrived (.taken here e)
    | none => .refused .noEntry
  | here, name :: rest =>
    match s.get? here with
    | some .directory =>
      if name = ".." then stride s follow here.dropLast rest
      else if maxName < name.utf8ByteSize then .refused .nameTooLong
      else
        match s.get? (here ++ [name]) with
        | none => if rest = [] then .arrived (.free (here ++ [name])) else .refused .noEntry
        | some (.link target) =>
          if rest = [] ∧ follow = false then .arrived (.taken (here ++ [name]) (.link target))
          else .detour here target rest
        | some _ => stride s follow (here ++ [name]) rest
    | some _ => .refused .notDirectory
    | none => .refused .noEntry
termination_by structural _ names => names

/-! ## Through links -/

/-- Follows names from a location through at most so many links. -/
def walk (s : Store) (follow : Bool) : Nat → Location → List String → Except Errno Spot
  | links, here, names =>
    match s.stride follow here names with
    | .arrived spot => .ok spot
    | .refused e => .error e
    | .detour there target rest =>
      match links with
      | 0 => .error .linkLoop
      | links + 1 =>
        let path := Path.ofString target
        let start := if path.anchor = .relative then there else []
        walk s follow links start (path.parts ++ rest)

/-- The location a path starts from. -/
def startOf (here : Location) (p : Path) : Location := if p.anchor = .relative then here else []

/-- Where a path leads from a location, through a link at its end or not. -/
def find (s : Store) (here : Location) (p : Path) (follow : Bool) : Except Errno Spot :=
  if maxPath ≤ p.text.utf8ByteSize then .error .nameTooLong
  else s.walk follow maxLinks (startOf here p) p.parts

/-! ## Without asking what is there -/

/-- The location that a name leads to if nothing is a link. -/
def step (here : Location) (name : String) : Location :=
  if name = ".." then here.dropLast else here ++ [name]

/-- The location that names lead to, each link replaced by what it leads to and
what is missing taken as it is written.  `opened` holds the links that are
being replaced, and `depth` bounds how many more there can be.  A link met
again while it is open leads in a circle: it and the names after it are then
taken as they are written, and the location comes as an error. -/
def expand (s : Store) : Nat → List Location → Location → List String → Except Location Location
  | 0, _, here, names => .error (names.foldl step here)
  | depth + 1, opened, here, names =>
    names.foldl (fun reached name =>
      match reached with
      | .error l => .error (step l name)
      | .ok here =>
        if name = ".." then .ok here.dropLast
        else match s.get? (here ++ [name]) with
          | some (.link target) =>
            if opened.contains (here ++ [name]) then .error (here ++ [name])
            else
              let path := Path.ofString target
              expand s depth ((here ++ [name]) :: opened) (startOf here path) path.parts
          | _ => .ok (here ++ [name])) (.ok here)

/-- The number of links in a store. -/
def linkCount (s : Store) : Nat :=
  s.entries.countP fun x => match x.2 with | .link _ => true | _ => false

/-- The location a path stands for from a location.  If links lead in a circle
it comes as an error, unless the names after them lead out of it again. -/
def resolve (s : Store) (here : Location) (p : Path) : Except Location Location :=
  match s.expand (s.linkCount + 1) [] (startOf here p) p.parts with
  | .ok l => .ok l
  | .error l =>
    match s.walk true maxLinks [] l with
    | .error .linkLoop => .error l
    | _ => .ok l

end Store

/-- The path that names a location from the root. -/
def Location.path (l : Location) : Path := ⟨.root, l⟩

end Dossier
