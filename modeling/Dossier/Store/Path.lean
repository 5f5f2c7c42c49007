import Dossier.Text.Blank

/-!
# Paths

A path is written as parts with `/` between them.  Empty parts and parts that
are a single dot are dropped when it is read; two dots are kept, for what they
lead to depends on links.  A path starts at the root, or at two slashes, which
some systems treat apart, or where the program runs.

Paths are compared as they are written.  Where a path leads is a matter for
the store.
-/

namespace Dossier

/-- Where a path starts. -/
inductive Anchor
  /-- Where the program runs. -/
  | relative
  /-- At the root. -/
  | root
  /-- At two slashes. -/
  | doubleRoot
deriving DecidableEq, Repr

/-- A path as it is written. -/
structure Path where
  anchor : Anchor := .relative
  parts : List String := []
deriving DecidableEq, Repr

namespace Path

/-- The text of an anchor. -/
def anchorText : Anchor → String
  | .relative => ""
  | .root => "/"
  | .doubleRoot => "//"

/-- The anchor that so many slashes at the head of a path make. -/
def anchorOf : Nat → Anchor
  | 0 => .relative
  | 2 => .doubleRoot
  | _ => .root

/-- A part that is not dropped when a path is read. -/
def isPart (part : String) : Bool := part != "" && part != "."

/-- The path that a text writes. -/
def ofString (text : String) : Path :=
  ⟨anchorOf (text.toList.takeWhile (· == '/')).length, (Text.piecesOf '/' text).filter isPart⟩

/-- The text of a path.  A path without anchor and parts is a dot. -/
def text (p : Path) : String :=
  if p.anchor = .relative ∧ p.parts = [] then "."
  else anchorText p.anchor ++ "/".intercalate p.parts

/-- The path that a second path leads to from a first.  A second path with an
anchor is not affected by the first. -/
def join (p q : Path) : Path :=
  if q.anchor = .relative then ⟨p.anchor, p.parts ++ q.parts⟩ else q

/-- The path that a text leads to from a path. -/
def child (p : Path) (text : String) : Path := p.join (ofString text)

/-- A path with more parts. -/
def extend (p : Path) (parts : List String) : Path := ⟨p.anchor, p.parts ++ parts⟩

/-- The last part, empty if there is none. -/
def name (p : Path) : String := p.parts.getLast?.getD ""

/-- A path without its last part. -/
def parent (p : Path) : Path := ⟨p.anchor, p.parts.dropLast⟩

/-- The path with the same parent and another name. -/
def sibling (p : Path) (name : String) : Path := p.parent.child name

/-- A path with the character that no path may hold. -/
def holdsNul (p : Path) : Bool := p.parts.any fun part => part.toList.contains '\x00'

/-! ## Tests -/

example : (ofString "./a//b/.").text = "a/b" ∧ (ofString "///a").text = "/a" ∧
    (ofString "//a").text = "//a" ∧ (ofString "").text = "." := by decide +kernel
example : ((ofString "a").child "b/../c").text = "a/b/../c" := by decide +kernel
example : (ofString "a/b.c").name = "b.c" ∧ (ofString "a").parent.text = "." := by decide +kernel

end Path

end Dossier
