import Dossier.Text.Blank

/-!
# Destinations

A destination is a path relative to the output directory, with `/` between its
segments.  It is *safe* if it has no control characters and none of the
characters that common file systems and shells object to, does not start at
the root, and has no segment that is empty or a dot or two dots.  A safe
destination lies strictly inside the output directory without any
normalisation.
-/

namespace Dossier.Script.Destination

/-- The visible characters a destination may not have. -/
def hostileMarks : List Char := ['*', '?', '&', '<', '>', '"', '\x60', '|', '\'', ':', '\\']

/-- A character a destination may not have: a control character of ASCII or of
the block after it, or one of the hostile marks. -/
def isHostile (c : Char) : Bool :=
  decide (c.toNat ≤ 0x1F) || (decide (0x7F ≤ c.toNat) && decide (c.toNat ≤ 0x9F)) ||
    hostileMarks.contains c

/-- The segments of a destination. -/
def segments (destination : String) : List String := Text.piecesOf '/' destination

/-- A segment that names no entry of its own. -/
def isIdle (segment : String) : Bool := segment == "" || segment == "." || segment == ".."

/-- Why a destination is not safe. -/
inductive Fault
  /-- It has a character it may not have. -/
  | characters
  /-- It starts at the root. -/
  | absolute
  /-- It has a segment that names no entry of its own. -/
  | idleSegment
deriving DecidableEq, Repr

/-- The first reason why a destination is not safe. -/
def fault? (destination : String) : Option Fault :=
  if destination.toList.any isHostile then some .characters
  else if destination.toList.head? == some '/' then some .absolute
  else if (segments destination).any isIdle then some .idleSegment
  else none

/-- A destination that may be saved to. -/
def Safe (destination : String) : Prop := fault? destination = none

instance : DecidablePred Safe := fun d => inferInstanceAs (Decidable (fault? d = none))

theorem safe_iff {d : String} : Safe d ↔
    (∀ c ∈ d.toList, isHostile c = false) ∧ d.toList.head? ≠ some '/' ∧
      ∀ s ∈ segments d, isIdle s = false := by
  unfold Safe fault?
  split
  · rename_i h
    obtain ⟨c, hc, hb⟩ := List.any_eq_true.mp h
    simp only [reduceCtorEq, false_iff]
    exact fun hs => by simp [hs.1 c hc] at hb
  · rename_i h
    split
    · rename_i ha
      simp only [reduceCtorEq, false_iff]
      exact fun hs => hs.2.1 (by simpa using ha)
    · rename_i ha
      split
      · rename_i hi
        obtain ⟨s, hs, hb⟩ := List.any_eq_true.mp hi
        simp only [reduceCtorEq, false_iff]
        exact fun hall => by simp [hall.2.2 s hs] at hb
      · rename_i hi
        simp only [true_iff]
        refine ⟨fun c hc => ?_, by simpa using ha, fun s hs => ?_⟩
        · exact Bool.eq_false_iff.mpr fun hb => h (List.any_eq_true.mpr ⟨c, hc, hb⟩)
        · exact Bool.eq_false_iff.mpr fun hb => hi (List.any_eq_true.mpr ⟨s, hs, hb⟩)

/-! ## Tests -/

example : fault? "a/b.txt" = none := by decide
example : fault? "/a" = some .absolute := by decide
example : fault? "a//b" = some .idleSegment := by decide
example : fault? "a/../b" = some .idleSegment := by decide
example : fault? "a:b" = some .characters := by decide
example : fault? "" = some .idleSegment := by decide

end Dossier.Script.Destination
