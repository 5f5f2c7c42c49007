/-!
# Sets of characters given by ranges

A property of characters that a standard tabulates is written as a list of
closed ranges of code points.  `inRanges` decides membership.  The tables
themselves live in modules named for the property.
-/

namespace Dossier.Text

/-- A character lies in one of the closed ranges of code points. -/
def inRanges (ranges : List (Nat × Nat)) (c : Char) : Bool :=
  ranges.any fun r => decide (r.1 ≤ c.toNat) && decide (c.toNat ≤ r.2)

theorem inRanges_iff {ranges : List (Nat × Nat)} {c : Char} :
    inRanges ranges c = true ↔ ∃ r ∈ ranges, r.1 ≤ c.toNat ∧ c.toNat ≤ r.2 := by
  simp [inRanges]

end Dossier.Text
