/-!
# The order of names

Names are compared character by character, by code points, and a name comes
before all longer ones that it begins.  Lists of names are compared in the same
way, name by name.
-/

namespace Dossier.Text

/-- The order of lists by the first entries that differ. -/
def listLE {α : Type} [DecidableEq α] (le : α → α → Bool) : List α → List α → Bool
  | [], _ => true
  | _ :: _, [] => false
  | a :: as, b :: bs => if a = b then listLE le as bs else le a b

/-- The order of names by code points. -/
def nameLE (a b : String) : Bool :=
  listLE (fun c d => decide (c.toNat ≤ d.toNat)) a.toList b.toList

/-! ## Tests -/

example : nameLE "a" "ab" = true ∧ nameLE "b" "ab" = false ∧ nameLE "Z" "a" = true := by decide

end Dossier.Text
