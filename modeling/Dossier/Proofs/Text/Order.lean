import Dossier.Text.Order

/-!
# The order of names is linear

An order of entries that is linear makes the order of lists linear
(`Linear.list`).  So names are in a linear order (`linear_nameLE`), and lists of
names are too.

Each order says that two things are the same or that the first comes before the
second, where names are compared by their code points, and lists by the first
entries that differ (`nameLE_iff`, `listLE_iff`).
-/

namespace Dossier.Text

/-- Any two things are in order one way or the other, and only the same both ways. -/
structure Linear {α : Type} (le : α → α → Bool) : Prop where
  antisymm : ∀ {a b}, le a b = true → le b a = true → a = b
  trans : ∀ {a b c}, le a b = true → le b c = true → le a c = true
  total : ∀ a b, le a b = true ∨ le b a = true

namespace Linear

variable {α : Type} [DecidableEq α] {le : α → α → Bool} (h : Linear le)
include h

theorem list_antisymm : ∀ {as bs : List α}, listLE le as bs = true → listLE le bs as = true →
    as = bs
  | [], [], _, _ => rfl
  | [], _ :: _, _, hba => nomatch hba
  | _ :: _, [], hab, _ => nomatch hab
  | a :: as, b :: bs, hab, hba => by
      rw [listLE] at hab hba
      by_cases heq : a = b
      · subst heq
        rw [if_pos rfl] at hab hba
        rw [list_antisymm hab hba]
      · rw [if_neg heq] at hab
        rw [if_neg (Ne.symm heq)] at hba
        exact absurd (h.antisymm hab hba) heq

theorem list_trans : ∀ {as bs cs : List α}, listLE le as bs = true → listLE le bs cs = true →
    listLE le as cs = true
  | [], _, _, _, _ => by rw [listLE]
  | _ :: _, [], _, hab, _ => nomatch hab
  | _ :: _, _ :: _, [], _, hbc => nomatch hbc
  | a :: as, b :: bs, c :: cs, hab, hbc => by
      rw [listLE] at hab hbc ⊢
      by_cases hfirst : a = b
      · subst hfirst
        rw [if_pos rfl] at hab
        by_cases hsecond : a = c
        · rw [if_pos hsecond] at hbc ⊢
          exact list_trans hab hbc
        · rwa [if_neg hsecond] at hbc ⊢
      · rw [if_neg hfirst] at hab
        by_cases hsecond : b = c
        · subst hsecond
          rwa [if_neg hfirst]
        · rw [if_neg hsecond] at hbc
          have hne : a ≠ c := fun heq => hfirst (h.antisymm hab (heq ▸ hbc))
          rw [if_neg hne]
          exact h.trans hab hbc

theorem list_total : ∀ as bs : List α, listLE le as bs = true ∨ listLE le bs as = true
  | [], _ => Or.inl (by rw [listLE])
  | _ :: _, [] => Or.inr (by rw [listLE])
  | a :: as, b :: bs => by
      rw [listLE, listLE]
      by_cases heq : a = b
      · rw [if_pos heq, if_pos heq.symm]
        exact list_total as bs
      · rw [if_neg heq, if_neg (Ne.symm heq)]
        exact h.total a b

theorem list : Linear (listLE le) := ⟨h.list_antisymm, h.list_trans, h.list_total⟩

end Linear

theorem linear_nameLE : Linear nameLE := by
  have hchar : Linear fun c d : Char => decide (c.toNat ≤ d.toNat) := by
    refine ⟨fun hab hba => ?_, fun hab hbc => ?_, fun a b => ?_⟩
    · exact Char.ext (UInt32.toNat_inj.mp
        (Nat.le_antisymm (of_decide_eq_true hab) (of_decide_eq_true hba)))
    · exact decide_eq_true (Nat.le_trans (of_decide_eq_true hab) (of_decide_eq_true hbc))
    · simpa using Nat.le_total a.toNat b.toNat
  refine ⟨fun hab hba => ?_, fun hab hbc => hchar.list.trans hab hbc,
    fun a b => hchar.list.total _ _⟩
  exact String.toList_inj.mp (hchar.list.antisymm hab hba)

/-! ## What comes before what -/

/-- A name comes before another if their first code points that differ say so, or if it begins
the other. -/
def NameBefore (a b : String) : Prop :=
  List.Lex (fun c d : Char => c.toNat < d.toNat) a.toList b.toList

theorem listLE_iff {α : Type} [DecidableEq α] {le : α → α → Bool} {before : α → α → Prop}
    (hle : ∀ {a b}, le a b = true ↔ a = b ∨ before a b) (hirrefl : ∀ a, ¬ before a a) :
    ∀ {as bs : List α}, listLE le as bs = true ↔ as = bs ∨ List.Lex before as bs
  | [], [] => by simp [listLE]
  | [], _ :: _ => by simp [listLE]
  | _ :: _, [] => by simp [listLE]
  | a :: as, b :: bs => by
      rw [listLE, List.cons.injEq, List.cons_lex_cons_iff]
      by_cases hfirst : a = b
      · subst hfirst
        rw [if_pos rfl, listLE_iff hle hirrefl]
        simp [hirrefl]
      · rw [if_neg hfirst, hle]
        simp [hfirst]

theorem nameLE_iff {a b : String} : nameLE a b = true ↔ a = b ∨ NameBefore a b := by
  have hchar : ∀ {c d : Char}, decide (c.toNat ≤ d.toNat) = true ↔ c = d ∨ c.toNat < d.toNat := by
    intro c d
    rw [decide_eq_true_iff, Nat.le_iff_lt_or_eq, Char.toNat_inj, or_comm]
  rw [nameLE, listLE_iff hchar fun _ => Nat.lt_irrefl _, String.toList_inj]
  rfl

/-- No name comes before itself. -/
theorem not_nameBefore_self (a : String) : ¬ NameBefore a a :=
  List.lex_irrefl (fun c => Nat.lt_irrefl c.toNat) a.toList

end Dossier.Text
