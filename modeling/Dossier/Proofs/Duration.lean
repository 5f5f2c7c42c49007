import Dossier.Duration
import Dossier.Proofs.Number.Binary64
import Dossier.Proofs.Number.Decimal

/-!
# Durations read back

The time between two readings of a clock is the difference cut towards zero, if that is finite
(`between_eq_ok_iff`).  What its text shows are hours, unless there are none, minutes and seconds
(`shown_text`), and they add up to it, negative ones too.  So a duration can be told from its text
(`text_readBack`).
-/

namespace Dossier.Duration

variable {t : ℤ} {start now : Float} {cs : List Char} {unit : Char}

/-! ## Telling the time -/

/-- The time that has passed is the difference of two readings cut towards zero. -/
theorem between_eq_ok_iff : between start now = .ok t ↔
    ∃ x, Binary64.ofFloat? (now - start) = some x ∧ Binary64.Truncated x.value t := by
  rw [between]
  cases Binary64.ofFloat? (now - start) with
  | none => simp
  | some x =>
      constructor
      · rintro ⟨⟩
        exact ⟨x, rfl, x.truncated_truncate⟩
      · rintro ⟨_, ⟨⟩, htruncated⟩
        exact congrArg Except.ok (x.truncated_truncate.unique htruncated)

/-! ## Reading a text -/

/-- The words of a text, each as a number and the unit it ends in. -/
def words (cs : List Char) : List (ℤ × Char) :=
  (cs.splitOn ' ').map fun word => (Decimal.toInt word.dropLast, word.getLastD ' ')

/-- What a text shows. -/
def shown (text : String) : List (ℤ × Char) := words text.toList

theorem words_last (hcs : ' ' ∉ cs) (hunit : ' ' ≠ unit) :
    words (cs ++ [unit]) = [(Decimal.toInt cs, unit)] := by
  have hword : ' ' ∉ cs ++ [unit] := by simp [hcs, hunit]
  rw [words, List.splitOn_eq_singleton hword, List.map_singleton, List.dropLast_concat,
    List.getLastD_concat]

theorem words_cons (hcs : ' ' ∉ cs) (hunit : ' ' ≠ unit) (rest : List Char) :
    words (cs ++ unit :: ' ' :: rest) = (Decimal.toInt cs, unit) :: words rest := by
  have hword : ' ' ∉ cs ++ [unit] := by simp [hcs, hunit]
  have hsplit : cs ++ unit :: ' ' :: rest = (cs ++ [unit]) ++ ' ' :: rest := by simp
  rw [words, hsplit, List.splitOn_append_cons_self_of_not_mem hword, List.map_cons,
    List.dropLast_concat, List.getLastD_concat]
  rfl

/-- A text shows hours if there are any, minutes and seconds. -/
theorem shown_text (t : ℤ) : shown (text t) =
    (if t / 3600 = 0 then [] else [(t / 3600, 'h')]) ++ [(t / 60 % 60, 'm'), (t % 60, 's')] := by
  have hhours : t / 60 / 60 = t / 3600 := by omega
  have hminutes : ((t / 60 % 60).toNat : ℤ) = t / 60 % 60 := by omega
  have hseconds : ((t % 60).toNat : ℤ) = t % 60 := by omega
  have hlast : words (Decimal.padded 2 (t % 60).toNat ++ ['s']) = [(t % 60, 's')] := by
    rw [words_last (Decimal.blank_not_mem_padded _ _) (by decide), Decimal.toInt_padded, hseconds]
  rw [shown, text, hhours]
  split
  · rw [String.toList_ofList, words_cons (Decimal.blank_not_mem_ofInt _) (by decide), hlast,
      Decimal.toInt_ofInt]
    rfl
  · rw [String.toList_ofList, List.append_assoc, List.cons_append, List.cons_append,
      words_cons (Decimal.blank_not_mem_ofInt _) (by decide),
      words_cons (Decimal.blank_not_mem_padded _ _) (by decide), hlast, Decimal.toInt_ofInt,
      Decimal.toInt_padded, hminutes]
    rfl

/-- The hours, minutes and seconds that a text shows add up to no other duration. -/
theorem text_injective : Function.Injective text := by
  intro t t' heq
  have hshown := congrArg shown heq
  rw [shown_text, shown_text] at hshown
  obtain ⟨hhours, hrest⟩ := List.append_inj' hshown rfl
  have hsame : t / 3600 = t' / 3600 := by
    by_cases hnone : t / 3600 = 0 <;> by_cases hnone' : t' / 3600 = 0
    · rw [hnone, hnone']
    · rw [if_pos hnone, if_neg hnone'] at hhours
      cases hhours
    · rw [if_neg hnone, if_pos hnone'] at hhours
      cases hhours
    · rw [if_neg hnone, if_neg hnone'] at hhours
      exact (Prod.mk.inj (List.cons.inj hhours).1).1
  simp only [List.cons.injEq, Prod.mk.injEq, and_true] at hrest
  omega

/-- A clock that went from one reading to another tells how many whole seconds that took, whatever
their number: hours that are shown unless there are none, and minutes and seconds below sixty.  No
other number of seconds has that text. -/
theorem text_readBack (t : ℤ) :
    (∀ start now, between start now = .ok t ↔
      ∃ x, Binary64.ofFloat? (now - start) = some x ∧ Binary64.Truncated x.value t) ∧
    (∃ h m s : ℤ, shown (text t) = (if h = 0 then [] else [(h, 'h')]) ++ [(m, 'm'), (s, 's')] ∧
      3600 * h + 60 * m + s = t ∧ 0 ≤ m ∧ m < 60 ∧ 0 ≤ s ∧ s < 60) ∧
    ∀ t', text t' = text t ↔ t' = t := by
  refine ⟨fun _ _ => between_eq_ok_iff, ?_, fun _ => text_injective.eq_iff⟩
  refine ⟨t / 3600, t / 60 % 60, t % 60, shown_text t, ?_, ?_, ?_, ?_, ?_⟩ <;> omega

end Dossier.Duration
