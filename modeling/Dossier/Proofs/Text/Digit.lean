import Dossier.Number.Decimal
import Dossier.Number.Reading
import Dossier.Proofs.Text.Blank
import Mathlib.Data.List.Forall2

/-!
# Numbers in any alphabet

A digit is no blank (`isBlank_of_isDigit`), so digits end where blanks begin.  A number that is
written in decimal, with zeros in front and with each digit taken from any alphabet, is read as
what it is (`numberOf_written`).
-/

namespace Dossier.Text

variable {c : Char} {n : Nat} {cs : List Char}

/-- A run of a class ends where something begins that is not in the class. -/
theorem run_append {p : Char → Bool} {run rest : List Char} (hrun : ∀ c ∈ run, p c = true)
    (hrest : ∀ c ∈ rest.head?, p c = false) :
    (run ++ rest).takeWhile p = run ∧ (run ++ rest).dropWhile p = rest := by
  rw [List.takeWhile_append_of_pos hrun, List.dropWhile_append_of_pos hrun]
  cases rest with
  | nil => exact ⟨List.append_nil run, rfl⟩
  | cons c rest =>
      have hc : ¬ p c = true := by simp [hrest c rfl]
      rw [List.takeWhile_cons_of_neg hc, List.dropWhile_cons_of_neg hc, List.append_nil]
      exact ⟨rfl, rfl⟩

/-! ## Digits -/

theorem isDigit_iff : isDigit c = true ↔ ∃ z ∈ digitZeros, z ≤ c.toNat ∧ c.toNat < z + 10 := by
  simp [isDigit, digitValue?]

theorem isBlank_of_isDigit (h : isDigit c = true) : isBlank c = false := by
  -- no blank lies among the ten digits that follow a zero
  have hapart : ∀ z ∈ digitZeros, ∀ r ∈ blankRanges, z + 10 ≤ r.1 ∨ r.2 < z := by decide
  obtain ⟨z, hz, hle, hlt⟩ := isDigit_iff.mp h
  rw [Bool.eq_false_iff]
  intro hblank
  obtain ⟨r, hr, hfirst, hlast⟩ := inRanges_iff.mp hblank
  have := hapart z hz r hr
  omega

theorem isDigit_of_isBlank (h : isBlank c = true) : isDigit c = false := by
  rw [Bool.eq_false_iff]
  intro hdigit
  rw [isBlank_of_isDigit hdigit] at h
  cases h

/-- The values of digits. -/
def digitValues (digits : List Char) : List Nat := digits.filterMap digitValue?

theorem length_digitValues {digits : List Char} (h : ∀ c ∈ digits, isDigit c = true) :
    (digitValues digits).length = digits.length := by
  rw [digitValues, List.length_filterMap_eq_countP, List.countP_eq_length]
  exact h

/-- Reading digits stops at the first character that is none. -/
theorem spanDigits_eq (cs : List Char) :
    Reading.spanDigits cs = (digitValues (cs.takeWhile isDigit), cs.dropWhile isDigit) := by
  induction cs with
  | nil => rfl
  | cons c rest ih =>
      rw [Reading.spanDigits]
      cases hc : digitValue? c with
      | none =>
          have hdigit : ¬ isDigit c = true := by simp [isDigit, hc]
          rw [List.takeWhile_cons_of_neg hdigit, List.dropWhile_cons_of_neg hdigit]
          rfl
      | some d =>
          have hdigit : isDigit c = true := by simp [isDigit, hc]
          rw [ih, List.takeWhile_cons_of_pos hdigit, List.dropWhile_cons_of_pos hdigit,
            digitValues, digitValues, List.filterMap_cons_some hc]

/-! ## Numbers -/

/-- Zeros in front of a number do not matter. -/
theorem numberOf_zeros (zeros : Nat) (digits : List Nat) :
    numberOf (List.replicate zeros 0 ++ digits) = numberOf digits := by
  induction zeros with
  | zero => rfl
  | succ zeros ih => exact ih

theorem digitValue?_of_ascii (h : c.isDigit = true) :
    digitValue? c = some (c.toNat - '0'.toNat) := by
  obtain ⟨hfirst, hlast⟩ := Bool.and_eq_true_iff.mp h
  have hfirst : 0x30 ≤ c.toNat := UInt32.le_iff_toNat_le.mp (of_decide_eq_true hfirst)
  have hlast : c.toNat ≤ 0x39 := UInt32.le_iff_toNat_le.mp (of_decide_eq_true hlast)
  have hfind : digitZeros.find? (fun z => decide (z ≤ c.toNat) && decide (c.toNat < z + 10)) =
      some 0x30 := List.find?_cons_of_pos (by simp [hfirst, Nat.lt_succ_of_le hlast])
  rw [digitValue?, hfind]
  rfl

theorem foldl_digitValues (h : ∀ c ∈ cs, c.isDigit = true) (init : Nat) :
    (digitValues cs).foldl (fun n d => 10 * n + d) init = Nat.ofDigitChars 10 cs init := by
  induction cs generalizing init with
  | nil => rfl
  | cons c cs ih =>
      obtain ⟨hfirst, hrest⟩ := List.forall_mem_cons.mp h
      rw [digitValues, List.filterMap_cons_some (digitValue?_of_ascii hfirst), List.foldl_cons]
      exact ih hrest _

/-- A number is that of its decimal digits. -/
theorem numberOf_digits (n : Nat) : numberOf (digitValues (Decimal.digits n)) = n := by
  have hdigits : ∀ c ∈ Nat.toDigits 10 n, c.isDigit = true := fun _ hc =>
    Nat.isDigit_of_mem_toDigits (by decide) (by decide) hc
  exact (foldl_digitValues hdigits 0).trans Nat.ofDigitChars_ten_toDigits

/-! ## Other alphabets -/

/-- The second is a digit with the value of the first. -/
def SameDigit (c d : Char) : Prop := isDigit d = true ∧ digitValue? c = digitValue? d

instance (c d : Char) : Decidable (SameDigit c d) := inferInstanceAs (Decidable (_ ∧ _))

theorem isDigit_of_sameDigits {ds : List Char} (h : List.Forall₂ SameDigit cs ds) :
    ∀ d ∈ ds, isDigit d = true := by
  induction h with
  | nil => exact fun _ hd => nomatch hd
  | cons hfirst _ ih => exact List.forall_mem_cons.mpr ⟨hfirst.1, ih⟩

theorem digitValues_of_sameDigits {ds : List Char} (h : List.Forall₂ SameDigit cs ds) :
    digitValues ds = digitValues cs := by
  induction h with
  | nil => rfl
  | cons hfirst _ ih =>
      rw [digitValues, digitValues, List.filterMap_cons, List.filterMap_cons, hfirst.2]
      rw [digitValues, digitValues] at ih
      rw [ih]

/-- A number is written by characters: in decimal, with zeros in front, each digit from any
alphabet. -/
def WrittenBy (n : Nat) (digits : List Char) : Prop :=
  ∃ zeros, List.Forall₂ SameDigit (List.replicate zeros '0' ++ Decimal.digits n) digits

theorem WrittenBy.isDigit {digits : List Char} (h : WrittenBy n digits) :
    ∀ c ∈ digits, isDigit c = true :=
  h.elim fun _ hsame => isDigit_of_sameDigits hsame

theorem WrittenBy.ne_nil {digits : List Char} (h : WrittenBy n digits) : digits ≠ [] := by
  obtain ⟨zeros, hsame⟩ := h
  have hlength := hsame.length_eq
  have hpos : 0 < (Nat.toDigits 10 n).length := Nat.length_toDigits_pos
  rintro rfl
  rw [List.length_append, Decimal.digits, List.length_nil] at hlength
  omega

theorem numberOf_written {digits : List Char} (h : WrittenBy n digits) :
    numberOf (digitValues digits) = n := by
  obtain ⟨zeros, hsame⟩ := h
  have hzeros : digitValues (List.replicate zeros '0') = List.replicate zeros 0 := by
    exact List.filterMap_replicate_of_some rfl
  rw [digitValues_of_sameDigits hsame, digitValues, List.filterMap_append, ← digitValues,
    ← digitValues, hzeros, numberOf_zeros, numberOf_digits]

end Dossier.Text
