import Dossier.Number.Binary64
import Mathlib.Algebra.Order.Field.Rat
import Mathlib.Data.Nat.Cast.Order.Field
import Mathlib.Tactic.Linarith
import Mathlib.Tactic.Positivity

/-!
# Values of doubles

A finite double stands for a rational number (`Binary64.value`).  Its whole part is cut towards
zero (`truncated_truncate`).  Its exponent is found among its bits (`toNat_unpackExponent`).
-/

namespace Dossier.Binary64

/-- The number a finite double stands for. -/
def value (x : Binary64) : ℚ := (if x.negative then -1 else 1) * (x.significand * 2 ^ x.exponent)

theorem scale_pos (n : ℕ) (e : ℤ) : 0 < (scale n e).2 := by
  cases e with
  | ofNat k => exact Nat.one_pos
  | negSucc k => exact Nat.two_pow_pos (k + 1)

theorem scale_eq (n : ℕ) (e : ℤ) : ((scale n e).1 : ℚ) / (scale n e).2 = n * 2 ^ e := by
  cases e with
  | ofNat k => simp [scale]
  | negSucc k => simp [scale, zpow_negSucc, div_eq_mul_inv]

/-! ## Whole parts -/

/-- A whole number is a number cut towards zero: less than one from it, on the side of zero. -/
def Truncated (y : ℚ) (t : ℤ) : Prop := |(t : ℚ)| ≤ |y| ∧ |y| < |(t : ℚ)| + 1 ∧ 0 ≤ t * y

/-- A number is cut to one whole number only. -/
theorem Truncated.unique {y : ℚ} {t t' : ℤ} (h : Truncated y t) (h' : Truncated y t') : t = t' := by
  obtain ⟨hle, hlt, hside⟩ := h
  obtain ⟨hle', hlt', hside'⟩ := h'
  have hbelow : |t| < |t'| + 1 := by exact_mod_cast hle.trans_lt hlt'
  have habove : |t'| < |t| + 1 := by exact_mod_cast hle'.trans_lt hlt
  rcases abs_eq_abs.mp (show |t| = |t'| by omega) with heq | rfl
  · exact heq
  · -- on both sides of a number there is only zero
    rw [Int.cast_neg, neg_mul, neg_nonneg] at hside
    rcases mul_eq_zero.mp (le_antisymm hside hside') with hzero | hzero
    · rw [Int.cast_eq_zero.mp hzero, neg_zero]
    · rw [hzero, abs_zero, abs_nonpos_iff, Int.cast_eq_zero] at hle'
      rw [hle', neg_zero]

theorem truncate_eq (x : Binary64) : x.truncate =
    (if x.negative then -1 else 1) *
      ((scale x.significand x.exponent).1 / (scale x.significand x.exponent).2 : ℕ) := by
  rw [truncate]
  cases x.negative with
  | false => exact (one_mul _).symm
  | true => exact (neg_one_mul ((_ / _ : ℕ) : ℤ)).symm

/-- The sign of a number does not matter to how it is cut. -/
theorem Truncated.sign {y : ℚ} {t : ℤ} (h : Truncated y t) (negative : Bool) :
    Truncated ((if negative then -1 else 1) * y) ((if negative then -1 else 1) * t) := by
  cases negative with
  | false => simpa using h
  | true => simpa [Truncated] using h

theorem truncated_div (num : ℕ) {den : ℕ} (hden : 0 < den) :
    Truncated (num / den) ((num / den : ℕ) : ℤ) := by
  have hpos : (0 : ℚ) < den := by exact_mod_cast hden
  have hle : ((num / den : ℕ) : ℚ) ≤ num / den := Nat.cast_div_le
  have hlt : (num / den : ℚ) < (num / den : ℕ) + 1 := by
    rw [div_lt_iff₀' hpos]
    exact_mod_cast Nat.lt_mul_div_succ num hden
  rw [Truncated, Int.cast_natCast, abs_of_nonneg (by positivity), abs_of_nonneg (by positivity)]
  exact ⟨hle, hlt, by positivity⟩

/-- The whole part of a double is its value cut towards zero. -/
theorem truncated_truncate (x : Binary64) : Truncated x.value x.truncate := by
  rw [truncate_eq, value, ← scale_eq]
  exact (truncated_div _ (scale_pos _ _)).sign x.negative

/-! ## Bits -/

open Float.Model (UnpackedFloat Format)

/-- The exponent in the bits of a double. -/
theorem toNat_unpackExponent (bits : BitVec 64) :
    (@UnpackedFloat.unpackExponent Format.binary64 bits).toNat =
      bits.toNat / Nat.pow 2 52 % Nat.pow 2 11 := by
  simp [UnpackedFloat.unpackExponent, BitVec.extractLsb, BitVec.extractLsb',
    Nat.shiftRight_eq_div_pow]

end Dossier.Binary64
