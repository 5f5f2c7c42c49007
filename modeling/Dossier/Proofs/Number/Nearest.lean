import Dossier.Proofs.Number.Binary64
import Dossier.Proofs.Number.Decimal
import Mathlib

/-!
# Nearest doubles

The bits of a double are put together by one addition, and stand for its significand and exponent
even if the one carries into the other (`value_ofBits`).  So the double nearest to a quotient by a
power of two is that quotient with 53 bits, unless this is beyond all doubles
(`ofFloat?_nearest`).
-/

namespace Dossier.Binary64

open Float.Model (UnpackedFloat Format)

variable {n k m e : ℕ}

/-! ## Bits -/

/-- The bits of a number that is not infinite are kept. -/
theorem toNat_toBits_ofBits {bits : ℕ} (h : bits < infinityBits) :
    (Float.ofBits (UInt64.ofNat bits)).toBits.toNat = bits := by
  have hinfinity : infinityBits = 2047 * 2 ^ 52 := by decide
  have hnat : (UInt64.ofNat bits).toBitVec.toNat = bits := by
    rw [UInt64.toBitVec_ofNat', BitVec.toNat_ofNat]
    exact Nat.mod_eq_of_lt (by omega)
  have hexponent : @UnpackedFloat.unpackExponent Format.binary64 (UInt64.ofNat bits).toBitVec ≠
      -1#11 := by
    intro hgreatest
    have hfield := congrArg BitVec.toNat hgreatest
    have hones : (-1#11).toNat = 2047 := by decide
    rw [toNat_unpackExponent, hnat, hones, Nat.pow_eq, Nat.pow_eq] at hfield
    omega
  have hnumber : @UnpackedFloat.isNaNBits Format.binary64 (UInt64.ofNat bits).toBitVec = false :=
    decide_eq_false fun hnan => hexponent hnan.1
  have hkept := @UnpackedFloat.pack_unpack Format.binary64 (UInt64.ofNat bits).toBitVec
  rw [hnumber, if_neg Bool.false_ne_true] at hkept
  change (UnpackedFloat.pack Format.binary64
    (UnpackedFloat.unpack Format.binary64 (UInt64.ofNat bits).toBitVec)).toNat = bits
  rw [hkept, hnat]

/-- Bits that are put together from a significand of 53 bits and an exponent stand for the number
these two make, also if the significand is rounded up to the next power of two. -/
theorem value_ofBits (hle : 2 ^ 52 ≤ m) (hge : m ≤ 2 ^ 53)
    (h : e * 2 ^ 52 + m < infinityBits) :
    ∃ x, ofFloat? (Float.ofBits (UInt64.ofNat (e * 2 ^ 52 + m))) = some x ∧
      x.value = m * 2 ^ (e + minExponent) := by
  have hinfinity : infinityBits = 2047 * 2 ^ 52 := by decide
  rw [ofFloat?, toNat_toBits_ofBits h]
  simp only [Nat.pow_eq]
  have hpositive : ((e * 2 ^ 52 + m) / 2 ^ 63 == 1) = false := by
    rw [beq_eq_false_iff_ne]
    omega
  rw [hpositive]
  rcases hge.lt_or_eq with hlt | rfl
  · have hexponent : (e * 2 ^ 52 + m) / 2 ^ 52 % 2 ^ 11 = e + 1 := by omega
    have hfraction : 2 ^ 52 + (e * 2 ^ 52 + m) % 2 ^ 52 = m := by omega
    rw [hexponent, hfraction, if_neg (by omega), if_neg (by omega)]
    refine ⟨_, rfl, ?_⟩
    simp [value]
  · -- the carry leaves no fraction and goes into the exponent
    have hexponent : (e * 2 ^ 52 + 2 ^ 53) / 2 ^ 52 % 2 ^ 11 = e + 2 := by omega
    have hfraction : 2 ^ 52 + (e * 2 ^ 52 + 2 ^ 53) % 2 ^ 52 = 2 ^ 52 := by omega
    have hcarry : Int.ofNat (e + 2) - 1 + minExponent = e + minExponent + 1 := by
      rw [Int.ofNat_eq_natCast]
      omega
    rw [hexponent, hfraction, if_neg (by omega), if_neg (by omega), hcarry]
    refine ⟨_, rfl, ?_⟩
    rw [value, zpow_add_one₀ two_ne_zero, if_neg Bool.false_ne_true]
    push_cast
    ring

/-! ## Quotients by a power of two -/

/-- Where a quotient by a power of two is cut to have 53 bits. -/
def cut (n k : ℕ) : ℤ := n.log2 - k - 52

/-- What is left of the quotient there has 53 bits. -/
theorem scale_cut (k : ℕ) (hn : n ≠ 0) :
    2 ^ 52 * ((scale n (-cut n k)).2 * 2 ^ k) ≤ (scale n (-cut n k)).1 ∧
      (scale n (-cut n k)).1 < 2 ^ 53 * ((scale n (-cut n k)).2 * 2 ^ k) := by
  have hden : (0 : ℚ) < (scale n (-cut n k)).2 := by exact_mod_cast scale_pos n (-cut n k)
  have hscale := scale_eq n (-cut n k)
  rw [div_eq_iff hden.ne'] at hscale
  have hpow : (2 : ℚ) ^ n.log2 * 2 ^ (-cut n k) = 2 ^ 52 * 2 ^ k := by
    rw [← zpow_natCast, ← zpow_natCast, ← zpow_natCast, ← zpow_add₀ two_ne_zero,
      ← zpow_add₀ two_ne_zero, cut]
    congr 1
    push_cast
    ring
  have hle : (2 : ℚ) ^ n.log2 ≤ n := by exact_mod_cast Nat.log2_self_le hn
  have hlt : (n : ℚ) < 2 ^ n.log2 * 2 := by exact_mod_cast (Nat.lt_log2_self (n := n))
  have hpos : (0 : ℚ) < 2 ^ (-cut n k) * (scale n (-cut n k)).2 := by positivity
  have hmul : (2 : ℚ) ^ n.log2 * (2 ^ (-cut n k) * (scale n (-cut n k)).2) =
      2 ^ 52 * ((scale n (-cut n k)).2 * 2 ^ k) := by
    rw [← mul_assoc, hpow]
    ring
  constructor
  · have hbelow : 2 ^ 52 * (((scale n (-cut n k)).2 : ℚ) * 2 ^ k) ≤ (scale n (-cut n k)).1 := by
      rw [← hmul, hscale, mul_assoc]
      exact mul_le_mul_of_nonneg_right hle hpos.le
    exact_mod_cast hbelow
  · have habove : ((scale n (-cut n k)).1 : ℚ) < 2 ^ 53 * ((scale n (-cut n k)).2 * 2 ^ k) := by
      rw [pow_succ, mul_right_comm, ← hmul, mul_right_comm, hscale, mul_assoc]
      exact mul_lt_mul_of_pos_right hlt hpos
    exact_mod_cast habove

theorem exponentOf_eq (num den : ℕ) {guess : ℤ} (h : guess = num.log2 - den.log2 - 52) :
    exponentOf num den = max (if (scale num (-guess)).1 / ((scale num (-guess)).2 * den) < 2 ^ 52
      then guess - 1 else guess) minExponent := by
  subst h
  rfl

/-- A quotient by a power of two that is at least one is cut there. -/
theorem exponentOf_two_pow (hk : 2 ^ k ≤ n) : exponentOf n (2 ^ k) = cut n k := by
  have hn : n ≠ 0 := ((Nat.two_pow_pos k).trans_le hk).ne'
  have hlog : k ≤ n.log2 := (Nat.le_log2 hn).mpr hk
  have hpos : 0 < (scale n (-cut n k)).2 * 2 ^ k :=
    Nat.mul_pos (scale_pos n _) (Nat.two_pow_pos k)
  have hlarge : 2 ^ 52 ≤ (scale n (-cut n k)).1 / ((scale n (-cut n k)).2 * 2 ^ k) :=
    (Nat.le_div_iff_mul_le hpos).mpr (scale_cut k hn).1
  have hcut : cut n k = n.log2 - (2 ^ k).log2 - 52 := by rw [Nat.log2_two_pow, cut]
  rw [exponentOf_eq n (2 ^ k) hcut, if_neg (not_lt.mpr hlarge), max_eq_left]
  rw [cut, minExponent]
  omega

/-- The significand of a quotient by a power of two. -/
def significandOf (n k : ℕ) : ℕ :=
  Decimal.roundDiv (scale n (-cut n k)).1 ((scale n (-cut n k)).2 * 2 ^ k)

theorem significandOf_bounds (hn : n ≠ 0) :
    2 ^ 52 ≤ significandOf n k ∧ significandOf n k ≤ 2 ^ 53 := by
  have hpos : 0 < (scale n (-cut n k)).2 * 2 ^ k :=
    Nat.mul_pos (scale_pos n _) (Nat.two_pow_pos k)
  obtain ⟨hle, hlt⟩ := scale_cut k hn
  exact ⟨Decimal.le_roundDiv hpos hle, Decimal.roundDiv_le hpos hlt.le⟩

/-- The significand is that of any quotient that is the same but for the cut. -/
theorem significandOf_eq {num den : ℕ} (hden : 0 < den)
    (h : (n : ℚ) * den = num * 2 ^ k * 2 ^ cut n k) :
    significandOf n k = Decimal.roundDiv num den := by
  have hpos := scale_pos n (-cut n k)
  have hscale := scale_eq n (-cut n k)
  rw [significandOf]
  generalize scale n (-cut n k) = left at *
  refine Decimal.roundDiv_congr (Nat.mul_pos hpos (Nat.two_pow_pos k)) hden ?_
  have hcast : (0 : ℚ) < left.2 := by exact_mod_cast hpos
  rw [div_eq_iff hcast.ne', zpow_neg] at hscale
  have hcross : (left.1 : ℚ) * den = num * (left.2 * 2 ^ k) := by
    rw [hscale, mul_right_comm, mul_right_comm (n : ℚ), h]
    field_simp
  exact_mod_cast hcross

/-- The power of two of the cut, as a quotient. -/
theorem two_zpow_cut (n k : ℕ) :
    (2 : ℚ) ^ cut n k * (2 ^ (52 - n.log2) * 2 ^ k) = 2 ^ (n.log2 - 52) := by
  rw [← zpow_natCast, ← zpow_natCast, ← zpow_natCast, ← zpow_add₀ two_ne_zero,
    ← zpow_add₀ two_ne_zero, cut]
  congr 1
  omega

/-- The significand is the number itself, cut to 53 bits and rounded or moved to have as many. -/
theorem significandOf_two_pow (n k : ℕ) : significandOf n k =
    Decimal.roundDiv n (2 ^ (n.log2 - 52)) * 2 ^ (52 - n.log2) := by
  have hmoved : significandOf n k =
      Decimal.roundDiv (n * 2 ^ (52 - n.log2)) (2 ^ (n.log2 - 52)) := by
    refine significandOf_eq (Nat.two_pow_pos _) ?_
    push_cast
    rw [← two_zpow_cut n k]
    ring
  -- one of the two powers is one
  rw [hmoved]
  rcases Nat.le_total n.log2 52 with hle | hge
  · rw [Nat.sub_eq_zero_of_le hle, pow_zero, Decimal.roundDiv_one, Decimal.roundDiv_one]
  · rw [Nat.sub_eq_zero_of_le hge, pow_zero, Nat.mul_one, Nat.mul_one]

theorem nearestBits_two_pow (hk : 2 ^ k ≤ n) : nearestBits n (2 ^ k) =
    min infinityBits ((cut n k - minExponent).toNat * 2 ^ 52 + significandOf n k) := by
  have hn : n ≠ 0 := ((Nat.two_pow_pos k).trans_le hk).ne'
  rw [nearestBits, if_neg hn, exponentOf_two_pow hk]
  rfl

/-- The bits are below those of an infinity just if the number is below the power of two that
follows on all doubles. -/
theorem lt_infinityBits_iff (hle : 2 ^ 52 ≤ m) (hge : m ≤ 2 ^ 53) :
    e * 2 ^ 52 + m < infinityBits ↔ (m : ℚ) * 2 ^ (e + minExponent) < 2 ^ (1024 : ℤ) := by
  have hinfinity : infinityBits = 2047 * 2 ^ 52 := by decide
  have hpos : (0 : ℚ) < 2 ^ (e + minExponent) := by positivity
  have hmoved : ∀ i : ℕ, (2 : ℚ) ^ i * 2 ^ (e + minExponent) = 2 ^ (e + minExponent + i) := by
    intro i
    rw [zpow_add₀ two_ne_zero (e + minExponent), zpow_natCast, mul_comm]
  rcases hge.lt_or_eq with hlt | rfl
  · have hle : (2 : ℚ) ^ 52 ≤ m := by exact_mod_cast hle
    have hlt : (m : ℚ) < 2 ^ 53 := by exact_mod_cast hlt
    constructor
    · intro hbits
      calc (m : ℚ) * 2 ^ (e + minExponent)
          < 2 ^ 53 * 2 ^ (e + minExponent) := mul_lt_mul_of_pos_right hlt hpos
        _ = 2 ^ (e + minExponent + 53) := hmoved 53
        _ ≤ 2 ^ (1024 : ℤ) := zpow_le_zpow_right₀ one_le_two (by rw [minExponent]; omega)
    · intro hvalue
      by_contra hbits
      refine absurd hvalue (not_lt.mpr ?_)
      calc (2 : ℚ) ^ (1024 : ℤ)
          ≤ 2 ^ (e + minExponent + 52) :=
            zpow_le_zpow_right₀ one_le_two (by rw [minExponent]; omega)
        _ = 2 ^ 52 * 2 ^ (e + minExponent) := (hmoved 52).symm
        _ ≤ m * 2 ^ (e + minExponent) := mul_le_mul_of_nonneg_right hle hpos.le
  · rw [Nat.cast_pow, Nat.cast_ofNat, hmoved 53, zpow_lt_zpow_iff_right₀ one_lt_two, hinfinity,
      minExponent]
    omega

/-- The double nearest to a quotient by a power of two: the quotient with a significand of 53 bits,
unless that is beyond all doubles. -/
theorem ofFloat?_nearest (hk : 2 ^ k ≤ n) :
    ((significandOf n k : ℚ) * 2 ^ cut n k < 2 ^ (1024 : ℤ) →
      ∃ x, ofFloat? (nearest false n (2 ^ k)) = some x ∧
        x.value = significandOf n k * 2 ^ cut n k) ∧
    (¬ (significandOf n k : ℚ) * 2 ^ cut n k < 2 ^ (1024 : ℤ) →
      ofFloat? (nearest false n (2 ^ k)) = none) := by
  have hn : n ≠ 0 := ((Nat.two_pow_pos k).trans_le hk).ne'
  obtain ⟨hle, hge⟩ := significandOf_bounds (k := k) hn
  have hlog : k ≤ n.log2 := (Nat.le_log2 hn).mpr hk
  have hexponent : ((cut n k - minExponent).toNat : ℤ) + minExponent = cut n k := by
    rw [cut, minExponent]
    omega
  have hfinite := lt_infinityBits_iff (e := (cut n k - minExponent).toNat) hle hge
  have hvalue := value_ofBits (e := (cut n k - minExponent).toNat) hle hge
  rw [hexponent] at hfinite hvalue
  rw [← hfinite, nearest, nearestBits_two_pow hk, if_neg Bool.false_ne_true, Nat.zero_add]
  constructor
  · intro hlt
    rw [min_eq_right hlt.le]
    exact hvalue hlt
  · intro hnot
    rw [min_eq_left (not_lt.mp hnot)]
    decide +kernel

end Dossier.Binary64
