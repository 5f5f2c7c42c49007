import Dossier.Number.Decimal
import Dossier.Proofs.Text.Digit
import Mathlib.Algebra.Order.Field.Rat
import Mathlib.Algebra.Ring.Parity
import Mathlib.Data.Rat.Floor
import Mathlib.Tactic.FieldSimp
import Mathlib.Tactic.Linarith
import Mathlib.Tactic.Positivity

/-!
# Decimals

*Rounding.*  A quotient is rounded to the nearest decimal with a number of places, and to the one
with an even last digit of two (`rounded_roundDiv`).  It is off by at most half a unit of the last
place (`Rounded.abs_sub_le`).

*Numerals.*  A decimal is written in one way: the digits of its whole part, and after a point as
many digits as there are places (`Writes`).  This is what `fixed` gives (`fixed_writes`), and it can
be read back (`Writes.unique`), as the numeral of a whole number can (`toInt_ofInt`).
-/

namespace Dossier.Decimal

variable {places places' num den : ℕ} {x y y' : ℚ} {cs : List Char}

/-! ## Rounding -/

/-- `y` is `x` rounded to so many places: no decimal with these places is nearer to `x`, and if
another one is just as near the last digit of `y` is even. -/
def Rounded (places : ℕ) (x y : ℚ) : Prop :=
  ∃ units : ℤ, y = units / 10 ^ places ∧
    (∀ k : ℤ, |x - y| ≤ |x - k / 10 ^ places|) ∧
    (∀ k : ℤ, k ≠ units → |x - k / 10 ^ places| = |x - y| → Even units)

/-- If one whole number is no more than a half away, all others are no less. -/
theorem half_le_abs_sub {q : ℤ} (h : |x - q| ≤ 1 / 2) {k : ℤ} (hk : k ≠ q) :
    1 / 2 ≤ |x - k| := by
  have hone : (1 : ℚ) ≤ |(q : ℚ) - k| := by
    have : 1 ≤ |q - k| := Int.one_le_abs (sub_ne_zero.mpr hk.symm)
    exact_mod_cast this
  have htriangle : |(q : ℚ) - k| ≤ |q - x| + |x - k| := abs_sub_le _ _ _
  rw [abs_sub_comm (q : ℚ) x] at htriangle
  linarith

/-- A decimal no more than half a unit of the last place away is the number rounded, if it is even
in a tie. -/
theorem rounded_of_half {q : ℤ} (h : |x * 10 ^ places - q| ≤ 1 / 2)
    (heven : |x * 10 ^ places - q| = 1 / 2 → Even q) : Rounded places x (q / 10 ^ places) := by
  have hpos : (0 : ℚ) < 10 ^ places := by positivity
  have hscale : ∀ k : ℤ, |x - k / 10 ^ places| = |x * 10 ^ places - k| / 10 ^ places := by
    intro k
    rw [← abs_of_pos hpos, ← abs_div, abs_of_pos hpos, sub_div, mul_div_cancel_right₀ _ hpos.ne']
  refine ⟨q, rfl, fun k => ?_, fun k hk htie => ?_⟩
  · rw [hscale, hscale]
    by_cases hk : k = q
    · rw [hk]
    · exact div_le_div_of_nonneg_right (h.trans (half_le_abs_sub h hk)) hpos.le
  · rw [hscale, hscale, div_left_inj' hpos.ne'] at htie
    exact heven (le_antisymm h (htie ▸ half_le_abs_sub h hk))

/-- A number is off by at most half a unit of the last place when it is rounded. -/
theorem Rounded.abs_sub_le (h : Rounded places x y) : |x - y| ≤ 1 / (2 * 10 ^ places) := by
  obtain ⟨units, rfl, hnearest, -⟩ := h
  have hpos : (0 : ℚ) < 10 ^ places := by positivity
  refine (hnearest (round (x * 10 ^ places))).trans ?_
  have hround := abs_sub_round (x * 10 ^ places)
  have hscale : x - round (x * 10 ^ places) / 10 ^ places =
      (x * 10 ^ places - round (x * 10 ^ places)) / 10 ^ places := by
    rw [sub_div, mul_div_cancel_right₀ _ hpos.ne']
  rw [hscale, abs_div, abs_of_pos hpos, ← div_div]
  exact div_le_div_of_nonneg_right hround hpos.le

/-- A quotient and the whole number it is rounded to, doubled, are at most the divisor apart, and
if they are just that the number is even. -/
theorem roundDiv_bounds (num : ℕ) (hden : 0 < den) :
    2 * num ≤ 2 * (roundDiv num den * den) + den ∧ 2 * (roundDiv num den * den) ≤ 2 * num + den ∧
      (2 * num = 2 * (roundDiv num den * den) + den ∨
        2 * (roundDiv num den * den) = 2 * num + den → Even (roundDiv num den)) := by
  have hdiv := Nat.div_add_mod' num den
  have hmod := Nat.mod_lt num hden
  rw [roundDiv, Nat.even_iff]
  generalize num / den = q at *
  generalize num % den = r at *
  subst hdiv
  rcases Nat.lt_trichotomy (2 * r) den with hlt | heq | hgt
  · rw [if_pos hlt]
    omega
  · rw [if_neg heq.not_lt, if_neg heq.not_gt]
    split
    · omega
    · rw [Nat.add_mul]
      omega
  · rw [if_neg hgt.not_gt, if_pos hgt, Nat.add_mul]
    omega

/-- Rounding a quotient gives the nearest decimal. -/
theorem rounded_roundDiv (places num : ℕ) (hden : 0 < den) :
    Rounded places (num / den) (roundDiv (num * 10 ^ places) den / 10 ^ places) := by
  obtain ⟨hle, hge, heven⟩ := roundDiv_bounds (num * 10 ^ places) hden
  generalize roundDiv (num * 10 ^ places) den = q at *
  have hpos : (0 : ℚ) < den := by exact_mod_cast hden
  have hscale : (num : ℚ) / den * 10 ^ places - (q : ℤ) =
      (num * 10 ^ places - q * den) / den := by
    rw [Int.cast_natCast]
    field_simp
  -- in units of the divisor everything is whole
  have hcast : (num : ℚ) * 10 ^ places = (num * 10 ^ places : ℕ) := by push_cast; rfl
  have hle : 2 * ((num : ℚ) * 10 ^ places) ≤ 2 * (q * den) + den := by
    rw [hcast]
    exact_mod_cast hle
  have hge : 2 * ((q : ℚ) * den) ≤ 2 * (num * 10 ^ places) + den := by
    rw [hcast]
    exact_mod_cast hge
  refine rounded_of_half (q := q) ?_ fun htie => ?_
  · rw [hscale, abs_div, abs_of_pos hpos, div_le_iff₀ hpos, abs_le]
    constructor <;> linarith
  · rw [hscale, abs_div, abs_of_pos hpos, div_eq_iff hpos.ne'] at htie
    refine Int.even_coe_nat q |>.mpr (heven ?_)
    rcases (abs_eq (by positivity)).mp htie with hup | hdown
    · left
      have : 2 * ((num : ℚ) * 10 ^ places) = 2 * (q * den) + den := by linarith
      rw [hcast] at this
      exact_mod_cast this
    · right
      have : 2 * ((q : ℚ) * den) = 2 * (num * 10 ^ places) + den := by linarith
      rw [hcast] at this
      exact_mod_cast this

/-- A quotient is rounded to less than an even number if it is less than half below it. -/
theorem roundDiv_lt_iff {m : ℕ} (num : ℕ) (hden : 0 < den) (hm : Even m) :
    roundDiv num den < m ↔ 2 * num + den < 2 * (m * den) := by
  obtain ⟨hle, hge, heven⟩ := roundDiv_bounds num hden
  generalize roundDiv num den = q at *
  constructor
  · intro hlt
    have hmul : q * den + den ≤ m * den := by
      rw [← Nat.succ_mul]
      exact Nat.mul_le_mul_right den hlt
    refine lt_of_le_of_ne (by omega) fun htie => ?_
    -- halfway below an even number lies an odd one, to which nothing halfway is rounded
    have hsucc : (q + 1) * den = m * den := by rw [Nat.succ_mul]; omega
    obtain rfl := Nat.eq_of_mul_eq_mul_right hden hsucc
    exact Nat.even_add_one.mp hm (heven (by omega))
  · intro hlt
    by_contra hnot
    have hmul : m * den ≤ q * den := Nat.mul_le_mul_right den (not_lt.mp hnot)
    omega

theorem roundDiv_one (num : ℕ) : roundDiv num 1 = num := by
  simp [roundDiv, Nat.mod_one]

/-- A quotient that is no more than a whole number is not rounded to more. -/
theorem roundDiv_le {m : ℕ} (hden : 0 < den) (h : num ≤ m * den) : roundDiv num den ≤ m := by
  by_contra hnot
  have hge := (roundDiv_bounds num hden).2.1
  have hmul : (m + 1) * den ≤ roundDiv num den * den := Nat.mul_le_mul_right den (not_le.mp hnot)
  rw [Nat.succ_mul] at hmul
  omega

/-- A quotient that is no less than a whole number is not rounded to less. -/
theorem le_roundDiv {m : ℕ} (hden : 0 < den) (h : m * den ≤ num) : m ≤ roundDiv num den := by
  by_contra hnot
  have hle := (roundDiv_bounds num hden).1
  have hmul : (roundDiv num den + 1) * den ≤ m * den := Nat.mul_le_mul_right den (not_le.mp hnot)
  rw [Nat.succ_mul] at hmul
  omega

/-- Only the quotient matters to what it is rounded to. -/
theorem roundDiv_mul_right (num den : ℕ) {c : ℕ} (hc : 0 < c) :
    roundDiv (num * c) (den * c) = roundDiv num den := by
  have hlt : ∀ a b, a * c < b * c ↔ a < b := fun _ _ => Nat.mul_lt_mul_right hc
  rw [roundDiv, roundDiv, Nat.mul_div_mul_right _ _ hc, Nat.mul_mod_mul_right]
  simp only [← Nat.mul_assoc, hlt]

theorem roundDiv_congr {num' den' : ℕ} (hden : 0 < den) (hden' : 0 < den')
    (h : num * den' = num' * den) : roundDiv num den = roundDiv num' den' := by
  rw [← roundDiv_mul_right num den hden', h, Nat.mul_comm den, roundDiv_mul_right num' den' hden]

/-! ## Numerals -/

/-- Digits after a point, and no point without any. -/
def pointed : List Char → List Char
  | [] => []
  | fraction => '.' :: fraction

/-- A decimal is written with so many places: the digits of its whole part, and as many digits
after a point as there are places. -/
def Writes (places : ℕ) (y : ℚ) (cs : List Char) : Prop :=
  ∃ (whole : ℕ) (fraction : List Char), cs = digits whole ++ pointed fraction ∧
    fraction.length = places ∧ (∀ c ∈ fraction, c.isDigit = true) ∧
    y = whole + Nat.ofDigitChars 10 fraction 0 / 10 ^ places

theorem isDigit_of_mem_digits {c : Char} {n : ℕ} (h : c ∈ digits n) : c.isDigit = true :=
  Nat.isDigit_of_mem_toDigits (by decide) (by decide) h

theorem value_digits (n : ℕ) : Nat.ofDigitChars 10 (digits n) 0 = n := Nat.ofDigitChars_ten_toDigits

theorem length_padded {width n : ℕ} (hwidth : 0 < width) (h : n < 10 ^ width) :
    (padded width n).length = width := by
  have hdigits : (digits n).length ≤ width :=
    (Nat.length_toDigits_le_iff (by decide) hwidth).mpr h
  rw [padded, List.length_append, List.length_replicate]
  omega

theorem isDigit_of_mem_padded {c : Char} {width n : ℕ} (h : c ∈ padded width n) :
    c.isDigit = true := by
  rcases List.mem_append.mp h with hzero | hdigit
  · rw [List.eq_of_mem_replicate hzero]
    rfl
  · exact isDigit_of_mem_digits hdigit

theorem value_padded (width n : ℕ) : Nat.ofDigitChars 10 (padded width n) 0 = n := by
  rw [padded, Nat.ofDigitChars_append, Nat.ofDigitChars_replicate_zero, Nat.mul_zero, value_digits]

theorem digits_writes (n : ℕ) : Writes 0 n (digits n) :=
  ⟨n, [], (List.append_nil _).symm, rfl, fun _ hc => (List.not_mem_nil hc).elim, by simp⟩

/-- A quotient with a fixed number of places is written as what it is rounded to. -/
theorem fixed_writes (places num den : ℕ) :
    Writes places (roundDiv (num * 10 ^ places) den / 10 ^ places) (fixed places num den) := by
  rw [fixed, Nat.pow_eq]
  generalize roundDiv (num * 10 ^ places) den = units
  split
  · next hzero =>
    subst hzero
    rw [pow_zero, div_one]
    exact digits_writes units
  · next hplaces =>
    have hpos : 0 < places := Nat.pos_of_ne_zero hplaces
    have hlength : (padded places (units % 10 ^ places)).length = places :=
      length_padded hpos (Nat.mod_lt _ (by positivity))
    refine ⟨units / 10 ^ places, padded places (units % 10 ^ places), ?_, hlength,
      fun _ => isDigit_of_mem_padded, ?_⟩
    · rw [pointed]
      rintro hnil
      rw [hnil] at hlength
      exact hplaces hlength.symm
    · rw [value_padded]
      have hsplit : (units : ℚ) = (units / 10 ^ places : ℕ) * 10 ^ places +
          (units % 10 ^ places : ℕ) := by
        exact_mod_cast (Nat.div_add_mod' units (10 ^ places)).symm
      rw [hsplit]
      field_simp

theorem pointed_inj {fraction fraction' : List Char} (h : pointed fraction = pointed fraction') :
    fraction = fraction' := by
  cases fraction <;> cases fraction' <;> cases h <;> rfl

/-- The digits of a whole part end at the point. -/
theorem not_isDigit_pointed (fraction : List Char) :
    ∀ c ∈ (pointed fraction).head?, c.isDigit = false := by
  cases fraction with
  | nil => exact fun c hc => nomatch hc
  | cons _ _ =>
      rintro c ⟨⟩
      rfl

/-- A numeral can be read in one way only. -/
theorem Writes.unique (h : Writes places y cs) (h' : Writes places' y' cs) : y = y' := by
  obtain ⟨whole, fraction, rfl, rfl, -, rfl⟩ := h
  obtain ⟨whole', fraction', heq, rfl, -, rfl⟩ := h'
  have hrun := Text.run_append (fun _ => isDigit_of_mem_digits (n := whole))
    (not_isDigit_pointed fraction)
  have hrun' := Text.run_append (fun _ => isDigit_of_mem_digits (n := whole'))
    (not_isDigit_pointed fraction')
  rw [heq] at hrun
  obtain rfl := pointed_inj (hrun.2.symm.trans hrun'.2)
  have hwhole : whole = whole' := by
    rw [← value_digits whole, ← value_digits whole', hrun.1.symm.trans hrun'.1]
  rw [hwhole]

theorem blank_not_mem_of_isDigit (h : ∀ c ∈ cs, c.isDigit = true) : ' ' ∉ cs :=
  fun hmem => Bool.false_ne_true (h ' ' hmem)

/-- There is no blank in a numeral. -/
theorem Writes.blank_not_mem (h : Writes places y cs) : ' ' ∉ cs := by
  obtain ⟨whole, fraction, rfl, -, hdigits, -⟩ := h
  have hpointed : ' ' ∉ pointed fraction := by
    cases fraction with
    | nil => exact List.not_mem_nil
    | cons c rest =>
        exact List.not_mem_cons_of_ne_of_not_mem (by decide) (blank_not_mem_of_isDigit hdigits)
  rw [List.mem_append, not_or]
  exact ⟨blank_not_mem_of_isDigit fun _ => isDigit_of_mem_digits, hpointed⟩

/-! ## Whole numbers with a sign -/

/-- The number that digits stand for, with a minus in front or not. -/
def toInt : List Char → Int
  | '-' :: cs => -Nat.ofDigitChars 10 cs 0
  | cs => Nat.ofDigitChars 10 cs 0

theorem toInt_of_isDigit (h : ∀ c ∈ cs, c.isDigit = true) :
    toInt cs = Nat.ofDigitChars 10 cs 0 := by
  refine toInt.eq_2 cs ?_
  rintro rest rfl
  exact Bool.false_ne_true (h '-' List.mem_cons_self)

theorem blank_not_mem_padded (width n : ℕ) : ' ' ∉ padded width n :=
  blank_not_mem_of_isDigit fun _ => isDigit_of_mem_padded

theorem blank_not_mem_ofInt (n : ℤ) : ' ' ∉ ofInt n := by
  have hdigits : ' ' ∉ digits n.natAbs :=
    blank_not_mem_of_isDigit fun _ => isDigit_of_mem_digits
  rw [ofInt]
  split
  · exact List.not_mem_cons_of_ne_of_not_mem (by decide) hdigits
  · exact hdigits

theorem toInt_padded (width n : ℕ) : toInt (padded width n) = n := by
  rw [toInt_of_isDigit fun _ => isDigit_of_mem_padded, value_padded]

/-- A whole number is read back from its numeral. -/
theorem toInt_ofInt (n : ℤ) : toInt (ofInt n) = n := by
  rw [ofInt]
  split
  · rw [toInt, value_digits]
    omega
  · rw [toInt_of_isDigit fun _ => isDigit_of_mem_digits, value_digits]
    omega

end Dossier.Decimal
