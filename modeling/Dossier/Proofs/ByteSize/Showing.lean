import Dossier.ByteSize
import Dossier.Proofs.Number.Nearest

/-!
# Showing sizes

The number that is shown of a size is a double rounded to some places: the double nearest to the
quotient of the size and its unit is the quotient of the size rounded to 53 bits
(`quotient_double`).  Below `2^53` that loses nothing.  So a size is shown exactly if it is below
1024, and else as the decimal nearest to its quotient (`text?_rounded`).

The unit is chosen before the number is rounded.  A size is shown as less than 1024 of every unit
but the greatest, except for the sizes just below the next unit, which are shown as 1024
(`text?_below`).
-/

namespace Dossier.ByteSize

open Decimal (Rounded Writes roundDiv)

variable {n : ℕ} {t : String} {y y' : ℚ} {scale scale' : Scale}

/-! ## Texts of sizes -/

theorem Scale.factor_pos (scale : Scale) : 0 < scale.factor := by
  cases scale <;> decide

theorem text?_of_isShowable {n : ℤ} (h : isShowable n = true) : text? n = some (text n) := if_pos h

theorem eq_text_of_text? {n : ℤ} (h : text? n = some t) : t = text n := by
  rw [text?] at h
  split at h <;> cases h
  rfl

theorem text_small (h : n < 1024) :
    text n = String.ofList (Decimal.digits n ++ ' ' :: Scale.byte.name.toList) := by
  have hnot : ¬ (n : ℤ) < 0 := by omega
  rw [text, if_pos (by omega), Decimal.ofInt, if_neg hnot, Int.natAbs_natCast]
  rfl

theorem text_large (h : 1024 ≤ n) : text n = String.ofList
    (Decimal.fixed (scaleOf n).2 (round53 n) (scaleOf n).1.factor ++
      ' ' :: (scaleOf n).1.name.toList) := by
  rw [text, if_neg (by omega), Int.toNat_natCast]

theorem scaleOf_kilo (h : 1024 ≤ n) (h' : n < 1024 ^ 2) : scaleOf n = (.kilo, 0) := by
  rw [scaleOf, Nat.pow_eq, if_neg (by omega), if_pos h']

theorem scaleOf_mega (h : 1024 ^ 2 ≤ n) (h' : n < 1024 ^ 3) : scaleOf n = (.mega, 1) := by
  rw [scaleOf, Nat.pow_eq, Nat.pow_eq, if_neg (by omega), if_neg (Nat.not_lt.mpr h), if_pos h']

theorem scaleOf_giga (h : 1024 ^ 3 ≤ n) : scaleOf n = (.giga, 2) := by
  rw [scaleOf, Nat.pow_eq, Nat.pow_eq, if_neg (by omega), if_neg (by omega),
    if_neg (Nat.not_lt.mpr h)]

/-- A text in parts: a number, a blank and a name. -/
theorem ofList_blank (cs : List Char) (name : String) :
    String.ofList (cs ++ ' ' :: name.toList) = String.ofList cs ++ " " ++ name := by
  rw [← String.toList_inj]
  simp

/-! ## The detour through doubles -/

theorem Scale.factor_eq_two_pow (scale : Scale) : ∃ k, scale.factor = 2 ^ k := by
  cases scale with
  | byte => exact ⟨0, rfl⟩
  | kilo => exact ⟨10, by decide⟩
  | mega => exact ⟨20, by decide⟩
  | giga => exact ⟨30, by decide⟩

/-- A size reaches the unit it is shown in. -/
theorem factor_scaleOf_le (h : 1024 ≤ n) : (scaleOf n).1.factor ≤ n := by
  rcases Nat.lt_or_ge n (1024 ^ 2) with hkilo | hmega
  · rwa [scaleOf_kilo h hkilo]
  rcases Nat.lt_or_ge n (1024 ^ 3) with hmega' | hgiga
  · rwa [scaleOf_mega hmega hmega']
  · rwa [scaleOf_giga hgiga]

/-- A size of up to 53 bits is a double. -/
theorem round53_of_lt (h : n < 2 ^ 53) : round53 n = n := by
  have hlog : n.log2 - 52 = 0 := by
    rcases Nat.eq_zero_or_pos n with rfl | hpos
    · rfl
    · have := (Nat.log2_lt hpos.ne').mpr h
      omega
  rw [round53, hlog]
  exact (Nat.mul_one _).trans (Decimal.roundDiv_one n)

/-- A size that is rounded to 53 bits, divided by a power of two, has the significand and the
exponent of the double that is nearest to its quotient. -/
theorem round53_div (n k : ℕ) :
    (round53 n : ℚ) / 2 ^ k = Binary64.significandOf n k * 2 ^ Binary64.cut n k := by
  rw [Binary64.significandOf_two_pow, round53, Nat.pow_eq, div_eq_iff (by positivity)]
  push_cast
  rw [← Binary64.two_zpow_cut n k]
  ring

theorem lt_pow_mul_iff (n i k : ℕ) : n < Nat.pow 2 i * 2 ^ k ↔ (n : ℚ) / 2 ^ k < 2 ^ (i : ℤ) := by
  rw [div_lt_iff₀ (by positivity), zpow_natCast, Nat.pow_eq]
  exact_mod_cast Iff.rfl

/-- The double nearest to the quotient of a size and its unit is the quotient of the size rounded to
53 bits.  If it is beyond all doubles the size cannot be shown, and else it can. -/
theorem quotient_double (h : 1024 ≤ n) :
    (isShowable n = true → ∃ x,
      Binary64.ofFloat? (Binary64.nearest false n (scaleOf n).1.factor) = some x ∧
        x.value = round53 n / (scaleOf n).1.factor) ∧
    (isShowable n = false →
      Binary64.ofFloat? (Binary64.nearest false n (scaleOf n).1.factor) = none) := by
  have hle := factor_scaleOf_le h
  have hshowable : isShowable n = decide (round53 n < Nat.pow 2 1024 * (scaleOf n).1.factor) := by
    have hlarge : ¬ (n : ℤ) < 1024 := by omega
    rw [isShowable, Int.toNat_natCast, decide_eq_false hlarge, Bool.false_or]
  generalize hbits : 1024 = bits at hshowable
  obtain ⟨k, hk⟩ := (scaleOf n).1.factor_eq_two_pow
  obtain ⟨hfinite, hinfinite⟩ := Binary64.ofFloat?_nearest (hk ▸ hle)
  rw [hshowable, hk, decide_eq_true_iff, decide_eq_false_iff_not, lt_pow_mul_iff, ← hbits,
    Nat.cast_pow, Nat.cast_ofNat, Nat.cast_ofNat, round53_div]
  exact ⟨hfinite, hinfinite⟩

theorem lt_pow_mul_factor {i : ℕ} (h : n < 2 ^ 53) (hi : 53 ≤ i) (scale : Scale) :
    n < Nat.pow 2 i * scale.factor :=
  (h.trans_le (Nat.pow_le_pow_right Nat.two_pos hi)).trans_le
    (Nat.le_mul_of_pos_right _ scale.factor_pos)

/-- A size of up to 53 bits can be shown. -/
theorem isShowable_of_lt (h : n < 2 ^ 53) : isShowable n = true := by
  rw [isShowable, Int.toNat_natCast, round53_of_lt h, Bool.or_eq_true]
  generalize hbits : 1024 = bits
  exact Or.inr (decide_eq_true (lt_pow_mul_factor h (by omega) _))

/-! ## Rounding -/

/-- A text shows a size as so many of a unit, rounded to so many places. -/
structure ShownAs (n unit places : ℕ) (name t : String) (y : ℚ) (numeral : List Char) : Prop where
  /-- The double that the quotient is taken for is the quotient. -/
  double : ∃ x, Binary64.ofFloat? (Binary64.nearest false n unit) = some x ∧ x.value = n / unit
  /-- The number is the nearest decimal. -/
  rounded : Rounded places (n / unit) y
  /-- It is written with all its places. -/
  writes : Writes places y numeral
  /-- The name of the unit follows it. -/
  text : t = String.ofList numeral ++ " " ++ name
  /-- It is off by at most half a unit of the last place. -/
  near : |y * unit - n| ≤ unit / (2 * 10 ^ places)

theorem text_shownAs {unit places : ℕ} (hlarge : 1024 ≤ n) (h : n < 2 ^ 53)
    (hscale : scaleOf n = (scale, places)) (hunit : scale.factor = unit) :
    ∃ y numeral, ShownAs n unit places scale.name (text n) y numeral := by
  subst hunit
  have hpos : (0 : ℚ) < scale.factor := by exact_mod_cast scale.factor_pos
  obtain ⟨x, hx, hvalue⟩ := (quotient_double hlarge).1 (isShowable_of_lt h)
  rw [hscale] at hx hvalue
  rw [round53_of_lt h] at hvalue
  have hrounded := Decimal.rounded_roundDiv places n scale.factor_pos
  refine ⟨_, _, ⟨x, hx, hvalue⟩, hrounded, Decimal.fixed_writes places n scale.factor, ?_, ?_⟩
  · rw [text_large hlarge, hscale, round53_of_lt h, ofList_blank]
  · have hoff := hrounded.abs_sub_le
    generalize (roundDiv _ _ / 10 ^ places : ℚ) = y at hoff ⊢
    have hscaled : n - y * scale.factor = (n / scale.factor - y) * scale.factor := by
      field_simp
    calc |y * scale.factor - n|
        = |(n / scale.factor - y) * scale.factor| := by rw [abs_sub_comm, hscaled]
      _ = |n / scale.factor - y| * scale.factor := by rw [abs_mul, abs_of_pos hpos]
      _ ≤ 1 / (2 * 10 ^ places) * scale.factor := mul_le_mul_of_nonneg_right hoff hpos.le
      _ = scale.factor / (2 * 10 ^ places) := one_div_mul_eq_div _ _

/-- Sizes of up to 53 bits are all shown, those below 1024 exactly and the others rounded to none,
one or two places of a unit. -/
theorem text?_rounded (h : n < 2 ^ 53) :
    ∃ t, text? n = some t ∧
      (n < 1024 → t = toString n ++ " B") ∧
      (1024 ≤ n → n < 1024 ^ 2 → ∃ y numeral, ShownAs n 1024 0 "KB" t y numeral) ∧
      (1024 ^ 2 ≤ n → n < 1024 ^ 3 → ∃ y numeral, ShownAs n (1024 ^ 2) 1 "MB" t y numeral) ∧
      (1024 ^ 3 ≤ n → ∃ y numeral, ShownAs n (1024 ^ 3) 2 "GB" t y numeral) := by
  have hshowable := text?_of_isShowable (isShowable_of_lt h)
  refine ⟨text n, hshowable, fun hsmall => ?_, fun hn hn' => ?_, fun hn hn' => ?_, fun hn => ?_⟩
  · rw [text_small hsmall, ofList_blank, Nat.toString_eq_ofList_toDigits, String.append_assoc]
    rfl
  · exact text_shownAs hn h (scaleOf_kilo hn hn') rfl
  · exact text_shownAs (le_trans (by decide) hn) h (scaleOf_mega hn hn') Nat.pow_eq
  · exact text_shownAs (le_trans (by decide) hn) h (scaleOf_giga hn) Nat.pow_eq

/-- A tie: one and a quarter are shown with an even last digit. -/
theorem quarter_rounded : text? (1310720 : ℕ) = some "1.2 MB" ∧
    ∃ y numeral, ShownAs 1310720 (1024 ^ 2) 1 "MB" "1.2 MB" y numeral := by
  have htext : text? (1310720 : ℕ) = some "1.2 MB" := by decide +kernel
  obtain ⟨t, ht, -, -, hmega, -⟩ := @text?_rounded 1310720 (by decide)
  obtain rfl := Option.some.inj (htext.symm.trans ht)
  exact ⟨htext, hmega (by decide) (by decide)⟩

/-! ## What a text shows -/

/-- A text shows a number of a unit. -/
def Shows (y : ℚ) (scale : Scale) (t : String) : Prop :=
  ∃ (places : ℕ) (numeral : List Char), Writes places y numeral ∧
    t = String.ofList (numeral ++ ' ' :: scale.name.toList)

theorem Scale.name_inj (h : scale.name.toList = scale'.name.toList) : scale = scale' := by
  revert h
  cases scale <;> cases scale' <;> decide

/-- A text shows one number and one unit. -/
theorem Shows.unique (h : Shows y scale t) (h' : Shows y' scale' t) : y = y' ∧ scale = scale' := by
  obtain ⟨places, numeral, hwrites, rfl⟩ := h
  obtain ⟨places', numeral', hwrites', heq⟩ := h'
  have hname : ' ' ∉ scale.name.toList := by cases scale <;> decide
  obtain ⟨rfl, -, hnames⟩ := (List.append_cons_inj_of_notMem hwrites.blank_not_mem hname).mp
    (String.ofList_injective heq)
  exact ⟨hwrites.unique hwrites', Scale.name_inj hnames⟩

theorem text_large_shows {places : ℕ} (hlarge : 1024 ≤ n) (hscale : scaleOf n = (scale, places)) :
    Shows (roundDiv (round53 n * 10 ^ places) scale.factor / 10 ^ places) scale (text n) :=
  ⟨places, _, Decimal.fixed_writes places (round53 n) scale.factor, by
    rw [text_large hlarge, hscale]⟩

/-! ## Just below the next unit -/

/-- A size is no more than half a unit of the last place below the next unit. -/
def Brims (n : ℕ) : Prop :=
  (1024 ^ 2 - 512 ≤ n ∧ n < 1024 ^ 2) ∨ (20479 * 1024 ^ 2 ≤ 20 * n ∧ n < 1024 ^ 3)

instance (n : ℕ) : Decidable (Brims n) := inferInstanceAs (Decidable (_ ∨ _))

/-- What is less than 1024 of a unit is rounded to less, unless it is half a unit of the last place
below it or nearer: then it is rounded to 1024. -/
theorem rounded_brim {unit : ℕ} (places : ℕ) (hunit : 0 < unit) (hn : n < 1024 * unit) :
    (2 * (n * 10 ^ places) + unit < 2 * (1024 * 10 ^ places * unit) →
      (roundDiv (n * 10 ^ places) unit / 10 ^ places : ℚ) < 1024) ∧
    (¬ 2 * (n * 10 ^ places) + unit < 2 * (1024 * 10 ^ places * unit) →
      (roundDiv (n * 10 ^ places) unit / 10 ^ places : ℚ) = 1024) := by
  have hpos : (0 : ℚ) < 10 ^ places := by positivity
  have heven : Even (1024 * 10 ^ places) := (by decide : Even 1024).mul_right _
  have hiff := Decimal.roundDiv_lt_iff (n * 10 ^ places) hunit heven
  constructor
  · intro hlt
    rw [div_lt_iff₀ hpos]
    exact_mod_cast hiff.mpr hlt
  · intro hnot
    have hle : roundDiv (n * 10 ^ places) unit ≤ 1024 * 10 ^ places := by
      refine Decimal.roundDiv_le hunit ?_
      rw [Nat.mul_right_comm]
      exact Nat.mul_le_mul_right _ hn.le
    have heq := le_antisymm hle (not_lt.mp (mt hiff.mp hnot))
    rw [heq, div_eq_iff hpos.ne']
    push_cast
    rfl

/-- A size of at least 1024 that does not reach the next unit is shown as less than 1024 of its
unit, or as 1024 if it brims it. -/
theorem text_shows_brim {places : ℕ} (hlarge : 1024 ≤ n) (h : n < 2 ^ 53)
    (hscale : scaleOf n = (scale, places)) (hnext : n < 1024 * scale.factor)
    (hbrims : Brims n ↔
      ¬ 2 * (n * 10 ^ places) + scale.factor < 2 * (1024 * 10 ^ places * scale.factor)) :
    ∃ y, Shows y scale (text n) ∧ (Brims n → y = 1024) ∧ (¬ Brims n → y < 1024) := by
  have hshows := text_large_shows hlarge hscale
  rw [round53_of_lt h] at hshows
  obtain ⟨hbelow, hbrim⟩ := rounded_brim places scale.factor_pos hnext
  exact ⟨_, hshows, fun hn => hbrim (hbrims.mp hn),
    fun hn => hbelow (not_not.mp (mt hbrims.mpr hn))⟩

/-- Every text of a size shows a number, which is less than 1024 or of the greatest unit unless the
size brims its unit. -/
theorem text_shows (n : ℕ) : ∃ y scale, Shows y scale (text n) ∧
    (Brims n → scale ≠ .giga ∧ y = 1024) ∧ (¬ Brims n → scale = .giga ∨ y < 1024) := by
  rcases Nat.lt_or_ge n 1024 with hsmall | hlarge
  · refine ⟨n, .byte, ⟨0, _, Decimal.digits_writes n, text_small hsmall⟩, fun hbrims => ?_,
      fun _ => Or.inr (by exact_mod_cast hsmall)⟩
    rw [Brims] at hbrims
    omega
  rcases Nat.lt_or_ge n (1024 ^ 2) with hkilo | hmega
  · have hbrims : Brims n ↔ ¬ 2 * (n * 10 ^ 0) + 1024 < 2 * (1024 * 10 ^ 0 * 1024) := by
      rw [Brims]
      omega
    obtain ⟨y, hshows, hbrim, hbelow⟩ := text_shows_brim hlarge (hkilo.trans (by decide))
      (scaleOf_kilo hlarge hkilo) hkilo hbrims
    exact ⟨y, .kilo, hshows, fun h => ⟨nofun, hbrim h⟩, fun h => Or.inr (hbelow h)⟩
  rcases Nat.lt_or_ge n (1024 ^ 3) with hmega' | hgiga
  · have hbrims : Brims n ↔
        ¬ 2 * (n * 10 ^ 1) + 1024 ^ 2 < 2 * (1024 * 10 ^ 1 * 1024 ^ 2) := by
      rw [Brims]
      omega
    obtain ⟨y, hshows, hbrim, hbelow⟩ := text_shows_brim hlarge (hmega'.trans (by decide))
      (scaleOf_mega hmega hmega') hmega' hbrims
    exact ⟨y, .mega, hshows, fun h => ⟨nofun, hbrim h⟩, fun h => Or.inr (hbelow h)⟩
  · refine ⟨_, _, text_large_shows hlarge (scaleOf_giga hgiga), fun hbrims => ?_,
      fun _ => Or.inl rfl⟩
    rw [Brims] at hbrims
    omega

/-- A size that can be shown is shown as one number of one unit.  Unless that is the greatest unit,
the number is less than 1024 just if the size does not brim the unit, and else it is 1024. -/
theorem text?_below (h : text? n = some t) :
    ∃ y scale, Shows y scale t ∧ (∀ y' scale', Shows y' scale' t → y' = y ∧ scale' = scale) ∧
      (Brims n → scale ≠ .giga ∧ y = 1024) ∧ (¬ Brims n → scale = .giga ∨ y < 1024) := by
  rw [eq_text_of_text? h]
  obtain ⟨y, scale, hshows, hbrims, hbelow⟩ := text_shows n
  exact ⟨y, scale, hshows, fun _ _ h' => h'.unique hshows, hbrims, hbelow⟩

/-- One byte less than a megabyte brims the kilobytes. -/
theorem megabyte_less_one : text? (1048575 : ℕ) = some "1024 KB" ∧ Brims 1048575 ∧
    ∃ y scale, Shows y scale "1024 KB" ∧ scale ≠ .giga ∧ y = 1024 := by
  have htext : text? (1048575 : ℕ) = some "1024 KB" := by decide +kernel
  have hbrims : Brims 1048575 := Or.inl (by decide)
  obtain ⟨y, scale, hshows, -, hbrim, -⟩ := text?_below htext
  exact ⟨htext, hbrims, y, scale, hshows, hbrim hbrims⟩

/-- One byte less than a megabyte is shown as 1024 of a unit that is not the greatest. -/
theorem not_all_below : ¬ ∀ (n : ℕ) (t : String), text? n = some t →
    ∀ (y : ℚ) (scale : Scale), Shows y scale t → scale ≠ .giga → y < 1024 := by
  intro hall
  have htext : text? (1048575 : ℕ) = some "1024 KB" := by decide +kernel
  have hshows : Shows (1024 : ℕ) .kilo "1024 KB" :=
    ⟨0, _, Decimal.digits_writes 1024, by decide +kernel⟩
  have hbelow := hall 1048575 "1024 KB" htext _ _ hshows nofun
  exact absurd (by exact_mod_cast hbelow) (lt_irrefl 1024)

end Dossier.ByteSize
