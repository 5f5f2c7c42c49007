import Dossier.ByteSize
import Dossier.Proofs.Text.Digit
import Mathlib.Data.List.TakeWhile

/-!
# Reading sizes

A text is a size if it is digits and the letters of a unit, with nothing but blanks between them
and around them (`IsSize`).  Every other text is refused for its form, and every size is read, but
for two lapses: a size with too many digits, and one whose `K` is the kelvin sign, which is taken
for a `K` at first and then for no unit (`parse_accounted`).

A size is the number its digits write, in whatever alphabet, times its unit (`parse_written`).
-/

namespace Dossier.ByteSize

open Text (isBlank isDigit digitValues WrittenBy)

variable {c : Char} {text digits letters : List Char} {scale : Scale} {t : String}

/-! ## Letters -/

/-- Letters of either case name a unit. -/
def Scale.SpeltBy (scale : Scale) (letters : List Char) : Prop :=
  letters.map Char.toUpper = scale.name.toList

instance (scale : Scale) (letters : List Char) : Decidable (scale.SpeltBy letters) :=
  inferInstanceAs (Decidable (_ = _))

/-- The kelvin sign stands where a unit has its `K`. -/
def InKelvin (letters : List Char) : Prop := letters = ['\u212a', 'B'] ∨ letters = ['\u212a', 'b']

/-- The letters that units are made of. -/
def unitLetters : List Char := ['B', 'K', 'M', 'G']

theorem forall_unitLetters {P : Char → Prop} :
    (∀ letter ∈ unitLetters, P letter) ↔ P 'B' ∧ P 'K' ∧ P 'M' ∧ P 'G' := by
  simp [unitLetters]

/-- Only two characters have a given letter of a unit as their capital. -/
theorem toUpper_eq_iff {letter : Char} (h : letter ∈ unitLetters) :
    c.toUpper = letter ↔ c = letter ∨ c = letter.toLower := by
  by_cases hsmall : 'a'.val ≤ c.val ∧ c.val ≤ 'z'.val
  · have hall : ∀ n < 26, ∀ letter ∈ unitLetters, (Char.ofNat (97 + n)).toUpper = letter ↔
        Char.ofNat (97 + n) = letter ∨ Char.ofNat (97 + n) = letter.toLower := by
      simp only [forall_unitLetters]
      decide
    have hfirst : 97 ≤ c.toNat := UInt32.le_iff_toNat_le.mp hsmall.1
    have hlast : c.toNat ≤ 122 := UInt32.le_iff_toNat_le.mp hsmall.2
    have := hall (c.toNat - 97) (by omega) letter h
    rwa [Nat.add_sub_cancel' hfirst, Char.ofNat_toNat] at this
  · have hlower : ∀ letter ∈ unitLetters,
        'a'.val ≤ letter.toLower.val ∧ letter.toLower.val ≤ 'z'.val := by
      simp only [forall_unitLetters]
      decide
    have hne : c ≠ letter.toLower := fun he => hsmall (he ▸ hlower letter h)
    have hsame : c.toUpper = c := dif_neg hsmall
    rw [hsame, or_iff_left hne]

/-- The capital that a letter of a unit stands for, the kelvin sign for a `K`. -/
def capital (c : Char) : Char := if c = '\u212a' then 'K' else c.toUpper

theorem spells_eq {letter : Char} (h : letter ∈ unitLetters) :
    spells letter c = (capital c == letter) := by
  rw [Bool.eq_iff_iff, beq_iff_eq, capital]
  split
  · rename_i hkelvin
    subst hkelvin
    revert letter
    rw [forall_unitLetters]
    decide
  · rename_i hc
    rw [toUpper_eq_iff h]
    simp [spells, hc]

/-- What is taken for a unit has its letters as capitals. -/
theorem unit?_eq_some_iff :
    unit? letters = some scale ↔ letters.map capital = scale.name.toList := by
  have hB : ∀ c, spells 'B' c = (capital c == 'B') := fun c => spells_eq (by decide)
  have hK : ∀ c, spells 'K' c = (capital c == 'K') := fun c => spells_eq (by decide)
  have hM : ∀ c, spells 'M' c = (capital c == 'M') := fun c => spells_eq (by decide)
  have hG : ∀ c, spells 'G' c = (capital c == 'G') := fun c => spells_eq (by decide)
  match letters with
  | [] => cases scale <;> simp [unit?, Scale.name]
  | [c] => cases scale <;> simp [unit?, Scale.name, hB]
  | [c, b] =>
    by_cases hb : capital b = 'B'
    · cases scale <;> simp [unit?, Scale.name, hB, hK, hM, hG, hb] <;> grind
    · cases scale <;> simp [unit?, Scale.name, hB, hb]
  | _ :: _ :: _ :: _ => cases scale <;> simp [unit?, Scale.name]

theorem capital_of_ne (h : c ≠ '\u212a') : capital c = c.toUpper := if_neg h

/-- Letters that name a unit are taken for it, and have no kelvin sign among them. -/
theorem speltBy_iff : scale.SpeltBy letters ↔ unit? letters = some scale ∧ '\u212a' ∉ letters := by
  rw [unit?_eq_some_iff, Scale.SpeltBy]
  by_cases hk : '\u212a' ∈ letters
  · refine iff_of_false (fun h => ?_) fun h => h.2 hk
    have hmem : '\u212a' ∈ scale.name.toList := h ▸ List.mem_map_of_mem (f := Char.toUpper) hk
    cases scale <;> revert hmem <;> decide
  · rw [List.map_congr_left fun c hc => capital_of_ne fun he => hk (he ▸ hc)]
    exact (and_iff_left hk).symm

/-- Letters with a kelvin sign are taken for a unit just if it stands for the `K` of one. -/
theorem inKelvin_iff :
    InKelvin letters ↔ (∃ scale, unit? letters = some scale) ∧ '\u212a' ∈ letters := by
  constructor
  · rintro (rfl | rfl) <;> exact ⟨⟨.kilo, by decide⟩, by decide⟩
  · rintro ⟨⟨scale, hunit⟩, hk⟩
    rw [unit?_eq_some_iff] at hunit
    have hmem : 'K' ∈ scale.name.toList := hunit ▸ List.mem_map_of_mem (f := capital) hk
    obtain rfl : scale = .kilo := by cases scale <;> first | rfl | (revert hmem; decide)
    have hname : Scale.kilo.name.toList = ['K', 'B'] := by decide
    rw [hname] at hunit
    obtain ⟨c, rest, rfl, _, hrest⟩ := List.map_eq_cons_iff.mp hunit
    obtain ⟨b, _, rfl, hb, hend⟩ := List.map_eq_cons_iff.mp hrest
    obtain rfl := List.map_eq_nil_iff.mp hend
    have hbk : b ≠ '\u212a' := by
      rintro rfl
      revert hb
      decide
    obtain rfl : '\u212a' = c := by simpa [Ne.symm hbk] using hk
    rw [capital_of_ne hbk, toUpper_eq_iff (by decide)] at hb
    exact hb.imp (fun h => by rw [h]) fun h => by rw [h]; rfl

/-- The letters of a unit are neither blanks nor digits. -/
theorem apart_of_unit? (h : unit? letters = some scale) :
    ∀ c ∈ letters, isBlank c = false ∧ isDigit c = false := by
  intro c hc
  rw [unit?_eq_some_iff] at h
  have hnames : (scale.name.toList.all fun letter => letter ∈ unitLetters) = true := by
    cases scale <;> decide
  have hcapital : capital c ∈ unitLetters :=
    of_decide_eq_true (List.all_eq_true.mp hnames _ (h ▸ List.mem_map_of_mem hc))
  have hspelt : spells (capital c) c = true := by rw [spells_eq hcapital, beq_self_eq_true]
  have hletters : ∀ letter ∈ unitLetters, ∀ c, c = letter ∨ c = letter.toLower ∨ c = '\u212a' →
      isBlank c = false ∧ isDigit c = false := by
    simp only [forall_unitLetters, forall_eq_or_imp, forall_eq]
    decide
  simp only [spells, Bool.or_eq_true, Bool.and_eq_true, beq_iff_eq, or_assoc] at hspelt
  exact hletters _ hcapital c (hspelt.imp_right (Or.imp_right And.right))

theorem unit?_ne_nil (h : unit? letters = some scale) : letters ≠ [] := by
  rintro rfl
  cases h

/-! ## The form of a size -/

/-- A text is digits and letters, with nothing but blanks between them and around them. -/
structure Laid (text digits letters : List Char) : Prop where
  trimmed : ∃ between, (∀ c ∈ between, isBlank c = true) ∧
    Text.trim text = digits ++ between ++ letters
  ne_nil : digits ≠ []
  digits : ∀ c ∈ digits, isDigit c = true

/-- A text is a size: digits and the letters of a unit. -/
def IsSize (text : List Char) : Prop :=
  ∃ digits letters scale, Laid text digits letters ∧ Scale.SpeltBy scale letters

/-- Digits end where blanks or the letters of a unit begin, and the blanks end there too. -/
theorem Laid.parts (h : Laid text digits letters) (hunit : unit? letters = some scale) :
    (Text.trim text).takeWhile isDigit = digits ∧
      ((Text.trim text).dropWhile isDigit).dropWhile isBlank = letters := by
  obtain ⟨between, hbetween, htrim⟩ := h.trimmed
  have hletters : ∀ c ∈ letters.head?, isBlank c = false ∧ isDigit c = false := fun c hc =>
    apart_of_unit? hunit c (List.mem_of_mem_head? hc)
  have hrest : ∀ c ∈ (between ++ letters).head?, isDigit c = false := by
    intro c hc
    cases between with
    | nil => exact (hletters c hc).2
    | cons b between =>
        cases hc
        exact Text.isDigit_of_isBlank (hbetween _ (List.mem_cons_self ..))
  obtain ⟨htake, hdrop⟩ := Text.run_append h.digits hrest
  rw [htrim, List.append_assoc, htake, hdrop]
  exact ⟨rfl, (Text.run_append hbetween fun c hc => (hletters c hc).1).2⟩

/-- What is laid out as a size is read, unless it has too many digits or the kelvin sign. -/
theorem parse_of_laid (h : Laid t.toList digits letters) (hunit : unit? letters = some scale) :
    parse t = if maxDigits < digits.length then .error (.tooManyDigits digits.length)
      else if letters.contains '\u212a' then
        .error (.unknownUnit (String.ofList (letters.map Char.toUpper)))
      else .ok (Text.numberOf (digitValues digits) * scale.factor) := by
  obtain ⟨hdigits, hletters⟩ := h.parts hunit
  have hlength := Text.length_digitValues h.digits
  have hsome : (digitValues digits).isEmpty = false := by
    rw [List.isEmpty_eq_false_iff_exists_mem]
    exact List.exists_mem_of_length_pos (hlength ▸ List.length_pos_iff.mpr h.ne_nil)
  rw [parse, parseShown, Text.spanDigits_eq]
  dsimp only
  rw [hdigits, hletters, hsome, hunit, hlength]
  rfl

/-- Just the other texts are refused for their form. -/
theorem parse_malformed_iff : parse t = .error (.malformed (Text.quoted t)) ↔
    ∀ digits letters scale, Laid t.toList digits letters → unit? letters ≠ some scale := by
  constructor
  · intro hparse digits letters scale hlaid hunit
    rw [parse_of_laid hlaid hunit] at hparse
    split at hparse
    · cases hparse
    · split at hparse <;> cases hparse
  · intro hnone
    rw [parse, parseShown, Text.spanDigits_eq]
    dsimp only
    by_cases hdigits : (Text.trim t.toList).takeWhile isDigit = []
    · rw [hdigits]
      rfl
    · have hlaid : Laid t.toList ((Text.trim t.toList).takeWhile isDigit)
          (((Text.trim t.toList).dropWhile isDigit).dropWhile isBlank) := by
        refine ⟨⟨((Text.trim t.toList).dropWhile isDigit).takeWhile isBlank,
          fun _ => List.mem_takeWhile_imp, ?_⟩, hdigits, fun _ => List.mem_takeWhile_imp⟩
        rw [List.append_assoc, List.takeWhile_append_dropWhile, List.takeWhile_append_dropWhile]
      have hunit := Option.eq_none_iff_forall_ne_some.mpr fun scale => hnone _ _ scale hlaid
      rw [hunit]
      split <;> rfl

/-! ## What is not read -/

/-- What is meant as a size, and is neither read nor refused for its form, with the fault that
comes of it. -/
inductive Lapse (text : List Char) : Fault → Prop
  /-- There are too many digits. -/
  | long {digits letters : List Char} (laid : Laid text digits letters)
      (unit : (∃ scale, Scale.SpeltBy scale letters) ∨ InKelvin letters)
      (many : maxDigits < digits.length) : Lapse text (.tooManyDigits digits.length)
  /-- The kelvin sign stands for a `K`. -/
  | kelvin {digits letters : List Char} (laid : Laid text digits letters)
      (unit : InKelvin letters) (few : digits.length ≤ maxDigits) :
      Lapse text (.unknownUnit "\u212aB")

theorem exists_unit?_iff : (∃ scale, unit? letters = some scale) ↔
    (∃ scale, Scale.SpeltBy scale letters) ∨ InKelvin letters := by
  simp only [inKelvin_iff, speltBy_iff, exists_and_right]
  tauto

theorem Lapse.parse_eq {fault : Fault} (h : Lapse t.toList fault) : parse t = .error fault := by
  cases h with
  | long laid unit many =>
      obtain ⟨scale, hunit⟩ := exists_unit?_iff.mpr unit
      rw [parse_of_laid laid hunit, if_pos many]
  | kelvin laid unit few =>
      obtain ⟨⟨scale, hunit⟩, hkelvin⟩ := inKelvin_iff.mp unit
      rw [parse_of_laid laid hunit, if_neg (Nat.not_lt.mpr few),
        if_pos (List.contains_iff_mem.mpr hkelvin)]
      obtain rfl | rfl := unit <;> decide

theorem Lapse.formed {fault : Fault} (h : Lapse text fault) (shown : String) :
    fault ≠ .malformed shown := by
  cases h <;> exact Fault.noConfusion

/-- What is laid out as a size is read, or a lapse. -/
theorem lapse_or_read (hlaid : Laid t.toList digits letters) (hunit : unit? letters = some scale) :
    (∃ fault, Lapse t.toList fault) ∨ ∃ n, parse t = .ok n := by
  have hspelt := exists_unit?_iff.mp ⟨scale, hunit⟩
  by_cases hmany : maxDigits < digits.length
  · exact Or.inl ⟨_, .long hlaid hspelt hmany⟩
  · by_cases hkelvin : '\u212a' ∈ letters
    · exact Or.inl ⟨_, .kelvin hlaid (inKelvin_iff.mpr ⟨⟨scale, hunit⟩, hkelvin⟩)
        (Nat.le_of_not_lt hmany)⟩
    · refine Or.inr ⟨Text.numberOf (digitValues digits) * scale.factor, ?_⟩
      rw [parse_of_laid hlaid hunit, if_neg hmany,
        if_neg fun hmem => hkelvin (List.contains_iff_mem.mp hmem)]

/-- What is read is a size. -/
theorem isSize_of_parse {n : Nat} (h : parse t = .ok n) : IsSize t.toList := by
  by_contra hno
  have hmalformed : parse t = .error (.malformed (Text.quoted t)) := by
    refine parse_malformed_iff.mpr fun digits letters scale hlaid hunit => hno ?_
    refine ⟨digits, letters, scale, hlaid, speltBy_iff.mpr ⟨hunit, fun hkelvin => ?_⟩⟩
    rw [parse_of_laid hlaid hunit, if_pos (List.contains_iff_mem.mpr hkelvin)] at h
    split at h <;> cases h
  cases hmalformed.symm.trans h

/-- A text is read or refused for its form unless it is a lapse, and a lapse fails in a way of its
own.  What is read is just every size that is no lapse. -/
theorem parse_accounted (t : String) :
    (((∃ n, parse t = .ok n) ∨ parse t = .error (.malformed (Text.quoted t))) ↔
      ∀ fault, ¬ Lapse t.toList fault) ∧
    (∀ fault, Lapse t.toList fault → parse t = .error fault) ∧
    ((∃ n, parse t = .ok n) ↔ IsSize t.toList ∧ ∀ fault, ¬ Lapse t.toList fault) := by
  have hread : (∃ n, parse t = .ok n) → ∀ fault, ¬ Lapse t.toList fault := by
    rintro ⟨n, hn⟩ fault hlapse
    cases hlapse.parse_eq.symm.trans hn
  refine ⟨⟨?accounted, ?unlapsed⟩, fun _ => Lapse.parse_eq, ?sizes⟩
  case accounted =>
    rintro (hn | hmalformed) fault hlapse
    · exact hread hn fault hlapse
    · cases hlapse.parse_eq.symm.trans hmalformed
      exact hlapse.formed _ rfl
  case unlapsed =>
    intro hnone
    refine Classical.or_iff_not_imp_right.mpr fun hformed => ?_
    rw [parse_malformed_iff] at hformed
    push Not at hformed
    obtain ⟨digits, letters, scale, hlaid, hunit⟩ := hformed
    exact (lapse_or_read hlaid hunit).resolve_left fun ⟨fault, hlapse⟩ => hnone fault hlapse
  case sizes =>
    constructor
    · exact fun hn => ⟨hn.elim fun _ => isSize_of_parse, hread hn⟩
    · rintro ⟨⟨digits, letters, scale, hlaid, hspelt⟩, hnone⟩
      exact (lapse_or_read hlaid (speltBy_iff.mp hspelt).1).resolve_left
        fun ⟨fault, hlapse⟩ => hnone fault hlapse

/-- Five of a unit with the kelvin sign are refused, but not for their form. -/
theorem not_all_sizes_accounted : ¬ ∀ t : String,
    ((∃ n, parse t = .ok n) ∨ parse t = .error (.malformed (Text.quoted t))) ∧
      ((∃ n, parse t = .ok n) ↔ IsSize t.toList) := by
  intro hall
  have hfive : parse "5\u212aB" = .error (.unknownUnit "\u212aB") := by rfl
  obtain ⟨n, hn⟩ | hmalformed := (hall "5\u212aB").1
  · cases hfive.symm.trans hn
  · cases hfive.symm.trans hmalformed

/-! ## What a size says -/

theorem laid_of_parts {before between after : List Char} (hsome : digits ≠ [])
    (hdigits : ∀ c ∈ digits, isDigit c = true) (hunit : unit? letters = some scale)
    (hbefore : ∀ c ∈ before, isBlank c = true) (hbetween : ∀ c ∈ between, isBlank c = true)
    (hafter : ∀ c ∈ after, isBlank c = true) :
    Laid (before ++ (digits ++ between ++ letters) ++ after) digits letters := by
  have htrimmed : Text.Trimmed (digits ++ between ++ letters) := by
    refine ⟨fun c hc => ?_, fun c hc => ?_⟩
    · rw [List.append_assoc, List.head?_append_of_ne_nil _ hsome] at hc
      exact Text.isBlank_of_isDigit (hdigits c (List.mem_of_mem_head? hc))
    · rw [List.getLast?_append_of_ne_nil _ (unit?_ne_nil hunit)] at hc
      exact (apart_of_unit? hunit c (List.mem_of_getLast? hc)).1
  exact ⟨⟨between, hbetween, Text.trim_between hbefore hafter htrimmed⟩, hsome, hdigits⟩

/-- A number that is written by digits of any alphabets, with zeros in front, and a unit of which
each letter has either case, are read as the number times the unit, whatever blanks there are
before, between and after them. -/
theorem parse_written {n : Nat} {before between after : List Char} (hdigits : WrittenBy n digits)
    (hfew : digits.length ≤ maxDigits) (hletters : scale.SpeltBy letters)
    (hbefore : ∀ c ∈ before, isBlank c = true) (hbetween : ∀ c ∈ between, isBlank c = true)
    (hafter : ∀ c ∈ after, isBlank c = true) :
    parse (String.ofList (before ++ (digits ++ between ++ letters) ++ after)) =
      .ok (n * scale.factor) := by
  obtain ⟨hunit, hkelvin⟩ := speltBy_iff.mp hletters
  have hlaid : Laid (String.ofList (before ++ (digits ++ between ++ letters) ++ after)).toList
      digits letters := by
    rw [String.toList_ofList]
    exact laid_of_parts hdigits.ne_nil hdigits.isDigit hunit hbefore hbetween hafter
  rw [parse_of_laid hlaid hunit, if_neg (Nat.not_lt.mpr hfew),
    if_neg fun hmem => hkelvin (List.contains_iff_mem.mp hmem), Text.numberOf_written hdigits]

/-- Four kilobytes in digits of another alphabet, after a zero. -/
theorem arabic_written : parse "\u00a0\u0660\u0664\tkB\n" = .ok 4096 := by
  have hfour : WrittenBy 4 ['\u0660', '\u0664'] := ⟨1, .cons (by decide) (.cons (by decide) .nil)⟩
  exact @parse_written ['\u0660', '\u0664'] ['k', 'B'] .kilo 4 ['\u00a0'] ['\t'] ['\n'] hfour
    (by decide) (by decide) (List.forall_mem_singleton.mpr (by decide))
    (List.forall_mem_singleton.mpr (by decide)) (List.forall_mem_singleton.mpr (by decide))

end Dossier.ByteSize
