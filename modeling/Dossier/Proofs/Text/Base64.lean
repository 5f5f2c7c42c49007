import Dossier.Text.Base64

/-!
# Base64 that was written

What is written as base64 is read as the bytes that were written (`decode_encode`).  A letter is
read as the value it was written for, and a group of four letters gives its three bytes back and
leaves no bits over.  The last group is filled as far as it lacks letters, so it ends where the
text does.
-/

namespace Dossier.Base64

/-! ## Letters -/

/-- A letter has its value, is ASCII and is no padding. -/
theorem letter_facts : ∀ v < 64,
    sextet? (letter v) = some v ∧ letter v ≠ '=' ∧ (letter v).toNat < 0x80 := by decide

/-- A letter is pushed onto the group under way. -/
theorem decodeFrom_letter {v : Nat} (hv : v < 64) (group : Group) (before : Bytes)
    (rest : List Char) : decodeFrom group none before (letter v :: rest) =
      decodeFrom (group.push v).1 none ((group.push v).2 ++ before) rest := by
  obtain ⟨hvalue, hpad, -⟩ := letter_facts v hv
  rw [decodeFrom]
  simp [hvalue, hpad]

/-! ## Groups -/

section Bytes

variable (a b c : UInt8) (before : Bytes) (rest : List Char)

/-- The first two letters of a group give its first byte. -/
theorem decodeFrom_first {high : Nat} (hhigh : high < 16) :
    decodeFrom .empty none before
        (letter (a.toNat / 4) :: letter (a.toNat % 4 * 16 + high) :: rest) =
      decodeFrom (.two high) none (a :: before) rest := by
  have ha := a.toNat_lt
  rw [decodeFrom_letter (by omega), Group.push, decodeFrom_letter (by omega), Group.push,
    show a.toNat / 4 * 4 + (a.toNat % 4 * 16 + high) / 16 = a.toNat by omega,
    show (a.toNat % 4 * 16 + high) % 16 = high by omega, UInt8.ofNat_toNat]
  rfl

/-- The third letter of a group gives its second byte. -/
theorem decodeFrom_second {high : Nat} (hhigh : high < 4) :
    decodeFrom (.two (b.toNat / 16)) none before (letter (b.toNat % 16 * 4 + high) :: rest) =
      decodeFrom (.three high) none (b :: before) rest := by
  have hb := b.toNat_lt
  rw [decodeFrom_letter (by omega), Group.push,
    show b.toNat / 16 * 16 + (b.toNat % 16 * 4 + high) / 4 = b.toNat by omega,
    show (b.toNat % 16 * 4 + high) % 4 = high by omega, UInt8.ofNat_toNat]
  rfl

/-- The fourth letter of a group gives its last byte, and no bits are left. -/
theorem decodeFrom_third :
    decodeFrom (.three (c.toNat / 64)) none before (letter (c.toNat % 64) :: rest) =
      decodeFrom .empty none (c :: before) rest := by
  have hc := c.toNat_lt
  rw [decodeFrom_letter (by omega), Group.push,
    show c.toNat / 64 * 64 + c.toNat % 64 = c.toNat by omega, UInt8.ofNat_toNat]
  rfl

end Bytes

/-! ## Texts -/

theorem decodeFrom_encode (bytes before : Bytes) :
    decodeFrom .empty none before (encode bytes) = .ok (before.reverse ++ bytes) := by
  fun_induction encode bytes generalizing before with
  | case1 => rw [List.append_nil]; rfl
  | case2 a =>
      have hfirst := decodeFrom_first a before ['=', '='] (Nat.zero_lt_succ 15)
      rw [Nat.add_zero] at hfirst
      rw [hfirst, ← List.reverse_cons]
      rfl
  | case3 a b =>
      have hb := b.toNat_lt
      have hsecond := decodeFrom_second b (a :: before) ['='] (Nat.zero_lt_succ 3)
      rw [Nat.add_zero] at hsecond
      rw [decodeFrom_first a before _ (by omega), hsecond]
      show Except.ok (b :: a :: before).reverse = _
      simp
  | case4 a b c rest ih =>
      have hb := b.toNat_lt
      have hc := c.toNat_lt
      rw [decodeFrom_first a before _ (by omega), decodeFrom_second b (a :: before) _ (by omega),
        decodeFrom_third, ih]
      simp

/-- What is written is ASCII. -/
theorem encode_ascii (bytes : Bytes) : ∀ c ∈ encode bytes, c.toNat < 0x80 := by
  have hletter : ∀ {v}, v < 64 → (letter v).toNat < 0x80 := fun hv => (letter_facts _ hv).2.2
  fun_induction encode bytes with
  | case1 => exact nofun
  | case2 a =>
      have ha := a.toNat_lt
      simp [hletter (show a.toNat / 4 < 64 by omega),
        hletter (show a.toNat % 4 * 16 < 64 by omega)]
  | case3 a b =>
      have ha := a.toNat_lt
      have hb := b.toNat_lt
      simp [hletter (show a.toNat / 4 < 64 by omega),
        hletter (show a.toNat % 4 * 16 + b.toNat / 16 < 64 by omega),
        hletter (show b.toNat % 16 * 4 < 64 by omega)]
  | case4 a b c rest ih =>
      have ha := a.toNat_lt
      have hb := b.toNat_lt
      have hc := c.toNat_lt
      simp only [List.forall_mem_cons]
      exact ⟨hletter (by omega), hletter (by omega), hletter (by omega), hletter (by omega), ih⟩

/-- What is written does not start with padding. -/
theorem head?_encode (bytes : Bytes) : (encode bytes).head? ≠ some '=' := by
  have hfirst : ∀ a : UInt8, letter (a.toNat / 4) ≠ '=' := by
    intro a
    have ha := a.toNat_lt
    exact (letter_facts _ (by omega)).2.1
  fun_cases encode bytes with
  | case1 => exact nofun
  | case2 a => exact fun h => hfirst a (Option.some.inj h)
  | case3 a b => exact fun h => hfirst a (Option.some.inj h)
  | case4 a b c rest => exact fun h => hfirst a (Option.some.inj h)

/-- Bytes are read from what is written of them. -/
theorem decode_encode (bytes : Bytes) : decode (encode bytes) = .ok bytes := by
  have hascii : ¬ ((encode bytes).any fun c => decide (0x80 ≤ c.toNat)) = true := by
    rw [List.any_eq_true]
    rintro ⟨c, hc, hbeyond⟩
    exact Nat.not_le.mpr (encode_ascii bytes c hc) (of_decide_eq_true hbeyond)
  have hpad : ∀ rest, encode bytes = '=' :: rest → False := fun rest h =>
    head?_encode bytes (congrArg List.head? h)
  rw [decode, if_neg hascii]
  · exact decodeFrom_encode bytes []
  · exact hpad

end Dossier.Base64
