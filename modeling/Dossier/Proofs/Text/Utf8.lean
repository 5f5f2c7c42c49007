import Dossier.Text.Utf8

/-!
# Reading what was written

The bytes of a text are read as the text (`decode_encode`).  Each character is
written with one to four bytes and read by the form with as many
(`decodeFrom_encodeChar`).
-/

namespace Dossier.Utf8

/-! ## Bytes -/

section Byte

variable {n : Nat} (h : n < 256)
include h

theorem toNat_byte : (UInt8.ofNat n).toNat = n := by
  rw [UInt8.toNat_ofNat', Nat.mod_eq_of_lt h]

theorem byte_lt_iff (b : UInt8) : UInt8.ofNat n < b ↔ n < b.toNat := by
  rw [UInt8.lt_iff_toNat_lt, toNat_byte h]

theorem byte_eq_iff (b : UInt8) : UInt8.ofNat n = b ↔ n = b.toNat := by
  rw [← UInt8.toNat_inj, toNat_byte h]

theorem le_byte_iff (b : UInt8) : b ≤ UInt8.ofNat n ↔ b.toNat ≤ n := by
  rw [UInt8.le_iff_toNat_le, toNat_byte h]

end Byte

theorem isContinuation_byte (n : Nat) : isContinuation (UInt8.ofNat (n % 64 + 128)) = true := by
  have hn : n % 64 + 128 < 256 := by omega
  rw [isContinuation, Bool.and_eq_true, decide_eq_true_iff, decide_eq_true_iff, byte_lt_iff hn,
    le_byte_iff hn]
  exact ⟨Nat.le_add_left _ _, Nat.add_lt_add_right (Nat.mod_lt n (by decide)) 128⟩

theorem bits_byte {n k m : Nat} (hn : n % m + k < 256) (hk : k % m = 0) :
    bits m (UInt8.ofNat (n % m + k)) = n % m := by
  rw [bits, toNat_byte hn, Nat.add_mod, hk, Nat.add_zero, Nat.mod_mod, Nat.mod_mod]

/-- The tests that a first byte meets before its form is known. -/
theorem lead_tests {n : Nat} (hn : n < 256) (h : 194 ≤ n) (h' : n < 245) :
    ¬ UInt8.ofNat n < 0x80 ∧
      ¬ (decide (UInt8.ofNat n < 0xC2) || decide (0xF5 ≤ UInt8.ofNat n)) = true := by
  simp only [Bool.or_eq_true, decide_eq_true_iff, byte_lt_iff hn, le_byte_iff hn,
    UInt8.reduceToNat]
  omega

/-! ## Characters -/

/-- A character is no surrogate. -/
theorem char_bounds (c : Char) : c.toNat < 0xD800 ∨ 0xDFFF < c.toNat ∧ c.toNat < 0x110000 :=
  c.valid

section Characters

variable {c : Char} (position : Nat) (before : List Char) (rest : Bytes)

theorem decodeFrom_one (h : c.toNat ≤ 127) :
    decodeFrom position before (UInt8.ofNat c.toNat :: rest) =
      decodeFrom (position + 1) (c :: before) rest := by
  have hn : c.toNat < 256 := by omega
  have hone : UInt8.ofNat c.toNat < 0x80 := by
    simp only [byte_lt_iff hn, UInt8.reduceToNat]
    omega
  rw [decodeFrom.eq_def]
  simp only [if_pos hone, toNat_byte hn, Char.ofNat_toNat]

theorem decodeFrom_two (h : 127 < c.toNat) (h' : c.toNat ≤ 2047) :
    decodeFrom position before (UInt8.ofNat (c.toNat / 64 % 32 + 192) ::
      UInt8.ofNat (c.toNat % 64 + 128) :: rest) =
        decodeFrom (position + 2) (c :: before) rest := by
  have hn : c.toNat / 64 % 32 + 192 < 256 := by omega
  obtain ⟨hone, hstart⟩ := lead_tests hn (by omega) (by omega)
  have htwo : UInt8.ofNat (c.toNat / 64 % 32 + 192) < 0xE0 := by
    simp only [byte_lt_iff hn, UInt8.reduceToNat]
    omega
  have hchar : charOfTwo (UInt8.ofNat (c.toNat / 64 % 32 + 192))
      (UInt8.ofNat (c.toNat % 64 + 128)) = c := by
    rw [charOfTwo, bits_byte hn (by decide), bits_byte (by omega) (by decide),
      show c.toNat / 64 % 32 * 64 + c.toNat % 64 = c.toNat by omega, Char.ofNat_toNat]
  rw [decodeFrom.eq_def]
  simp only [if_neg hone, if_neg hstart, if_pos htwo, isContinuation_byte, if_true, hchar]

theorem decodeFrom_three (h : 2047 < c.toNat) (h' : c.toNat ≤ 65535) :
    decodeFrom position before (UInt8.ofNat (c.toNat / 4096 % 16 + 224) ::
      UInt8.ofNat (c.toNat / 64 % 64 + 128) :: UInt8.ofNat (c.toNat % 64 + 128) :: rest) =
        decodeFrom (position + 3) (c :: before) rest := by
  have hn : c.toNat / 4096 % 16 + 224 < 256 := by omega
  have hm : c.toNat / 64 % 64 + 128 < 256 := by omega
  obtain ⟨hone, hstart⟩ := lead_tests hn (by omega) (by omega)
  have htwo : ¬ UInt8.ofNat (c.toNat / 4096 % 16 + 224) < 0xE0 := by
    simp only [byte_lt_iff hn, UInt8.reduceToNat]
    omega
  have hthree : UInt8.ofNat (c.toNat / 4096 % 16 + 224) < 0xF0 := by
    simp only [byte_lt_iff hn, UInt8.reduceToNat]
    omega
  have hsecond : isSecondOfThree (UInt8.ofNat (c.toNat / 4096 % 16 + 224))
      (UInt8.ofNat (c.toNat / 64 % 64 + 128)) = true := by
    have hvalid := char_bounds c
    rw [isSecondOfThree, isContinuation_byte, Bool.true_and]
    simp only [byte_lt_iff hm, UInt8.reduceToNat]
    split <;> simp only [bne_iff_ne, ne_eq, byte_eq_iff hn, UInt8.reduceToNat] <;> omega
  have hchar : charOfThree (UInt8.ofNat (c.toNat / 4096 % 16 + 224))
      (UInt8.ofNat (c.toNat / 64 % 64 + 128)) (UInt8.ofNat (c.toNat % 64 + 128)) = c := by
    rw [charOfThree, bits_byte hn (by decide), bits_byte hm (by decide),
      bits_byte (by omega) (by decide), show (c.toNat / 4096 % 16 * 64 + c.toNat / 64 % 64) * 64 +
        c.toNat % 64 = c.toNat by omega, Char.ofNat_toNat]
  rw [decodeFrom.eq_def]
  simp only [if_neg hone, if_neg hstart, if_neg htwo, if_pos hthree, hsecond, isContinuation_byte,
    if_true, hchar]
  rfl

theorem decodeFrom_four (h : 65535 < c.toNat) :
    decodeFrom position before (UInt8.ofNat (c.toNat / 262144 % 8 + 240) ::
      UInt8.ofNat (c.toNat / 4096 % 64 + 128) :: UInt8.ofNat (c.toNat / 64 % 64 + 128) ::
        UInt8.ofNat (c.toNat % 64 + 128) :: rest) =
          decodeFrom (position + 4) (c :: before) rest := by
  have hvalid := char_bounds c
  have hn : c.toNat / 262144 % 8 + 240 < 256 := by omega
  have hm : c.toNat / 4096 % 64 + 128 < 256 := by omega
  obtain ⟨hone, hstart⟩ := lead_tests hn (by omega) (by omega)
  have htwo : ¬ UInt8.ofNat (c.toNat / 262144 % 8 + 240) < 0xE0 := by
    simp only [byte_lt_iff hn, UInt8.reduceToNat]
    omega
  have hthree : ¬ UInt8.ofNat (c.toNat / 262144 % 8 + 240) < 0xF0 := by
    simp only [byte_lt_iff hn, UInt8.reduceToNat]
    omega
  have hsecond : isSecondOfFour (UInt8.ofNat (c.toNat / 262144 % 8 + 240))
      (UInt8.ofNat (c.toNat / 4096 % 64 + 128)) = true := by
    rw [isSecondOfFour, isContinuation_byte, Bool.true_and]
    simp only [byte_lt_iff hm, UInt8.reduceToNat]
    split <;> simp only [bne_iff_ne, ne_eq, byte_eq_iff hn, UInt8.reduceToNat] <;> omega
  have hchar : charOfFour (UInt8.ofNat (c.toNat / 262144 % 8 + 240))
      (UInt8.ofNat (c.toNat / 4096 % 64 + 128)) (UInt8.ofNat (c.toNat / 64 % 64 + 128))
      (UInt8.ofNat (c.toNat % 64 + 128)) = c := by
    rw [charOfFour, bits_byte hn (by decide), bits_byte hm (by decide),
      bits_byte (by omega) (by decide), bits_byte (by omega) (by decide),
      show ((c.toNat / 262144 % 8 * 64 + c.toNat / 4096 % 64) * 64 + c.toNat / 64 % 64) * 64 +
        c.toNat % 64 = c.toNat by omega, Char.ofNat_toNat]
  rw [decodeFrom.eq_def]
  simp only [if_neg hone, if_neg hstart, if_neg htwo, if_neg hthree, hsecond, isContinuation_byte,
    if_true, hchar]
  rfl

/-- A character is read from the bytes it is written with. -/
theorem decodeFrom_encodeChar (c : Char) (position : Nat) (before : List Char) (rest : Bytes) :
    ∃ next, decodeFrom position before (String.utf8EncodeChar c ++ rest) =
      decodeFrom next (c :: before) rest := by
  rw [String.utf8EncodeChar, show c.val.toNat = c.toNat from rfl]
  split
  · rename_i h
    exact ⟨_, decodeFrom_one position before rest h⟩
  · split
    · rename_i h h'
      exact ⟨_, decodeFrom_two position before rest (by omega) h'⟩
    · split
      · rename_i h h'
        exact ⟨_, decodeFrom_three position before rest (by omega) h'⟩
      · rename_i h
        exact ⟨_, decodeFrom_four position before rest (by omega)⟩

end Characters

/-! ## Texts -/

theorem decodeFrom_encode (cs : List Char) :
    ∀ (position : Nat) (before : List Char),
      decodeFrom position before (encode cs) = .ok (before.reverse ++ cs) := by
  induction cs with
  | nil =>
      intro position before
      rw [List.append_nil]
      rfl
  | cons c cs ih =>
      intro position before
      obtain ⟨next, h⟩ := decodeFrom_encodeChar c position before (encode cs)
      rw [encode, List.flatMap_cons, ← encode, h, ih]
      simp

/-- The bytes of a text are read as the text. -/
theorem decode_encode (cs : List Char) : decode (encode cs) = .ok cs :=
  decodeFrom_encode cs 0 []

end Dossier.Utf8
