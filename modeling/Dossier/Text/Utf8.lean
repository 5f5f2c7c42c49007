import Dossier.Text.Quoted

/-!
# UTF-8

`encode` writes a text as bytes and `decode` reads bytes as a text.  Reading
refuses overlong forms, surrogates and values beyond `U+10FFFF`.  A fault
tells where the offending bytes start, how many they are and what is wrong:
a byte that starts nothing, a byte that does not continue what was started, or
an end that comes too early.  The span of a fault is the longest start of a
well-formed sequence.
-/

namespace Dossier

/-- The bytes of a file or a message. -/
abbrev Bytes := List UInt8

namespace Utf8

/-! ## Writing -/

/-- A text as bytes. -/
def encode (cs : List Char) : Bytes := cs.flatMap String.utf8EncodeChar

/-! ## Reading -/

/-- What is wrong with bytes that are no UTF-8. -/
inductive Defect
  /-- A byte that starts no character. -/
  | invalidStart
  /-- A byte that does not continue the character started before it. -/
  | invalidContinuation
  /-- The bytes end inside a character. -/
  | unexpectedEnd
deriving DecidableEq, Repr

/-- A fault: its place, the number of bytes it spans and the first of them. -/
structure Fault where
  position : Nat
  width : Nat
  byte : UInt8
  defect : Defect
deriving DecidableEq, Repr

/-- A byte `10xxxxxx`. -/
def isContinuation (b : UInt8) : Bool := 0x80 ≤ b && b < 0xC0

/-- The second byte of a three-byte form: no overlong form and no surrogate. -/
def isSecondOfThree (first second : UInt8) : Bool :=
  isContinuation second &&
    (if second < 0xA0 then first != 0xE0 else first != 0xED)

/-- The second byte of a four-byte form: no overlong form and nothing beyond
`U+10FFFF`. -/
def isSecondOfFour (first second : UInt8) : Bool :=
  isContinuation second &&
    (if second < 0x90 then first != 0xF0 else first != 0xF4)

/-- The low bits of a byte, as a number. -/
def bits (modulus : Nat) (b : UInt8) : Nat := b.toNat % modulus

/-- The character of a two-byte form. -/
def charOfTwo (a b : UInt8) : Char := Char.ofNat (bits 32 a * 64 + bits 64 b)

/-- The character of a three-byte form. -/
def charOfThree (a b c : UInt8) : Char :=
  Char.ofNat ((bits 16 a * 64 + bits 64 b) * 64 + bits 64 c)

/-- The character of a four-byte form. -/
def charOfFour (a b c d : UInt8) : Char :=
  Char.ofNat (((bits 8 a * 64 + bits 64 b) * 64 + bits 64 c) * 64 + bits 64 d)

/-- Reads the bytes from a position on, given the characters before it in
reverse. -/
def decodeFrom (position : Nat) (before : List Char) : Bytes → Except Fault (List Char)
  | [] => .ok before.reverse
  | a :: rest =>
    if a < 0x80 then decodeFrom (position + 1) (Char.ofNat a.toNat :: before) rest
    else if a < 0xC2 || 0xF5 ≤ a then .error ⟨position, 1, a, .invalidStart⟩
    else if a < 0xE0 then
      match rest with
      | [] => .error ⟨position, 1, a, .unexpectedEnd⟩
      | b :: rest =>
        if isContinuation b then decodeFrom (position + 2) (charOfTwo a b :: before) rest
        else .error ⟨position, 1, a, .invalidContinuation⟩
    else if a < 0xF0 then
      match rest with
      | [] => .error ⟨position, 1, a, .unexpectedEnd⟩
      | b :: rest =>
        if !isSecondOfThree a b then .error ⟨position, 1, a, .invalidContinuation⟩
        else match rest with
          | [] => .error ⟨position, 2, a, .unexpectedEnd⟩
          | c :: rest =>
            if isContinuation c then decodeFrom (position + 3) (charOfThree a b c :: before) rest
            else .error ⟨position, 2, a, .invalidContinuation⟩
    else
      match rest with
      | [] => .error ⟨position, 1, a, .unexpectedEnd⟩
      | b :: rest =>
        if !isSecondOfFour a b then .error ⟨position, 1, a, .invalidContinuation⟩
        else match rest with
          | [] => .error ⟨position, 2, a, .unexpectedEnd⟩
          | c :: rest =>
            if !isContinuation c then .error ⟨position, 2, a, .invalidContinuation⟩
            else match rest with
              | [] => .error ⟨position, 3, a, .unexpectedEnd⟩
              | d :: rest =>
                if isContinuation d then
                  decodeFrom (position + 4) (charOfFour a b c d :: before) rest
                else .error ⟨position, 3, a, .invalidContinuation⟩

/-- Bytes as a text. -/
def decode (bytes : Bytes) : Except Fault (List Char) := decodeFrom 0 [] bytes

/-! ## Messages -/

/-- What a message says about a defect. -/
def Defect.message : Defect → String
  | .invalidStart => "invalid start byte"
  | .invalidContinuation => "invalid continuation byte"
  | .unexpectedEnd => "unexpected end of data"

/-- The message about bytes that are no UTF-8.  A single byte is shown, several
are only located. -/
def Fault.message (f : Fault) : String :=
  let place :=
    if f.width = 1 then
      "byte 0x" ++ String.ofList (Text.hexDigits 2 f.byte.toNat) ++ " in position " ++
        toString f.position
    else
      "bytes in position " ++ toString f.position ++ "-" ++ toString (f.position + f.width - 1)
  "'utf-8' codec can't decode " ++ place ++ ": " ++ f.defect.message

/-! ## Tests -/

example : (decode (encode "aé日😀".toList)).toOption = some "aé日😀".toList := by decide +kernel
example : decode [0x61, 0xC3] = .error ⟨1, 1, 0xC3, .unexpectedEnd⟩ := rfl
example : decode [0xF0, 0x9F, 0x98, 0x41] = .error ⟨0, 3, 0xF0, .invalidContinuation⟩ := rfl
example : decode [0xED, 0xA0, 0x80] = .error ⟨0, 1, 0xED, .invalidContinuation⟩ := rfl

end Utf8

end Dossier
