import Dossier.Text.Utf8

/-!
# Base64

Four characters of a 64-letter alphabet stand for three bytes; `=` fills the
last group.  Reading is strict: every character belongs to the alphabet,
padding stands only at the end and only as much as the last group lacks.  The
bits of the last character beyond the last byte are not looked at.

A fault names the first thing wrong from the left, except that a text whose
last group is too short is only found out at its end.
-/

namespace Dossier.Base64

/-! ## The alphabet -/

/-- The value of a character of the alphabet. -/
def sextet? (c : Char) : Option Nat :=
  let n := c.toNat
  if 65 ≤ n && n ≤ 90 then some (n - 65)
  else if 97 ≤ n && n ≤ 122 then some (n - 71)
  else if 48 ≤ n && n ≤ 57 then some (n + 4)
  else if n == 43 then some 62
  else if n == 47 then some 63
  else none

/-- The character of a value below 64. -/
def letter (v : Nat) : Char :=
  if v < 26 then Char.ofNat (v + 65)
  else if v < 52 then Char.ofNat (v + 71)
  else if v < 62 then Char.ofNat (v - 4)
  else if v == 62 then '+' else '/'

/-! ## Writing -/

/-- Bytes as groups of four letters, the last group filled with `=`. -/
def encode : Bytes → List Char
  | [] => []
  | [a] => [letter (a.toNat / 4), letter (a.toNat % 4 * 16), '=', '=']
  | [a, b] =>
    [letter (a.toNat / 4), letter (a.toNat % 4 * 16 + b.toNat / 16), letter (b.toNat % 16 * 4), '=']
  | a :: b :: c :: rest =>
    letter (a.toNat / 4) :: letter (a.toNat % 4 * 16 + b.toNat / 16) ::
      letter (b.toNat % 16 * 4 + c.toNat / 64) :: letter (c.toNat % 64) :: encode rest

/-! ## Reading -/

/-- What is wrong with a text that is not base64. -/
inductive Fault
  /-- A character beyond ASCII. -/
  | notAscii
  /-- The text starts with padding. -/
  | leadingPadding
  /-- A character outside the alphabet. -/
  | foreignCharacter
  /-- A letter after padding. -/
  | discontinuousPadding
  /-- Something after the padding that completes the last group. -/
  | excessData
  /-- The last group is one letter: so many letters in all. -/
  | loneLetter (letters : Nat)
  /-- The last group is not filled. -/
  | incorrectPadding
deriving DecidableEq, Repr

/-- The letters of the group under way: how many, and the bits not yet given
out. -/
inductive Group
  | empty
  | one (bits : Nat)
  | two (bits : Nat)
  | three (bits : Nat)
deriving DecidableEq, Repr

/-- The number of letters in the group under way. -/
def Group.size : Group → Nat
  | .empty => 0
  | .one _ => 1
  | .two _ => 2
  | .three _ => 3

/-- One more letter in a group: the group after it and the byte it completes. -/
def Group.push (v : Nat) : Group → Group × Bytes
  | .empty => (.one v, [])
  | .one b => (.two (v % 16), [UInt8.ofNat (b * 4 + v / 16)])
  | .two b => (.three (v % 4), [UInt8.ofNat (b * 16 + v / 4)])
  | .three b => (.empty, [UInt8.ofNat (b * 64 + v)])

/-- What the end of the text makes of the group under way. -/
def finish (group : Group) (before : Bytes) : Except Fault Bytes :=
  match group with
  | .empty => .ok before.reverse
  | .one _ => .error (.loneLetter (before.length / 3 * 4 + 1))
  | _ => .error .incorrectPadding

/-- Reads the rest of a text, given the group under way, the padding read so
far (`none` before any) and the bytes before it in reverse. -/
def decodeFrom (group : Group) (padding : Option Nat) (before : Bytes) :
    List Char → Except Fault Bytes
  | [] => finish group before
  | c :: rest =>
    if c == '=' then
      let pads := padding.getD 0 + 1
      if 2 ≤ group.size then
        if 4 ≤ group.size + pads then
          if rest.isEmpty then .ok before.reverse else .error .excessData
        else decodeFrom group (some pads) before rest
      else decodeFrom group (some (padding.getD 0)) before rest
    else
      match sextet? c with
      | none => .error .foreignCharacter
      | some v =>
        if padding.isSome then .error .discontinuousPadding
        else decodeFrom (group.push v).1 none ((group.push v).2 ++ before) rest

/-- The bytes a text of base64 stands for. -/
def decode (cs : List Char) : Except Fault Bytes :=
  if cs.any fun c => decide (0x80 ≤ c.toNat) then .error .notAscii
  else match cs with
    | '=' :: _ => .error .leadingPadding
    | _ => decodeFrom .empty none [] cs

/-! ## Messages -/

/-- The message about a text that is not base64. -/
def Fault.message : Fault → String
  | .notAscii => "string argument should contain only ASCII characters"
  | .leadingPadding => "Leading padding not allowed"
  | .foreignCharacter => "Only base64 data is allowed"
  | .discontinuousPadding => "Discontinuous padding not allowed"
  | .excessData => "Excess data after padding"
  | .loneLetter letters =>
    "Invalid base64-encoded string: number of data characters (" ++ toString letters ++
      ") cannot be 1 more than a multiple of 4"
  | .incorrectPadding => "Incorrect padding"

/-! ## Tests -/

example : (decode "YT0x".toList).toOption = some [0x61, 0x3D, 0x31] := by decide
example : (decode (encode [1, 2, 3, 4, 5])).toOption = some [1, 2, 3, 4, 5] := by decide
example : (decode (encode [255])).toOption = some [255] := by decide

end Dossier.Base64
