import Dossier.Text.Blank
import Dossier.Text.Digit

/-!
# Addresses in brackets

A host between square brackets is an address of IP version 6, or of a future
version, which starts with `v`.  An address of version 4 has four decimal
octets without leading zeros.  One of version 6 has eight groups of up to four
hexadecimal digits; `::` stands for one or more groups of zeros, once; the last
two groups may be written as an address of version 4; and a zone may follow
after `%`.
-/

namespace Dossier.Host

/-- A hexadecimal digit of ASCII. -/
def isHexDigit (c : Char) : Bool :=
  Text.isPlainDigit c || (decide ('a' ≤ c) && decide (c ≤ 'f')) || (decide ('A' ≤ c) && decide (c ≤ 'F'))

/-! ## Version 4 -/

/-- A decimal number up to 255 without leading zeros. -/
def isOctet (cs : List Char) : Bool :=
  !cs.isEmpty && cs.all Text.isPlainDigit && decide (cs.length ≤ 3) &&
    (cs == ['0'] || cs.head? != some '0') &&
    decide (Text.numberOf (cs.filterMap Text.digitValue?) ≤ 255)

/-- An address of version 4. -/
def isVersion4 (cs : List Char) : Bool :=
  let parts := Text.pieces (· == '.') cs
  parts.length == 4 && parts.all isOctet

/-! ## Version 6 -/

/-- One to four hexadecimal digits. -/
def isHextet (cs : List Char) : Bool :=
  !cs.isEmpty && decide (cs.length ≤ 4) && cs.all isHexDigit

/-- The groups of an address, with a version 4 address at the end replaced by
the two groups it stands for. -/
def groups? (cs : List Char) : Option (List (List Char)) :=
  let parts := Text.pieces (· == ':') cs
  match parts.getLast? with
  | none => none
  | some last =>
    if parts.length < 3 then none
    else if last.contains '.' then
      if isVersion4 last then some (parts.dropLast ++ [['0'], ['0']]) else none
    else some parts

/-- The number of groups on one side of `::`, which may have none. -/
def sideCount? (side : List (List Char)) : Option Nat :=
  if side == [[]] then some 0
  else if side.all isHextet then some side.length
  else none

/-- Eight groups, or fewer around one `::`. -/
def areGroups (parts : List (List Char)) : Bool :=
  match parts with
  | [] => false
  | first :: rest =>
    let front := first :: rest.dropLast.takeWhile (!·.isEmpty)
    if front.length = parts.length - 1 ∨ parts.length = 1 then
      parts.length == 8 && parts.all isHextet
    else
      match sideCount? front, sideCount? (parts.drop (front.length + 1)) with
      | some m, some n => decide (m + n ≤ 7)
      | _, _ => false

/-- An address of version 6, with or without a zone. -/
def isVersion6 (cs : List Char) : Bool :=
  let (address, hasZone, zone) := Text.divide '%' cs
  !cs.contains '/' && !(hasZone && (zone.isEmpty || zone.contains '%')) &&
    match groups? address with
    | some parts => areGroups parts
    | none => false

/-! ## Later versions -/

/-- An address of a later version: `v`, hexadecimal digits, a dot and more. -/
def isFuture (cs : List Char) : Bool :=
  match cs with
  | 'v' :: rest =>
    !(rest.takeWhile isHexDigit).isEmpty &&
      match rest.dropWhile isHexDigit with
      | '.' :: _ :: _ => true
      | _ => false
  | _ => false

/-! ## Tests -/

example : isVersion6 "::1".toList ∧ isVersion6 "1:2:3:4:5:6:7::".toList ∧
    isVersion6 "fe80::1%eth0".toList ∧ isVersion6 "::ffff:1.2.3.4".toList := by decide
example : ¬ isVersion6 "1::2::3".toList ∧ ¬ isVersion6 ":1:2:3:4:5:6:7".toList ∧
    ¬ isVersion6 "1:2:3:4:5:6:7".toList ∧ ¬ isVersion6 ":::".toList := by decide
example : isVersion4 "1.2.3.4".toList ∧ ¬ isVersion4 "1.2.3.04".toList := by decide

end Dossier.Host
