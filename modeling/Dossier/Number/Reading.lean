import Dossier.Number.Binary64
import Dossier.Text.Blank

/-!
# Reading a float

The decimal numerals a setting may hold: a sign, digits of any alphabet around
an optional point, and an exponent.  A single underscore may stand between two
digits, and blanks may surround the whole, the four information separators
apart.  The words `inf`, `infinity` and `nan` are read in any case.  The value
is the double nearest to the numeral.
-/

namespace Dossier.Reading

/-- A character that may surround a numeral. -/
def isMargin (c : Char) : Bool :=
  Text.isBlank c && !(decide (0x1C ≤ c.toNat) && decide (c.toNat ≤ 0x1F))

/-- A text without its margins. -/
def body (cs : List Char) : List Char :=
  ((cs.dropWhile isMargin).reverse.dropWhile isMargin).reverse

/-- A text without the underscores between its digits, given whether a digit
stands before it.  Any other underscore is refused. -/
def joinDigits? (afterDigit : Bool) : List Char → Option (List Char)
  | [] => some []
  | '_' :: c :: rest =>
    if afterDigit && Text.isDigit c then joinDigits? false (c :: rest) else none
  | c :: rest => if c == '_' then none else (joinDigits? (Text.isDigit c) rest).map (c :: ·)

/-- The digits a text starts with, as values, and the rest of it. -/
def spanDigits : List Char → List Nat × List Char
  | [] => ([], [])
  | c :: rest =>
    match Text.digitValue? c with
    | some d => let (ds, r) := spanDigits rest; (d :: ds, r)
    | none => ([], c :: rest)

/-- A sign, and whether it was a minus. -/
def spanSign : List Char → Bool × List Char
  | '-' :: rest => (true, rest)
  | '+' :: rest => (false, rest)
  | cs => (false, cs)

/-- The exponent that ends a numeral. -/
def exponent? : List Char → Option Int
  | [] => some 0
  | c :: rest =>
    if c == 'e' || c == 'E' then
      let (negative, rest) := spanSign rest
      match spanDigits rest with
      | ([], _) => none
      | (ds, []) =>
        let n := Int.ofNat (Text.numberOf ds)
        some (if negative then -n else n)
      | _ => none
    else none

/-- The fraction of a numeral, as digits, and the rest of it. -/
def spanFraction : List Char → List Nat × List Char
  | '.' :: rest => spanDigits rest
  | cs => ([], cs)

/-- The value of a numeral without its sign. -/
def magnitude? (negative : Bool) (cs : List Char) : Option Float :=
  let word := String.ofList (cs.map Char.toLower)
  if word == "inf" || word == "infinity" then some (Binary64.nearest negative (Nat.pow 2 1024) 1)
  else if word == "nan" then some (Float.ofBits 0x7FF8000000000000)
  else
    let (whole, rest) := spanDigits cs
    let (fraction, rest) := spanFraction rest
    if whole.isEmpty && fraction.isEmpty then none
    else (exponent? rest).map fun e =>
      Binary64.ofDecimal negative (Text.numberOf (whole ++ fraction)) (e - Int.ofNat fraction.length)

/-- The float a text writes. -/
def float? (s : String) : Option Float :=
  match joinDigits? false (body s.toList) with
  | none => none
  | some cs =>
    let (negative, rest) := spanSign cs
    magnitude? negative rest

end Dossier.Reading
