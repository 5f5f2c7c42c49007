import Dossier.Text.Digit

/-!
# Decimal numerals

Whole numbers in ASCII digits, padded or grouped, and quotients rounded to a
fixed number of places.  A quotient halfway between two neighbours goes to the
even one.
-/

namespace Dossier.Decimal

/-! ## Whole numbers -/

/-- The decimal digits of a number. -/
def digits (n : Nat) : List Char := Nat.toDigits 10 n

/-- The decimal digits of a number, with zeros in front up to a width. -/
def padded (width n : Nat) : List Char :=
  List.replicate (width - (digits n).length) '0' ++ digits n

/-- A whole number with its sign. -/
def ofInt (n : Int) : List Char :=
  if n < 0 then '-' :: digits n.natAbs else digits n.natAbs

/-- Digits, last first, with a comma after every third. -/
def group : List Char → List Char
  | a :: b :: c :: d :: rest => a :: b :: c :: ',' :: group (d :: rest)
  | cs => cs

/-- A number in groups of three digits. -/
def grouped (n : Nat) : List Char := (group (digits n).reverse).reverse

/-! ## Rounding -/

/-- The whole number nearest to a quotient, the even one of two. -/
def roundDiv (num den : Nat) : Nat :=
  let q := num / den
  let r := num % den
  if 2 * r < den then q
  else if den < 2 * r then q + 1
  else if q % 2 = 0 then q else q + 1

/-- A quotient with a fixed number of places. -/
def fixed (places num den : Nat) : List Char :=
  let scaled := roundDiv (num * Nat.pow 10 places) den
  if places = 0 then digits scaled
  else digits (scaled / Nat.pow 10 places) ++ '.' :: padded places (scaled % Nat.pow 10 places)

/-! ## Tests -/

example : grouped 1234567 = "1,234,567".toList := by decide
example : fixed 1 25 100 = "0.2".toList ∧ fixed 0 5 2 = "2".toList ∧ fixed 2 7 2 = "3.50".toList := by
  decide

end Dossier.Decimal
