import Dossier.Number.Decimal

/-!
# Binary floating point

A finite double is a sign, a whole significand below `2^53` and a power of two
not below `2^-1074`.  `ofFloat` reads these three from the bits of a float.
`nearest` goes the other way: it gives the double nearest to a quotient of
whole numbers, the one with an even significand of two, and an infinity beyond
the largest.

The significand is found by dividing once, at the power of two that leaves 53
bits, and the bits are put together by one addition: a carry out of the
significand moves into the exponent by itself.
-/

namespace Dossier

/-- A finite double in parts: `significand * 2 ^ exponent` with a sign. -/
structure Binary64 where
  negative : Bool
  significand : Nat
  exponent : Int
deriving DecidableEq, Repr

namespace Binary64

/-- The least exponent. -/
def minExponent : Int := -1074

/-- The parts of a finite float, and nothing for an infinity or no number. -/
def ofFloat? (x : Float) : Option Binary64 :=
  let bits := x.toBits.toNat
  let biased := bits / Nat.pow 2 52 % Nat.pow 2 11
  let fraction := bits % Nat.pow 2 52
  let negative := bits / Nat.pow 2 63 == 1
  if biased = Nat.pow 2 11 - 1 then none
  else if biased = 0 then some ⟨negative, fraction, minExponent⟩
  else some ⟨negative, Nat.pow 2 52 + fraction, Int.ofNat biased - 1 + minExponent⟩

/-- The numerator and denominator of `n * 2 ^ e`. -/
def scale (n : Nat) (e : Int) : Nat × Nat :=
  match e with
  | .ofNat k => (n * Nat.pow 2 k, 1)
  | .negSucc k => (n, Nat.pow 2 (k + 1))

/-- The bits of an infinity, without the sign. -/
def infinityBits : Nat := (Nat.pow 2 11 - 1) * Nat.pow 2 52

/-- The power of two at which a quotient has 53 bits before the point, or the
least power if it has fewer. -/
def exponentOf (num den : Nat) : Int :=
  let guess : Int := Int.ofNat num.log2 - Int.ofNat den.log2 - 52
  let (n, d) := scale num (-guess)
  let exact := if n / (d * den) < Nat.pow 2 52 then guess - 1 else guess
  max exact minExponent

/-- The bits of the double nearest to a quotient, without the sign. -/
def nearestBits (num den : Nat) : Nat :=
  if num = 0 then 0
  else
    let e := exponentOf num den
    let (n, d) := scale num (-e)
    min infinityBits ((e - minExponent).toNat * Nat.pow 2 52 + Decimal.roundDiv n (d * den))

/-- The double nearest to a quotient. -/
def nearest (negative : Bool) (num den : Nat) : Float :=
  Float.ofBits (UInt64.ofNat ((if negative then Nat.pow 2 63 else 0) + nearestBits num den))

/-- The double nearest to a decimal number `n * 10 ^ e`.  A number out of all
range is an infinity or zero without being worked out. -/
def ofDecimal (negative : Bool) (n : Nat) (e : Int) : Float :=
  let size : Int := Int.ofNat (Decimal.digits n).length + e
  if n = 0 || size < -400 then nearest negative 0 1
  else if 400 < size then nearest negative (Nat.pow 2 1024) 1
  else match e with
    | .ofNat k => nearest negative (n * Nat.pow 10 k) 1
    | .negSucc k => nearest negative n (Nat.pow 10 (k + 1))

/-- The whole part of a finite double. -/
def truncate (x : Binary64) : Int :=
  let (n, d) := scale x.significand x.exponent
  if x.negative then -Int.ofNat (n / d) else Int.ofNat (n / d)

end Binary64

end Dossier
