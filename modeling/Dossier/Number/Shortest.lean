import Dossier.Number.Binary64

/-!
# The shortest decimal of a double

Among the decimals that are nearer to a double than to any other, the text of
the double shows one with the fewest digits, and of those the nearest.

With significand `m` and exponent `e`, the reals that round to `m * 2^e` reach
half a step to either side, and only a quarter of a step downwards below a
power of two; the ends belong to them if `m` is even.  For one digit, two, and
so on, the decimal grid of that many digits has two points beside the double.
The first grid with a point in the interval gives the digits.  Seventeen
digits always suffice.

Everything is a comparison of whole numbers: the double, and both ends of its
interval, are multiples of a quarter of a step.
-/

namespace Dossier.Shortest

/-- A positive decimal `0.d₁d₂… * 10 ^ point`. -/
structure Numeral where
  digits : List Char
  point : Int
deriving DecidableEq, Repr

/-- A double as a quotient `mid / den`, between the ends `low / den` and
`high / den` of its interval. -/
structure Interval where
  low : Nat
  mid : Nat
  high : Nat
  den : Nat
  closed : Bool

/-- The interval of a positive double. -/
def intervalOf (x : Binary64) : Interval :=
  let m := x.significand
  let below := if m = Nat.pow 2 52 ∧ Binary64.minExponent < x.exponent then 1 else 2
  let (f, d) := Binary64.scale 1 (x.exponent - 2)
  ⟨(4 * m - below) * f, 4 * m * f, (4 * m + 2) * f, d, m % 2 == 0⟩

/-- The point `d * 10 ^ e` lies in the interval. -/
def Interval.holds (i : Interval) (d : Nat) (e : Int) : Bool :=
  let (n, den) : Nat × Nat := match e with
    | .ofNat k => (d * Nat.pow 10 k, 1)
    | .negSucc k => (d, Nat.pow 10 (k + 1))
  let low := i.low * den
  let high := i.high * den
  let here := n * i.den
  if i.closed then decide (low ≤ here) && decide (here ≤ high)
  else decide (low < here) && decide (here < high)

/-- The least `p` with the double below `10 ^ p`, found upwards from a start
that is not above it. -/
def pointFrom (i : Interval) : Nat → Int → Int
  | 0, p => p
  | fuel + 1, p =>
    let below : Bool := match p with
      | .ofNat k => decide (i.mid < Nat.pow 10 k * i.den)
      | .negSucc k => decide (i.mid * Nat.pow 10 (k + 1) < i.den)
    if below then p else pointFrom i fuel (p + 1)

/-- The place of the decimal point. -/
def pointOf (i : Interval) : Int :=
  let bits : Int := Int.ofNat i.mid.log2 - Int.ofNat i.den.log2
  pointFrom i 4 (Int.fdiv (bits * 30103) 100000 - 1)

/-- The point of the grid with `n` digits nearest to the double, if it lies in
the interval.  Of two at one distance it is the even one. -/
def onGrid? (i : Interval) (p : Int) (n : Nat) : Option Nat :=
  let e := p - Int.ofNat n
  let (num, den) : Nat × Nat := match e with
    | .ofNat k => (i.mid, i.den * Nat.pow 10 k)
    | .negSucc k => (i.mid * Nat.pow 10 (k + 1), i.den)
  let down := num / den
  let near := Decimal.roundDiv num den
  if i.holds near e then some near
  else if i.holds down e then some down
  else if i.holds (down + 1) e then some (down + 1)
  else none

/-- The first grid with a point in the interval, from `n` digits on. -/
def firstGrid (i : Interval) (p : Int) : Nat → Nat → Nat × Nat
  | 0, n => (n, 0)
  | fuel + 1, n =>
    match onGrid? i p n with
    | some d => (n, d)
    | none => firstGrid i p fuel (n + 1)

/-- A list of digits without the zeros at its end. -/
def trimZeros (ds : List Char) : List Char := (ds.reverse.dropWhile (· == '0')).reverse

/-- The shortest decimal of a positive double. -/
def numeralOf (x : Binary64) : Numeral :=
  let i := intervalOf x
  let p := pointOf i
  let (n, d) := firstGrid i p 17 1
  let ds := Decimal.digits d
  ⟨trimZeros ds, p + (Int.ofNat ds.length - Int.ofNat n)⟩

/-! ## Texts of floats -/

/-- How a numeral is laid out: positionally while the point stands in a range
of places, and with an exponent of at least two digits beyond. -/
structure Layout where
  /-- The least place of the point written positionally. -/
  least : Int
  /-- The greatest place of the point written positionally. -/
  greatest : Int
  /-- The text of infinity. -/
  infinity : String
  /-- The text of what is no number. -/
  notANumber : String

/-- A numeral written positionally, with at least one digit on either side of
the point. -/
def positional (n : Numeral) : List Char :=
  match n.point with
  | .ofNat 0 => '0' :: '.' :: n.digits
  | .ofNat k =>
    if k < n.digits.length then n.digits.take k ++ '.' :: n.digits.drop k
    else n.digits ++ List.replicate (k - n.digits.length) '0' ++ ['.', '0']
  | .negSucc k => '0' :: '.' :: List.replicate (k + 1) '0' ++ n.digits

/-- A numeral written with an exponent. -/
def scientific (n : Numeral) : List Char :=
  let e := n.point - 1
  let lead := match n.digits with
    | [] => []
    | [d] => [d]
    | d :: ds => d :: '.' :: ds
  lead ++ 'e' :: (if e < 0 then '-' else '+') :: Decimal.padded 2 e.natAbs

/-- The text of a float in a layout. -/
def textWith (layout : Layout) (x : Float) : String :=
  match Binary64.ofFloat? x with
  | none =>
    if x.isNaN then layout.notANumber
    else if x < 0 then "-" ++ layout.infinity else layout.infinity
  | some parts =>
    let sign := if parts.negative then ['-'] else []
    let body :=
      if parts.significand = 0 then ['0', '.', '0']
      else
        let n := numeralOf parts
        if layout.least ≤ n.point ∧ n.point ≤ layout.greatest then positional n
        else scientific n
    String.ofList (sign ++ body)

/-- Messages write a float positionally from `0.0001` up to sixteen digits
before the point. -/
def plain : Layout := ⟨-3, 16, "inf", "nan"⟩

/-- Records in JSON differ in the names of what is not finite. -/
def json : Layout := ⟨-3, 16, "Infinity", "NaN"⟩

/-- The text of a float in a message. -/
def text (x : Float) : String := textWith plain x

/-- A float rounded to a number of decimal places, a tie to the even digit.
What is not finite stays as it is. -/
def roundPlaces (places : Nat) (x : Float) : Float :=
  match Binary64.ofFloat? x with
  | none => x
  | some parts =>
    let (n, d) := Binary64.scale parts.significand parts.exponent
    Binary64.nearest parts.negative (Decimal.roundDiv (n * Nat.pow 10 places) d) (Nat.pow 10 places)

end Dossier.Shortest
