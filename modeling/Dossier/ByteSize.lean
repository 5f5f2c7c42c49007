import Dossier.Number.Reading
import Dossier.Text.Quoted

/-!
# Byte sizes

A size is written as a whole number and one of the units `B`, `KB`, `MB` and
`GB`, each 1024 times the one before.  Reading takes digits of any alphabet,
letters of either case and blanks around and between the two.  Showing picks
the largest unit the size reaches and rounds to none, one or two places, a tie
to the even digit.

Showing goes by way of a double, as the quotient is one: a size of more than 53
bits is first rounded to 53.  A size whose quotient is beyond every double
cannot be shown (`text?`); `text` rounds it in the same way all the same.
-/

namespace Dossier.ByteSize

/-! ## Units -/

/-- The units of size. -/
inductive Scale
  | byte
  | kilo
  | mega
  | giga
deriving DecidableEq, Repr

/-- The number of bytes in a unit. -/
def Scale.factor : Scale → Nat
  | .byte => 1
  | .kilo => 1024
  | .mega => Nat.pow 1024 2
  | .giga => Nat.pow 1024 3

/-- The name of a unit. -/
def Scale.name : Scale → String
  | .byte => "B"
  | .kilo => "KB"
  | .mega => "MB"
  | .giga => "GB"

/-! ## Reading -/

/-- Why a text is no size. -/
inductive Fault
  /-- It is not a number and a unit; the text as a message shows it. -/
  | malformed (shown : String)
  /-- Its number has too many digits to be read. -/
  | tooManyDigits (count : Nat)
  /-- Its unit is spelt with a letter that only looks like one of a unit. -/
  | unknownUnit (name : String)
deriving DecidableEq, Repr

/-- The most digits a number may have. -/
def maxDigits : Nat := 4300

/-- A character that stands for a capital letter: the letter itself, the small
one, and for `K` also the kelvin sign. -/
def spells (letter c : Char) : Bool :=
  c == letter || c == letter.toLower || (letter == 'K' && c == '\u212a')

/-- The unit that a text spells. -/
def unit? : List Char → Option Scale
  | [c] => if spells 'B' c then some .byte else none
  | [c, b] =>
    if !spells 'B' b then none
    else if spells 'K' c then some .kilo
    else if spells 'M' c then some .mega
    else if spells 'G' c then some .giga
    else none
  | _ => none

/-- A size in bytes from its text.  `shown` is how a message shows the text. -/
def parseShown (shown : String) (text : List Char) : Except Fault Nat :=
  let (digits, rest) := Reading.spanDigits (Text.trim text)
  let letters := rest.dropWhile Text.isBlank
  if digits.isEmpty then .error (.malformed shown)
  else match unit? letters with
    | none => .error (.malformed shown)
    | some scale =>
      if maxDigits < digits.length then .error (.tooManyDigits digits.length)
      else if letters.contains '\u212a' then
        .error (.unknownUnit (String.ofList (letters.map Char.toUpper)))
      else .ok (Text.numberOf digits * scale.factor)

/-- A size in bytes from its text. -/
def parse (text : String) : Except Fault Nat := parseShown (Text.quoted text) text.toList

/-! ## Showing -/

/-- The unit a size is shown in and the number of places. -/
def scaleOf (n : Nat) : Scale × Nat :=
  if n < 1024 then (.byte, 0)
  else if n < Nat.pow 1024 2 then (.kilo, 0)
  else if n < Nat.pow 1024 3 then (.mega, 1)
  else (.giga, 2)

/-- A number rounded to 53 significant bits. -/
def round53 (n : Nat) : Nat :=
  let step := Nat.pow 2 (n.log2 - 52)
  Decimal.roundDiv n step * step

/-- A size as a message shows it.  Sizes below 1024 are shown exactly, negative
ones too. -/
def text (n : Int) : String :=
  if n < 1024 then String.ofList (Decimal.ofInt n ++ " B".toList)
  else
    let (scale, places) := scaleOf n.toNat
    String.ofList (Decimal.fixed places (round53 n.toNat) scale.factor ++ ' ' :: scale.name.toList)

/-- The quotient of a size and its unit is within the doubles. -/
def isShowable (n : Int) : Bool :=
  n < 1024 || decide (round53 n.toNat < Nat.pow 2 1024 * (scaleOf n.toNat).1.factor)

/-- A size as a message shows it, if its quotient is within the doubles. -/
def text? (n : Int) : Option String := if isShowable n then some (text n) else none

/-! ## Tests -/

example : (parse " 5 kB\n").toOption = some 5120 := by decide +kernel
example : parse "5" = .error (.malformed "'5'") := by rfl
example : text 1536 = "2 KB" ∧ text 2621440 = "2.5 MB" ∧ text 512 = "512 B" := by decide +kernel

end Dossier.ByteSize
