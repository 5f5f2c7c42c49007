import Dossier.Text.Ranges

/-!
# Blanks, trimming and cutting

A *blank* is a character with the Unicode property of white space or one of
the four separators `U+001C` to `U+001F`: 29 characters in all.  Trimming
removes blanks at the ends of a text, and nothing inside it.  `pieces` cuts a
text at every character of a class, so that joining the pieces gives the text
back; `words` keeps the pieces between runs of the class.
-/

namespace Dossier.Text

/-! ## The class -/

/-- The ranges of blanks. -/
def blankRanges : List (Nat × Nat) :=
  [(0x09, 0x0D), (0x1C, 0x20), (0x85, 0x85), (0xA0, 0xA0), (0x1680, 0x1680), (0x2000, 0x200A),
   (0x2028, 0x2029), (0x202F, 0x202F), (0x205F, 0x205F), (0x3000, 0x3000)]

/-- White space in the sense of Unicode, and the four information separators. -/
def isBlank (c : Char) : Bool := inRanges blankRanges c

/-- The two characters that end a line: carriage return and line feed. -/
def isLineEnd (c : Char) : Bool := c == '\r' || c == '\n'

/-- The two characters that separate words on a line: space and tab. -/
def isGap (c : Char) : Bool := c == ' ' || c == '\t'

theorem isBlank_of_isLineEnd {c : Char} (h : isLineEnd c = true) : isBlank c = true := by
  simp only [isLineEnd, Bool.or_eq_true, beq_iff_eq] at h
  rcases h with rfl | rfl <;> decide

/-! ## Trimming -/

/-- A text without the blanks before its first other character. -/
def trimLeft (cs : List Char) : List Char := cs.dropWhile isBlank

/-- A text without the blanks after its last other character. -/
def trimRight (cs : List Char) : List Char := (cs.reverse.dropWhile isBlank).reverse

/-- A text without the blanks at either end. -/
def trim (cs : List Char) : List Char := trimRight (trimLeft cs)

/-! ## Cutting -/

/-- One more character in front of a list of pieces. -/
def pieceStep (isCut : Char → Bool) (c : Char) : List (List Char) → List (List Char)
  | [] => if isCut c then [[], []] else [[c]]
  | p :: ps => if isCut c then [] :: p :: ps else (c :: p) :: ps

/-- A text cut at every character of a class.  There is always one piece more
than there are cuts. -/
def pieces (isCut : Char → Bool) (cs : List Char) : List (List Char) :=
  cs.foldr (pieceStep isCut) [[]]

/-- The pieces between the runs of a class: the pieces that are not empty. -/
def words (isCut : Char → Bool) (cs : List Char) : List (List Char) :=
  (pieces isCut cs).filter fun p => !p.isEmpty

/-- A text divided at the first occurrence of a character.  The flag tells
whether there was one. -/
def divide (mark : Char) (cs : List Char) : List Char × Bool × List Char :=
  match cs.dropWhile (· != mark) with
  | [] => (cs, false, [])
  | _ :: rest => (cs.takeWhile (· != mark), true, rest)

/-- A text divided at the last occurrence of a character, as the parts before
and after it.  Without an occurrence the whole text comes after. -/
def divideLast (mark : Char) (cs : List Char) : List Char × List Char :=
  ((cs.reverse.dropWhile (· != mark)).drop 1 |>.reverse,
   (cs.reverse.takeWhile (· != mark)).reverse)

/-- A list of texts with a separator between any two of them. -/
def joinWith (sep : List Char) : List (List Char) → List Char
  | [] => []
  | [p] => p
  | p :: q :: ps => p ++ sep ++ joinWith sep (q :: ps)

/-! ## Strings -/

/-- A string cut at every occurrence of a character. -/
def piecesOf (mark : Char) (s : String) : List String :=
  (pieces (· == mark) s.toList).map String.ofList

/-! ## Tests -/

example : trim "\u00a0 a b\t\n".toList = "a b".toList := by decide
example : pieces (· == ';') "a;;b".toList = ["a".toList, [], "b".toList] := by decide
example : words isGap "a \tb".toList = ["a".toList, "b".toList] := by decide
example : divide '=' "a=b=c".toList = ("a".toList, true, "b=c".toList) := by decide

end Dossier.Text
