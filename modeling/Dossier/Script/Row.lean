import Dossier.Text.Blank

/-!
# Rows

A script is text with one instruction to a line.  `rows` cuts it into rows,
each a line number and the words on it, without blank lines and comments.

The line number counts what an editor counts.  Blanks at the head of the text
are dropped, and the line feeds among them counted.  A row ends at a carriage
return or line feed, and the *gap* after it swallows every blank up to the next
row, further empty lines included.  A gap counts its line feeds, and at least
one, so that a carriage return alone ends a line and one before a line feed
does not end another.

The words of a row are what stands between runs of spaces and tabs.  Other
blanks inside a row belong to its words.
-/

namespace Dossier.Script

/-! ## Cutting into lines -/

/-- A row: the number of its line and its words. -/
structure Row where
  line : Nat
  words : List (List Char)
deriving DecidableEq, Repr

/-- Where a scan stands: inside a row, with its characters so far in reverse,
or inside a gap, with the number of its line feeds so far. -/
inductive Scan
  | row (before : List Char)
  | gap (feeds : Nat)

/-- One for a line feed and nothing for any other character. -/
def feed (c : Char) : Nat := if c == '\n' then 1 else 0

/-- The lines of the rest of a text, each with its number.  `line` is the number
of the row the scan is in, or of the row before the gap. -/
def scan (line : Nat) : Scan → List Char → List (Nat × List Char)
  | .row before, [] => [(line, before.reverse)]
  | .row before, c :: rest =>
    if Text.isLineEnd c then (line, before.reverse) :: scan line (.gap (feed c)) rest
    else scan line (.row (c :: before)) rest
  | .gap feeds, [] => [(line + max feeds 1, [])]
  | .gap feeds, c :: rest =>
    if Text.isBlank c then scan line (.gap (feeds + feed c)) rest
    else scan (line + max feeds 1) (.row [c]) rest
termination_by structural _ cs => cs

/-- The line on which the first row of a text starts. -/
def firstLine (cs : List Char) : Nat := 1 + (cs.takeWhile Text.isBlank).count '\n'

/-- The lines of a text, each with its number. -/
def lines (cs : List Char) : List (Nat × List Char) :=
  scan (firstLine cs) (.row []) (Text.trimLeft cs)

/-! ## Rows -/

/-- A line that holds no instruction: empty, or a comment. -/
def isSilent (line : List Char) : Bool := line.isEmpty || line.head? == some '#'

/-- The row on a line, if there is one. -/
def rowOf? (line : Nat × List Char) : Option Row :=
  let content := Text.trim line.2
  if isSilent content then none else some ⟨line.1, Text.words Text.isGap content⟩

/-- The rows of a text. -/
def rows (cs : List Char) : List Row := (lines cs).filterMap rowOf?

/-! ## Tests -/

example : rows "\n\n a  b\r\n#c\r\r\u000b d\te".toList =
    [⟨3, ["a".toList, "b".toList]⟩, ⟨5, ["d".toList, "e".toList]⟩] := by decide

end Dossier.Script
