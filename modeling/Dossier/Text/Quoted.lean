import Dossier.Text.Printable

/-!
# Quoted texts

A message shows a text between quotes, so that its ends and its invisible
characters can be seen.  The quotes are single, unless the text has a single
quote and no double one.  Printable characters stand for themselves.  The
backslash, the quote itself and three control characters have two-character
forms, and every other character is written by its code point in the shortest
of three hexadecimal forms.

A second form, for the records in the log, is the string of JSON in pure
ASCII: always double quotes, and UTF-16 units for everything beyond `~`.
-/

namespace Dossier.Text

/-! ## Hexadecimal numbers -/

/-- The hexadecimal digit of a number below sixteen. -/
def hexDigit (n : Nat) : Char := Nat.digitChar (n % 16)

/-- The lowest `width` hexadecimal digits of a number, highest first. -/
def hexDigits : Nat → Nat → List Char
  | 0, _ => []
  | width + 1, n => hexDigits width (n / 16) ++ [hexDigit n]

/-! ## Quoting for messages -/

/-- The quote that surrounds a text. -/
def quoteMark (cs : List Char) : Char :=
  if cs.contains '\'' && !cs.contains '"' then '"' else '\''

/-- A character written by its code point. -/
def codePoint (c : Char) : List Char :=
  let n := c.toNat
  if n < 0x100 then '\\' :: 'x' :: hexDigits 2 n
  else if n < 0x10000 then '\\' :: 'u' :: hexDigits 4 n
  else '\\' :: 'U' :: hexDigits 8 n

/-- A character inside the given quotes. -/
def quoteChar (mark c : Char) : List Char :=
  if c == mark || c == '\\' then ['\\', c]
  else if c == '\n' then ['\\', 'n']
  else if c == '\r' then ['\\', 'r']
  else if c == '\t' then ['\\', 't']
  else if isPrintable c then [c]
  else codePoint c

/-- A text between quotes. -/
def quote (cs : List Char) : List Char :=
  let mark := quoteMark cs
  mark :: cs.flatMap (quoteChar mark) ++ [mark]

/-- A string between quotes. -/
def quoted (s : String) : String := String.ofList (quote s.toList)

/-! ## Strings of JSON -/

/-- One unit of UTF-16, escaped. -/
def jsonUnit (n : Nat) : List Char := '\\' :: 'u' :: hexDigits 4 n

/-- A character of a string of JSON in pure ASCII. -/
def jsonChar (c : Char) : List Char :=
  let n := c.toNat
  if c == '"' || c == '\\' then ['\\', c]
  else if c == '\n' then ['\\', 'n']
  else if c == '\r' then ['\\', 'r']
  else if c == '\t' then ['\\', 't']
  else if n == 0x08 then ['\\', 'b']
  else if n == 0x0C then ['\\', 'f']
  else if 0x20 ≤ n && n < 0x7F then [c]
  else if n < 0x10000 then jsonUnit n
  else jsonUnit (0xD800 + (n - 0x10000) / 0x400) ++ jsonUnit (0xDC00 + (n - 0x10000) % 0x400)

/-- A string of JSON in pure ASCII. -/
def jsonQuoted (s : String) : String :=
  String.ofList ('"' :: s.toList.flatMap jsonChar ++ ['"'])

/-! ## Tests -/

example : quote "it's".toList = "\"it's\"".toList := by decide
example : quote "a\x00\n'\"".toList = "'a\\x00\\n\\'\"'".toList := by decide
example : quote "é\u200b".toList = "'é\\u200b'".toList := by decide

end Dossier.Text
