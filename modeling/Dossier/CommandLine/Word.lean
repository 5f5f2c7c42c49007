import Dossier.Text.Blank
import Dossier.Text.Digit
import Dossier.Text.Quoted

/-!
# The words of a command line

A word is an option if it starts with a dash and spells one: in full, or by
the beginning of a long name that no other option shares.  A value can be
attached to it, to a long name after `=`, to a short one with or without.  A
word that starts with a dash and spells no option is still taken for one,
unless it looks like a negative number or has a space in it.  All other words
are plain, and so are all words after the first two dashes that stand alone.
-/

namespace Dossier.CommandLine

/-! ## Options -/

/-- An option of the command line. -/
inductive Flag
  | help
  | subject
  | threshold
  | skipPages
  | version
deriving DecidableEq, Repr

namespace Flag

/-- The names of an option, without the dash in front. -/
def names : Flag → List String
  | .help => ["-h", "--help"]
  | .subject => ["-a", "--attempt"]
  | .threshold => ["-r", "--redownload-smaller-than"]
  | .skipPages => ["--skip-pdfs"]
  | .version => ["--version"]

/-- The option comes with a value. -/
def takesValue : Flag → Bool
  | .subject | .threshold => true
  | _ => false

/-- All options, in the order of the help text. -/
def all : List Flag := [.help, .subject, .threshold, .skipPages, .version]

/-- All names with their options. -/
def spellings : List (String × Flag) := all.flatMap fun f => f.names.map fun name => (name, f)

/-- The option of a name. -/
def ofName? (name : String) : Option Flag := spellings.lookup name

/-- The option of a short name. -/
def ofLetter? (letter : Char) : Option Flag := ofName? (String.ofList ['-', letter])

/-- An option as a message names it. -/
def label (f : Flag) : String := "/".intercalate f.names

end Flag

/-! ## Misuse -/

/-- What is wrong with a command line. -/
inductive Misuse
  /-- A word is the beginning of more than one name. -/
  | ambiguous (word : String) (names : List String)
  /-- An option lacks its value. -/
  | valueMissing (flag : Flag)
  /-- An option has a value attached that it does not take. -/
  | valueUnwanted (flag : Flag) (value : String)
  /-- There are words that mean nothing. -/
  | unrecognized (words : List String)
deriving DecidableEq, Repr

/-- The message about a command line. -/
def Misuse.message : Misuse → String
  | .ambiguous word names =>
    "ambiguous option: " ++ word ++ " could match " ++ ", ".intercalate names
  | .valueMissing flag => "argument " ++ flag.label ++ ": expected one argument"
  | .valueUnwanted flag value =>
    "argument " ++ flag.label ++ ": ignored explicit argument " ++ Text.quoted value
  | .unrecognized words => "unrecognized arguments: " ++ " ".intercalate words

/-! ## Words -/

/-- A word of a command line. -/
inductive Word
  /-- A word that is no option. -/
  | plain (text : String)
  /-- The two dashes after which all words are plain. -/
  | divider
  /-- An option, by a short name or a long one, and the value attached. -/
  | option (flag : Flag) (isShort : Bool) (attached : Option String)
  /-- A word that is taken for an option and spells none. -/
  | strange (text : String)
deriving DecidableEq, Repr

/-- The two dashes that stand alone. -/
def dashes : String := "--"

/-- A name is a short one. -/
def isShortName (name : String) : Bool := !name.startsWith dashes

/-- One or more digits. -/
def isNumeral (cs : List Char) : Bool := !cs.isEmpty && cs.all Text.isDigit

/-- The look of a negative number: a dash and digits, possibly with a point
among or before them. -/
def looksNegative (text : List Char) : Bool :=
  let body := text.drop 1
  let line := if body.getLast? == some '\n' then body.dropLast else body
  let (whole, hasPoint, places) := Text.divide '.' line
  if hasPoint then whole.all Text.isDigit && isNumeral places else isNumeral whole

/-- A word that spells no option. -/
def unspelt (text : String) : Word :=
  if looksNegative text.toList || text.toList.contains ' ' then .plain text else .strange text

/-- A word that begins a long name, or none. -/
def abbreviated (text head : String) (attached : Option String) : Except Misuse Word :=
  match Flag.spellings.filter fun s => s.1.startsWith head with
  | [] => .ok (unspelt text)
  | [(_, flag)] => .ok (.option flag false attached)
  | several => .error (.ambiguous text (several.map (·.1)))

/-- A word that starts with one dash and is no name. -/
def clustered (text : String) : Word :=
  match text.toList with
  | _ :: letter :: attached =>
    match Flag.ofLetter? letter with
    | some flag => .option flag true (some (String.ofList attached))
    | none => unspelt text
  | _ => .plain text

/-- A word that starts with a dash and is no name, divided at `=`. -/
def dashed (text : String) : Except Misuse Word :=
  let (head, isDivided, tail) := Text.divide '=' text.toList
  let name := String.ofList head
  let attached := if isDivided then some (String.ofList tail) else none
  match attached, Flag.ofName? name with
  | some value, some flag => .ok (.option flag (isShortName name) (some value))
  | _, _ => if isShortName text then .ok (clustered text) else abbreviated text name attached

/-- What a word is, before any two dashes. -/
def wordOf (text : String) : Except Misuse Word :=
  if !text.startsWith "-" || text == "-" then .ok (.plain text)
  else match Flag.ofName? text with
    | some flag => .ok (.option flag (isShortName text) none)
    | none => dashed text

/-- The words of a command line. -/
def wordsOf : List String → Except Misuse (List Word)
  | [] => .ok []
  | text :: rest =>
    if text = dashes then .ok (.divider :: rest.map .plain)
    else match wordOf text with
      | .error misuse => .error misuse
      | .ok word => (wordsOf rest).map (word :: ·)

/-! ## Tests -/

example : (wordOf "--redown=5KB").toOption = some (.option .threshold false (some "5KB")) := by
  decide +kernel
example : (wordOf "-r5KB").toOption = some (.option .threshold true (some "5KB")) := by
  decide +kernel
example : (wordOf "-1.5").toOption = some (.plain "-1.5") := by decide +kernel
example : (wordOf "-x").toOption = some (.strange "-x") := by decide +kernel

end Dossier.CommandLine
