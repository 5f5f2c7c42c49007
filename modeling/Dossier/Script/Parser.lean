import Dossier.Script.Fault
import Dossier.Script.Row

/-!
# Reading a script

`parse` reads a text as a list of directives, one for each row, and refuses it
at the first row that is malformed.  The first row names the archive; every
later row sets cookies or saves a source to a safe destination.
-/

namespace Dossier.Script

/-! ## Single rows -/

/-- A character of the name of an archive. -/
def isNameChar (c : Char) : Bool :=
  c == '-' || c == '_' || c == '.' || Host.isPlainLetter c || Text.isPlainDigit c

/-- A name an archive may have. -/
def isArchiveName (name : List Char) : Bool := !name.isEmpty && name.all isNameChar

/-- The words of a row with one space between them. -/
def rowText (words : List (List Char)) : String := String.ofList (Text.joinWith [' '] words)

/-- The first word of a row. -/
def verbOf (words : List (List Char)) : String := String.ofList (words.headD [])

/-- The action of the first row. -/
def parseFirst (words : List (List Char)) : Except Defect Action :=
  if verbOf words ≠ archiveVerb then .error (.archiveExpected (verbOf words))
  else match words with
    | [_, name] =>
      if isArchiveName name then .ok (.archiveName (String.ofList name))
      else .error (.archiveCharacters (String.ofList name))
    | _ => .error .archiveShape

/-- The action of a row that saves something. -/
def parseSave (words : List (List Char)) : Except Defect Action :=
  match words with
  | [verb, word, link, destination] =>
    if String.ofList link ≠ linkWord then .error (.saveShape (verbOf words) (rowText words))
    else match Destination.fault? (String.ofList destination) with
      | some fault => .error (.destination fault (String.ofList destination))
      | none =>
        match Source.ofVerb? (String.ofList verb) (String.ofList word) with
        | some source => .ok (.save source (String.ofList destination))
        | none => .error (.unknownVerb (String.ofList verb))
  | _ => .error (.saveShape (verbOf words) (rowText words))

/-- The action of a row after the first. -/
def parseLater (words : List (List Char)) : Except Defect Action :=
  if verbOf words = archiveVerb then .error .archiveRepeated
  else if verbOf words = cookiesVerb then
    match words with
    | [_, blob] => .ok (.cookies (String.ofList blob))
    | _ => .error (.cookiesShape (rowText words))
  else if saveVerbs.contains (verbOf words) then parseSave words
  else .error (.unknownVerb (verbOf words))

/-! ## Scripts -/

/-- The directive of a row, given how to read its words. -/
def directiveOf (read : List (List Char) → Except Defect Action) (row : Row) :
    Except Fault Directive :=
  match read row.words with
  | .ok action => .ok ⟨some row.line, action⟩
  | .error defect => .error (.malformed (some row.line) defect)

/-- The directives of rows after the first, up to the first malformed one. -/
def laterDirectives : List Row → Except Fault (List Directive)
  | [] => .ok []
  | row :: rest =>
    match directiveOf parseLater row with
    | .error fault => .error fault
    | .ok directive => (laterDirectives rest).map (directive :: ·)

/-- The directives of the rows of a script. -/
def directivesOf : List Row → Except Fault (List Directive)
  | [] => .error .empty
  | row :: rest =>
    match directiveOf parseFirst row with
    | .error fault => .error fault
    | .ok directive => (laterDirectives rest).map (directive :: ·)

/-- The directives of a script. -/
def parse (text : String) : Except Fault (List Directive) := directivesOf (rows text.toList)

/-! ## Tests -/

example : (parse "zip-name q\n\ncookies YQ==\nsave-text a as b/c\n").toOption =
    some [⟨some 1, .archiveName "q"⟩, ⟨some 3, .cookies "YQ=="⟩,
      ⟨some 4, .save (.text "a") "b/c"⟩] := by decide +kernel

end Dossier.Script
