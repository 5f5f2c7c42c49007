import Dossier.Cookies
import Dossier.Script.Destination
import Dossier.Script.Directive

/-!
# What can be wrong with a script

A script is refused at its first malformed row.  A *defect* says what is wrong
with a row; the fault of a script pairs it with the line of the row, or says
that there is no row at all.  Two defects are found only when the script is
run: a list of directives that does not start with the name of the archive, and
cookies that cannot be decoded.
-/

namespace Dossier.Script

/-- What is wrong with a row or a directive. -/
inductive Defect
  /-- The first row has another verb than the one that names the archive. -/
  | archiveExpected (verb : String)
  /-- The first directive does not name the archive. -/
  | archiveMissing
  /-- The row that names the archive has more or fewer words. -/
  | archiveShape
  /-- The name of the archive has a character it may not have. -/
  | archiveCharacters (name : String)
  /-- The archive is named again. -/
  | archiveRepeated
  /-- A row of cookies has more or fewer words. -/
  | cookiesShape (row : String)
  /-- Cookies that cannot be decoded. -/
  | cookiesBlob (fault : Cookies.BlobFault)
  /-- A verb that is none. -/
  | unknownVerb (verb : String)
  /-- A row that saves something lacks a word or has another in its place. -/
  | saveShape (verb row : String)
  /-- A destination that is not safe. -/
  | destination (fault : Destination.Fault) (place : String)
deriving DecidableEq, Repr

/-- Why a script is refused. -/
inductive Fault
  /-- It has no rows. -/
  | empty
  /-- Something is wrong with the row on a line. -/
  | malformed (line : Option Int) (defect : Defect)
deriving DecidableEq, Repr

/-! ## Messages -/

/-- The message about a destination that is not safe. -/
def Destination.Fault.message (destination : String) : Destination.Fault → String
  | .characters =>
    "The file name to save as may not contain control characters or any of " ++
      "* ? & < > \" \x60 | ' : \\. Found " ++ Text.quoted destination
  | .absolute =>
    "The file name to save as must be a relative path. Found " ++ Text.quoted destination
  | .idleSegment =>
    "The file name to save as may not contain empty, '.' or '..' path segments. Found " ++
      Text.quoted destination

/-- The message about a defect. -/
def Defect.message : Defect → String
  | .archiveExpected verb => "The first instruction must give the zip-name. " ++ verb ++ " found."
  | .archiveMissing => "The first instruction must give the zip-name."
  | .archiveShape =>
    "The zip-name line should only say zip-name <filename>. The filename cannot contain spaces."
  | .archiveCharacters name =>
    "The zip name may only contain the characters -, _, ., a-z, A-Z and 0-9. Found " ++
      Text.quoted name
  | .archiveRepeated => "zip-name may only be given once, on the first line."
  | .cookiesShape row =>
    "The cookies line should only say cookies <base64-data>. Found " ++ Text.quoted row
  | .cookiesBlob fault => fault.message
  | .unknownVerb verb =>
    "After the first line, the only recognised actions are cookies, " ++
      ", ".intercalate saveVerbs ++ ". " ++ verb ++ " found."
  | .saveShape verb row =>
    verb ++ " actions must be of the form " ++ verb ++ " <source> as <file/path/in/zip>. " ++
      "The source and file path cannot contain spaces. Found " ++ Text.quoted row
  | .destination fault place => fault.message place

/-- A message about a line, if the line is known. -/
def atLine (line : Option Int) (message : String) : String :=
  match line with
  | some n => "Line " ++ toString n ++ ": " ++ message
  | none => message

/-- The message about a script that is refused. -/
def Fault.message : Fault → String
  | .empty => "Instruction script is empty!"
  | .malformed line defect => atLine line defect.message

end Dossier.Script
