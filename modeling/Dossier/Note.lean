import Dossier.Fault
import Dossier.Report

/-!
# Notes

What a run tells about itself while it goes on.  A note is recorded with what
it is about; its level and its text follow from that.
-/

namespace Dossier

/-- How much a note matters. -/
inductive Level
  | debug
  | info
  | warning
  | error
deriving DecidableEq, Repr

/-- The name of a level. -/
def Level.name : Level → String
  | .debug => "DEBUG"
  | .info => "INFO"
  | .warning => "WARNING"
  | .error => "ERROR"

/-- Something a run tells about itself. -/
inductive Note
  /-- The options of the run. -/
  | options (settings : Settings)
  /-- The directory the run saves to. -/
  | workingIn (directory : Path)
  /-- Cookies are in force from a line on. -/
  | cookies (count : Nat) (line : Option Int)
  /-- A page is not printed, since none is. -/
  | pagesDisabled (destination : String)
  /-- A destination is not the one asked for. -/
  | notOfInterest (destination : String)
  /-- A destination is there already. -/
  | alreadyPresent (destination : String)
  /-- A destination is too small, and its directory removed. -/
  | refetching (destination : String) (size : Nat) (directory : Path)
  /-- A response tells of an error and is saved all the same. -/
  | unexpectedStatus (url : String) (status : Int)
  /-- The browser is started. -/
  | startingBrowser
  /-- A destination is saved. -/
  | saved (destination : String) (size : Nat)
  /-- The archive is written. -/
  | archived (path : Path) (count size : Nat)
  /-- The run is done. -/
  | done (summary : String) (seconds : Int)
  /-- The account of the run. -/
  | account (report : Report)
  /-- The run has failed. -/
  | failed (fault : Fault)

namespace Note

/-- The level of a note. -/
def level : Note → Level
  | .options _ | .account _ => .debug
  | .unexpectedStatus .. => .warning
  | .failed _ => .error
  | _ => .info

/-- The number of a line, as a note shows it. -/
def lineText : Option Int → String
  | some n => toString n
  | none => "?"

/-- The note about an archive, given the text of its size. -/
def archivedText (path : Path) (count : Nat) (size : String) : String :=
  "  [ZIP] Created " ++ path.text ++ " (" ++ toString count ++ " file(s), " ++ size ++ ")"

/-- The text of a note. -/
def text : Note → String
  | .options settings => "Run options: " ++ settings.value.json
  | .workingIn directory => "Using working directory " ++ directory.text ++ "."
  | .cookies count line =>
    "    [COOKIES] Using " ++ toString count ++ " cookie(s) from line " ++ lineText line
  | .pagesDisabled destination => "    [SKIP] PDFs disabled: " ++ destination
  | .notOfInterest destination => "    [SKIP] Not of interest: " ++ destination
  | .alreadyPresent destination => "    [SKIP] Already exists: " ++ destination
  | .refetching destination size directory =>
    "    [REFETCH] " ++ destination ++ " is only " ++ ByteSize.text size ++ ", removing " ++
      directory.text
  | .unexpectedStatus url status =>
    "    [WARN] " ++ url ++ " returned HTTP " ++ toString status ++ ", saving the response anyway"
  | .startingBrowser => "  Starting browser for PDF rendering..."
  | .saved destination size => "    [OK] " ++ destination ++ " (" ++ ByteSize.text size ++ ")"
  | .archived path count size => archivedText path count (ByteSize.text size)
  | .done summary seconds => "\nDone: " ++ summary ++ " in " ++ Duration.text seconds
  | .account report => "Run report: " ++ report.value.json
  | .failed fault => "ERROR: " ++ fault.message

end Note

end Dossier
