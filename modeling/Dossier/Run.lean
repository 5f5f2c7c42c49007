import Dossier.Packing
import Dossier.Saving.File
import Dossier.Saving.Page
import Dossier.Saving.Text
import Dossier.Script.Parser
import Dossier.Connector
import Dossier.Verdict

/-!
# Running a script

A run carries out the directives of a script one after the other, in the order
of the script, and then packs what it saved.  The first directive names the
output directory.  A row of cookies sets the cookies for the rows after it; a
row that saves something asks for a verdict first and is skipped or carried
out.

A run stops at its first fault.  What it saved until then stays where it is,
but no archive is written.  If the fault is a reported one, the report of the
run says that it failed.  The browser and the session that the run opened are
closed in any case, the browser first.
-/

namespace Dossier

open Script (Directive Source)

/-- What is handed to a run instead of being opened by it.  The run does not
close what it is handed. -/
structure Provided where
  session : Bool := false
  browser : Bool := false
deriving DecidableEq, Repr

namespace Run

/-! ## Rows -/

/-- Sets the cookies for the rows after a line. -/
def setCookies (line : Option Int) (blob : String) : Act Unit := do
  let cookies ← Act.ofExcept
    (fun fault => Fault.script (.malformed line (.cookiesBlob fault))) (Cookies.decode blob)
  modify fun s => { s with cookies := cookies }
  Act.note (.cookies cookies.pairs.length line)

/-- Fetches a source to a file and gives its size. -/
def fetch (settings : Settings) (source : Source) (file : Path) : Act Nat := do
  let cookies := (← get).cookies
  match source with
  | .file url => Saving.file url file cookies settings.requestTimeout
  | .page url => Saving.page settings url file cookies
  | .text content => Saving.text content file

/-- Skips a destination for a reason. -/
def skip (category destination : String) : Act Unit :=
  Act.account fun report => report.withSkip category destination

/-- Accounts for a destination that was cleared to be fetched again. -/
def announce (verdict : Verdict) (destination : String) : Act Unit :=
  if verdict = .refetchTooSmall then Act.account fun report => report.withRefetch destination
  else pure ()

/-- Fetches a source to the file of a destination and accounts for it. -/
def acquire (settings : Settings) (file : Path) (source : Source) (destination : String) :
    Act Unit := do
  let size ← fetch settings source file
  Act.account fun report => report.withFetch destination size
  Act.note (.saved destination size)

/-- Saves a source to a destination unless the verdict is against it. -/
def saveIfWanted (settings : Settings) (output : Path) (source : Source) (destination : String) :
    Act Unit := do
  let decision ← Verdict.reach settings output destination
  if decision.isFetch then
    announce decision.verdict destination
    acquire settings decision.file source destination
  else skip decision.name destination

/-- Carries out a row that saves something. -/
def save (settings : Settings) (output : Path) (source : Source) (destination : String) :
    Act Unit := do
  match source, settings.skipPages with
  | .page _, true =>
    Act.note (.pagesDisabled destination)
    skip "pdf_disabled" destination
  | _, _ => saveIfWanted settings output source destination

/-- Carries out a directive after the first. -/
def row (settings : Settings) (output : Path) (directive : Directive) : Act Unit :=
  match directive.action with
  | .archiveName _ => throw (.script (.malformed directive.line .archiveRepeated))
  | .cookies blob => setCookies directive.line blob
  | .save source destination => save settings output source destination

/-- Carries out directives one after the other. -/
def rows (settings : Settings) (output : Path) : List Directive → Act Unit
  | [] => pure ()
  | directive :: rest => do
    row settings output directive
    rows settings output rest

/-! ## The output directory -/

/-- Where a path leads, links replaced. -/
def resolve (p : Path) : Act Path := do
  Disk.checkPath p
  let env ← Act.environment
  let l ← Act.ofExcept (fun l => Fault.circle (Location.path l)) ((← get).store.resolve env.here p)
  return Location.path l

/-- Makes the output directory of an archive. -/
def prepare (settings : Settings) (name : String) : Act Path := do
  let output ← resolve (settings.outputRoot.child name)
  Disk.during (.createOutput output) (Disk.ensureDirectories output)
  Act.note (.workingIn output)
  return output

/-! ## Finishing -/

/-- Finishes the report. -/
def conclude (status : String) : Act Unit := do
  let now := (← get).clock
  Act.account fun report => report.conclude status now

/-- Notes the report. -/
def noteReport : Act Unit := do Act.note (.account (← get).report)

/-- Accounts for the fault that ended a run, and passes it on. -/
def fail (fault : Fault) : Act Unit := do
  if fault.isReported then
    conclude "failed"
    noteReport
  throw fault

/-- Packs the output directory and accounts for the run. -/
def complete (output : Path) : Act Report := do
  let archive ← Packing.pack output
  Act.account fun report => { report with archivePath := some archive }
  conclude "completed"
  let s ← get
  let seconds ← Act.ofExcept Fault.clock (Duration.between s.report.startTime s.clock)
  Act.note (.done s.report.summary seconds)
  noteReport
  return s.report

/-! ## The run -/

/-- Records events. -/
def recordAll (events : Trace) : Act Unit := events.forM Act.record

/-- Carries out the rows with a session and a browser, and closes those that
the run opened. -/
def drain (settings : Settings) (given : Provided) (output : Path) (directives : List Directive) :
    Act Unit := do
  let opened := if given.session then ⟨{}, [], none⟩ else Connector.getSession {}
  recordAll opened.events
  let carriedOut := (rows settings output directives).rescue fail
  let browserClosed := carriedOut.andAlways (if given.browser then pure () else Browser.close)
  browserClosed.andAlways (recordAll opened.connector.close.events)

/-- Starts the report of a run. -/
def start (name : String) : Act Unit := modify fun s =>
  { s with cookies := {}, report := { archiveName := name, status := "started", startTime := s.clock } }

/-- Runs the directives of a script. -/
def run (settings : Settings) (given : Provided) (directives : List Directive) : Act Report :=
  match directives with
  | [] => throw (.script .empty)
  | first :: rest =>
    match first.action with
    | .archiveName name => do
      start name
      Act.note (.options settings)
      let output ← prepare settings name
      drain settings given output rest
      complete output
    | _ => throw (.script (.malformed first.line .archiveMissing))

/-! ## Script files -/

/-- A text with every kind of line ending replaced by a line feed. -/
def lineFeeds : List Char → List Char
  | '\r' :: '\n' :: rest => '\n' :: lineFeeds rest
  | '\r' :: rest => '\n' :: lineFeeds rest
  | c :: rest => c :: lineFeeds rest
  | [] => []

/-- The directives of a script file. -/
def readScript (file : Path) : Act (List Directive) := do
  let bytes ← Disk.during (.readScript file) (Disk.read file)
  let text ← Act.ofExcept (fun fault => Fault.storage (.readScript file) (.encoding fault))
    (Utf8.decode bytes)
  Act.ofExcept Fault.script (Script.parse (String.ofList (lineFeeds text)))

/-- Runs a script file. -/
def runFile (settings : Settings) (file : Path) : Act Report := do
  let directives ← readScript file
  run settings {} directives

/-! ## Tests -/

example : lineFeeds "a\r\n\rb\n".toList = "a\n\nb\n".toList := by decide

end Run

end Dossier
