import Dossier.ByteSize
import Dossier.Duration
import Dossier.Event
import Dossier.Script.Fault
import Dossier.Store.Calls

/-!
# Faults

Everything that can end a run early, by cause.  A fault is *reported* if the
program names what it was doing and accounts for it: a script or a size that is
refused, a failure of the store, of the network or of the browser.  The other
faults pass through as they arise.

`Fault.message` is the one place that words them.
-/

namespace Dossier

/-! ## Causes -/

/-- A failed call of the system. -/
inductive SystemFault
  /-- A call on a path is refused. -/
  | refused (e : Errno) (path : Path)
  /-- The system reports a failure in words of its own. -/
  | reported (message : String)
  /-- A tree behind a link is not removed. -/
  | linkedTree
deriving DecidableEq, Repr

/-- What the program was doing with the store. -/
inductive StorageTask
  | readScript (path : Path)
  | createOutput (path : Path)
  | createDirectory (path : Path)
  | write (path : Path)
  | readBack (path : Path)
  | remove (path : Path)
  | createArchive (path : Path)
deriving DecidableEq, Repr

/-- Why a file is too old or too new for an archive. -/
inductive DateFault
  /-- It is dated before the first year that an archive can express. -/
  | early
  /-- It is dated after the last one. -/
  | late
deriving DecidableEq, Repr

/-- Why that failed. -/
inductive StorageCause
  | system (fault : SystemFault)
  | encoding (fault : Utf8.Fault)
deriving DecidableEq, Repr

/-- What failed on the network. -/
inductive NetworkFault
  /-- There is no response. -/
  | unreachable (url message : String)
  /-- The response is cut short. -/
  | interrupted (url message : String)
deriving DecidableEq, Repr

/-- What failed in the browser. -/
inductive RenderFault
  /-- There is no browser. -/
  | missing
  /-- The browser does not start. -/
  | launch (message : String)
  /-- A page does not load or print. -/
  | page (url message : String)
  /-- The browser does not shut down. -/
  | shutdown (message : String)
deriving DecidableEq, Repr

/-- Everything that can end a run early. -/
inductive Fault
  /-- The script is refused. -/
  | script (fault : Script.Fault)
  /-- A size is refused. -/
  | size (fault : ByteSize.Fault)
  /-- Something cannot be done with the store. -/
  | storage (task : StorageTask) (cause : StorageCause)
  /-- A URL cannot be fetched. -/
  | network (fault : NetworkFault)
  /-- A page cannot be printed. -/
  | render (fault : RenderFault)
  /-- A call of the system fails. -/
  | system (fault : SystemFault)
  /-- A file has no date that an archive can express. -/
  | date (fault : DateFault)
  /-- A call on the browser fails. -/
  | browser (message : String)
  /-- A request fails with a value. -/
  | value (message : String)
  /-- A URL has no host to speak of. -/
  | host (fault : Host.Fault)
  /-- A path holds the character that no path may hold. -/
  | nul
  /-- A path leads in a circle. -/
  | circle (path : Path)
  /-- A timeout is no number. -/
  | timeout (text : String)
  /-- A difference of times is no duration. -/
  | clock (fault : Duration.Fault)
deriving DecidableEq, Repr

/-- The program names what it was doing and accounts for the fault. -/
def Fault.isReported : Fault → Bool
  | .script _ | .storage .. | .network _ | .render _ => true
  | .size (.malformed _) => true
  | _ => false

/-! ## Messages -/

/-- The message about a failed call. -/
def SystemFault.message : SystemFault → String
  | .refused e path =>
    "[Errno " ++ toString e.code ++ "] " ++ e.text ++ ": " ++ Text.quoted path.text
  | .reported message => "[Errno 28] " ++ message
  | .linkedTree => "Cannot call rmtree on a symbolic link"

/-- The message about what could not be done with the store. -/
def StorageTask.message : StorageTask → String
  | .readScript path => "Cannot read instruction file " ++ path.text
  | .createOutput path => "Cannot create output directory " ++ path.text
  | .createDirectory path => "Cannot create directory " ++ path.text
  | .write path => "Cannot write " ++ path.text
  | .readBack path => "Cannot read back " ++ path.text
  | .remove path => "Cannot remove " ++ path.text
  | .createArchive path => "Cannot create archive " ++ path.text

/-- The message about why. -/
def StorageCause.message : StorageCause → String
  | .system fault => fault.message
  | .encoding fault => fault.message

/-- The message about a date. -/
def DateFault.message : DateFault → String
  | .early => "ZIP does not support timestamps before 1980"
  | .late => "ushort format requires 0 <= number <= 65535"

/-- The message about a failure on the network. -/
def NetworkFault.message : NetworkFault → String
  | .unreachable url message => "Could not fetch " ++ url ++ ": " ++ message
  | .interrupted url message => "Download of " ++ url ++ " was interrupted: " ++ message

/-- The message about a failure in the browser. -/
def RenderFault.message : RenderFault → String
  | .missing =>
    "Playwright is required to save PDFs. Install it with:\n  pip install playwright\n" ++
      "  python -m playwright install chromium"
  | .launch message => "Could not launch the browser: " ++ message
  | .page url message => "Could not render " ++ url ++ " to PDF: " ++ message
  | .shutdown message => "Could not close the browser: " ++ message

/-- The message about a size that is refused. -/
def ByteSize.Fault.message : ByteSize.Fault → String
  | .malformed shown =>
    "Cannot understand the size " ++ shown ++
      ". Use a whole number followed by B, KB, MB or GB, for example 5KB."
  | .tooManyDigits count =>
    "Exceeds the limit (" ++ toString ByteSize.maxDigits ++
      " digits) for integer string conversion: value has " ++ toString count ++
      " digits; use sys.set_int_max_str_digits() to increase the limit"
  | .unknownUnit name => Text.quoted name

/-- The message about a difference of times. -/
def Duration.Fault.message : Duration.Fault → String
  | .infinite => "cannot convert float infinity to integer"
  | .undefined => "cannot convert float NaN to integer"

/-- The message about a fault. -/
def Fault.message : Fault → String
  | .script fault => fault.message
  | .size fault => fault.message
  | .storage task cause => task.message ++ ": " ++ cause.message
  | .network fault => fault.message
  | .render fault => fault.message
  | .system fault => fault.message
  | .date fault => fault.message
  | .browser message => message
  | .value message => message
  | .host fault => fault.message
  | .nul => "embedded null byte"
  | .circle path => "Symlink loop from " ++ Text.quoted path.text
  | .timeout text => "could not convert string to float: " ++ Text.quoted text
  | .clock fault => fault.message

end Dossier
