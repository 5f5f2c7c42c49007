import Dossier.Number.Reading
import Dossier.Store.Path
import Dossier.Value

/-!
# Settings

The options of a run.  Three of them are read from environment variables; the
command line overrides some.  An override gives a value or says nothing, and
what it does not say stays as it was.  Overrides compose (`Overrides.andThen`):
of two given one after the other the later wins, field by field.

A timeout is a whole number as long as it comes from the program itself, and a
float once it went through the environment.
-/

namespace Dossier

/-- The seconds a request may take. -/
inductive Timeout
  | whole (n : Int)
  | real (x : Float)

/-- A timeout as plain data. -/
def Timeout.value : Timeout → Value
  | .whole n => .whole n
  | .real x => .real x

/-- The text of a timeout. -/
def Timeout.text (t : Timeout) : String := t.value.shown

/-- The options of a run. -/
structure Settings where
  /-- Save only the responses of this one attempt. -/
  subject : Option String := none
  /-- Fetch existing responses again if they have fewer bytes. -/
  threshold : Option Int := none
  /-- Print no pages. -/
  skipPages : Bool := false
  /-- The directory above the output directories. -/
  outputRoot : Path := ⟨.relative, ["output"]⟩
  /-- The milliseconds a page may take to load. -/
  navigationTimeout : Int := 300000
  /-- The seconds a request may take. -/
  requestTimeout : Timeout := .whole 120
  /-- Run the browser without a window. -/
  headless : Bool := true
  /-- The paper a page is printed on. -/
  pageFormat : String := "A4"

namespace Settings

/-- The settings of a program that is told nothing. -/
def standard : Settings := {}

/-- Settings as plain data, the fields in alphabetical order. -/
def value (s : Settings) : Value := .record
  [("headless", .flag s.headless),
   ("http_timeout", s.requestTimeout.value),
   ("navigation_timeout_ms", .whole s.navigationTimeout),
   ("output_root", .text s.outputRoot.text),
   ("page_format", .text s.pageFormat),
   ("redownload_smaller_than", s.threshold.elim .null .whole),
   ("skip_pdfs", .flag s.skipPages),
   ("subject", s.subject.elim .null .text)]

end Settings

/-! ## Overrides -/

/-- New values for some of the settings. -/
structure Overrides where
  subject : Option String := none
  threshold : Option Int := none
  skipPages : Option Bool := none
  outputRoot : Option Path := none
  navigationTimeout : Option Int := none
  requestTimeout : Option Timeout := none
  headless : Option Bool := none
  pageFormat : Option String := none

namespace Overrides

/-- No field is given. -/
def isEmpty (o : Overrides) : Bool :=
  o.subject.isNone && o.threshold.isNone && o.skipPages.isNone && o.outputRoot.isNone &&
    o.navigationTimeout.isNone && o.requestTimeout.isNone && o.headless.isNone &&
    o.pageFormat.isNone

/-- Two overrides as one: the second where it gives a value, else the first. -/
def andThen (o p : Overrides) : Overrides :=
  ⟨p.subject.or o.subject, p.threshold.or o.threshold, p.skipPages.or o.skipPages,
   p.outputRoot.or o.outputRoot, p.navigationTimeout.or o.navigationTimeout,
   p.requestTimeout.or o.requestTimeout, p.headless.or o.headless, p.pageFormat.or o.pageFormat⟩

end Overrides

namespace Settings

/-- Settings with the given fields replaced. -/
def override (s : Settings) (o : Overrides) : Settings :=
  ⟨o.subject.or s.subject, o.threshold.or s.threshold, o.skipPages.getD s.skipPages,
   o.outputRoot.getD s.outputRoot, o.navigationTimeout.getD s.navigationTimeout,
   o.requestTimeout.getD s.requestTimeout, o.headless.getD s.headless,
   o.pageFormat.getD s.pageFormat⟩

/-- New settings, if the overrides give any field. -/
def revise? (s : Settings) (o : Overrides) : Option Settings :=
  if o.isEmpty then none else some (s.override o)

end Settings

/-! ## The environment -/

/-- The environment variables that hold settings. -/
structure Variables where
  /-- `ANSWERSHEETS_OUTPUT_DIR` -/
  outputDirectory : Option String := none
  /-- `ANSWERSHEETS_HTTP_TIMEOUT` -/
  httpTimeout : Option String := none
  /-- `PLAYWRIGHT_HEADLESS` -/
  headless : Option String := none

namespace Variables

/-- The words that switch a flag on, in small letters. -/
def yesWords : List String := ["1", "true", "yes"]

/-- A flag from the text of a variable.  An empty one counts as not set. -/
def flag (text : Option String) (default : Bool) : Bool :=
  match text with
  | none => default
  | some t => if t = "" then default else yesWords.contains (String.ofList (t.toList.map Char.toLower))

/-- The settings of an environment, or the text of a timeout that is no
number. -/
def settings (v : Variables) : Except String Settings :=
  let timeoutText := v.httpTimeout.getD "120"
  match Reading.float? timeoutText with
  | none => .error timeoutText
  | some timeout => .ok
    { outputRoot := Path.ofString (v.outputDirectory.getD "output")
      requestTimeout := .real timeout
      headless := flag v.headless true }

end Variables

end Dossier
