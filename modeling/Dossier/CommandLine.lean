import Dossier.CommandLine.Manual
import Dossier.CommandLine.Request
import Dossier.Run

/-!
# The command line

A command line with one script runs it, with settings from the environment and
from the options.  With no script or with several it shows how the program is
used.  A fault that is reported becomes a note and the exit code 1; any other
fault escapes.
-/

namespace Dossier.CommandLine

/-- How the program ends. -/
inductive Ending
  | exit (code : Nat)
  | escaped (fault : Fault)
deriving DecidableEq, Repr

/-- What the program shows besides its notes, and how it ends. -/
structure Outcome where
  output : String := ""
  complaint : String := ""
  ending : Ending := .exit 0
deriving DecidableEq, Repr

/-- What the program shows if the reading of the command line stops. -/
def Stop.outcome : Stop → Outcome
  | .help => { output := Manual.help }
  | .version => { output := Manual.version }
  | .misuse fault => { complaint := Manual.complaint fault.message, ending := .exit 2 }

/-! ## Settings -/

/-- The number of bytes that a value asks for. -/
def thresholdOf (value : Value) : Act Nat :=
  Act.ofExcept Fault.size (ByteSize.parseShown value.shown value.asText.toList)

/-- The settings of a request. -/
def settingsOf (given : Variables) (r : Request) : Act Settings := do
  let threshold ← r.threshold.mapM thresholdOf
  let settings ← Act.ofExcept Fault.timeout given.settings
  return settings.override
    { subject := r.subject.map Value.asText,
      threshold := threshold.map fun n => (n : Int),
      skipPages := if r.skipPages then some true else none }

/-! ## Running -/

/-- Runs a script as a request says. -/
def runScript (given : Variables) (r : Request) (script : String) : Act Unit := do
  let settings ← settingsOf given r
  let _ ← Run.runFile settings (Path.ofString script)

/-- How the program ends after a fault. -/
def endingOf (fault : Fault) : Act Ending := do
  if fault.isReported then
    Act.note (.failed fault)
    return .exit 1
  else return .escaped fault

/-- Runs the program on its arguments. -/
def execute (given : Variables) (arguments : List String) : Act Outcome :=
  match Request.ofArguments arguments with
  | .error stop => pure stop.outcome
  | .ok r =>
    match r.scripts with
    | [script] => do
      let ending ← (do runScript given r script; return .exit 0 : Act Ending).rescue endingOf
      return { ending := ending }
    | _ => pure { output := Manual.usage }

end Dossier.CommandLine
