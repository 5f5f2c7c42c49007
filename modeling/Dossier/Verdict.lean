import Dossier.Disk

/-!
# Verdicts

For every destination a run decides whether to fetch its file, from its settings
and from what an earlier run has left.  With a subject only the responses of that
subject are fetched, whether they are there or not.  Without one everything
that is there already is kept, except responses that are too small: their
directory is cleared, so that the subject is fetched again from scratch.  The
output directory itself is never removed, only the responses in it.
-/

namespace Dossier

/-- What is to happen to a destination. -/
inductive Verdict
  | fetch
  | notOfInterest
  | alreadyPresent
  | refetchTooSmall
deriving DecidableEq, Repr

/-- What is decided about a destination: the verdict on it and the path of its file. -/
structure Decision where
  verdict : Verdict
  file : Path
deriving DecidableEq, Repr

namespace Verdict

/-- The name of a verdict. -/
def name : Verdict → String
  | .fetch => "fetch"
  | .notOfInterest => "not_of_interest"
  | .alreadyPresent => "already_present"
  | .refetchTooSmall => "refetch_too_small"

/-- The destination is to be fetched. -/
def isFetch : Verdict → Bool
  | .fetch | .refetchTooSmall => true
  | _ => false

end Verdict

namespace Decision

/-- The name of the verdict. -/
def name (decision : Decision) : String := decision.verdict.name

/-- The file is to be fetched. -/
def isFetch (decision : Decision) : Bool := decision.verdict.isFetch

end Decision

namespace Verdict

/-! ## Responses -/

/-- The name of the file with the responses of a subject. -/
def responsesName : String := "responses.pdf"

/-- A destination that has the responses of a subject. -/
def isResponses (destination : String) : Bool := (Path.ofString destination).name == responsesName

/-- The destination of the responses of a subject. -/
def responsesOf (subject : String) : String := subject ++ "/" ++ responsesName

/-! ## Deciding -/

/-- Removes the directory of responses that are too small. -/
def clear (output directory : Path) : Act Unit :=
  Disk.during (.remove directory)
    (if directory = output then Disk.unlink (directory.child responsesName)
     else Disk.removeTree directory)

/-- The decision on a destination whose responses have fewer bytes than is asked
for, once their directory is cleared. -/
def tooSmall (output : Path) (destination : String) (size : Nat) : Act Decision := do
  let file := output.child destination
  Act.note (.refetching destination size file.parent)
  clear output file.parent
  return ⟨.refetchTooSmall, file⟩

/-- The size of responses with fewer bytes than is asked for.  Nothing else is
too small. -/
def smallSize? (settings : Settings) (output : Path) (destination : String) :
    Act (Option Nat) := do
  match settings.threshold with
  | some threshold =>
    if isResponses destination then
      let size ← Disk.size (output.child destination)
      return if (size : Int) < threshold then some size else none
    else return none
  | none => return none

/-- The decision on a destination where something lies. -/
def onPresent (settings : Settings) (output : Path) (destination : String) : Act Decision := do
  match ← smallSize? settings output destination with
  | some size => tooSmall output destination size
  | none =>
    Act.note (.alreadyPresent destination)
    return ⟨.alreadyPresent, output.child destination⟩

/-- Decides about a destination in an output directory. -/
def reach (settings : Settings) (output : Path) (destination : String) : Act Decision := do
  let file := output.child destination
  match settings.subject with
  | some subject =>
    if destination = responsesOf subject then return ⟨.fetch, file⟩
    else
      Act.note (.notOfInterest destination)
      return ⟨.notOfInterest, file⟩
  | none =>
    if ← Disk.look file Store.hasEntry then onPresent settings output destination
    else return ⟨.fetch, file⟩

end Verdict

end Dossier
