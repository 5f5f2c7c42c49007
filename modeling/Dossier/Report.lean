import Dossier.ByteSize
import Dossier.Store.Path
import Dossier.Text.Order
import Dossier.Value

/-!
# Reports

A report accounts for what a run did with every row: what it fetched, what it
fetched again, and what it skipped and why.  The summary counts the skips by
category, the categories in order of their names.  A report keeps items in the
order of the rows.
-/

namespace Dossier

/-- Something that was not fetched, and why. -/
structure Skip where
  category : String
  item : String
deriving DecidableEq, Repr

/-- The account of a run. -/
structure Report where
  archiveName : String := ""
  status : String := "not_started"
  /-- The clock when the run started. -/
  startTime : Float := 0
  /-- The seconds the run took, once it is over. -/
  elapsed : Float := 0
  fetched : Array String := #[]
  refetched : Array String := #[]
  skips : Array Skip := #[]
  bytesWritten : Int := 0
  archivePath : Option Path := none

namespace Report

/-! ## Filling in -/

/-- Something was fetched, with so many bytes. -/
def withFetch (r : Report) (item : String) (size : Int) : Report :=
  { r with fetched := r.fetched.push item, bytesWritten := r.bytesWritten + size }

/-- Something was cleared to be fetched again. -/
def withRefetch (r : Report) (item : String) : Report :=
  { r with refetched := r.refetched.push item }

/-- Something was skipped. -/
def withSkip (r : Report) (category item : String) : Report :=
  { r with skips := r.skips.push ⟨category, item⟩ }

/-- The run is over, in the given way and at the given time. -/
def conclude (r : Report) (status : String) (now : Float) : Report :=
  { r with status := status, elapsed := now - r.startTime }

/-! ## Counting -/

/-- A list of counts with one more of a category, which is added at the end if
it is new. -/
def countOne (category : String) : List (String × Nat) → List (String × Nat)
  | [] => [(category, 1)]
  | (c, n) :: rest => if c = category then (c, n + 1) :: rest else (c, n) :: countOne category rest

/-- The number of skips of each category, in the order they first occur. -/
def skipCounts (r : Report) : List (String × Nat) :=
  r.skips.foldl (fun counts s => countOne s.category counts) []

/-- The order of names by code points. -/
abbrev nameLE : String → String → Bool := Text.nameLE

/-- The number of skips of each category, in the order of their names. -/
def sortedCounts (r : Report) : List (String × Nat) :=
  r.skipCounts.mergeSort fun a b => nameLE a.1 b.1

/-! ## The summary -/

/-- A category in words. -/
def categoryWords (category : String) : String :=
  String.ofList (category.toList.map fun c => if c == '_' then ' ' else c)

/-- A number of things in groups of three digits. -/
def amount (n : Nat) : String := String.ofList (Decimal.grouped n)

/-- The summary of a run, given the text of its size. -/
def summaryWith (r : Report) (size : String) : String :=
  let saved := amount r.fetched.size ++ " saved (" ++ size ++ ")"
  let again := if r.refetched.isEmpty then [] else [amount r.refetched.size ++ " refetched"]
  let skipped :=
    if r.skips.isEmpty then []
    else
      let parts := r.sortedCounts.map fun c => toString c.2 ++ " " ++ categoryWords c.1
      [amount r.skips.size ++ " skipped (" ++ ", ".intercalate parts ++ ")"]
  " | ".intercalate ([saved] ++ again ++ skipped)

/-- The summary of a run, in one line. -/
def summary (r : Report) : String := r.summaryWith (ByteSize.text r.bytesWritten)

/-- The summary of a run, if its size can be shown. -/
def summary? (r : Report) : Option String := (ByteSize.text? r.bytesWritten).map r.summaryWith

/-! ## Plain data -/

/-- A skip as plain data. -/
def skipValue (s : Skip) : Value := .record [("category", .text s.category), ("item", .text s.item)]

/-- A report as plain data.  Empty parts are left out. -/
def value (r : Report) : Value :=
  let again :=
    if r.refetched.isEmpty then [] else [("refetched", .list (r.refetched.toList.map .text))]
  let skipped := if r.skips.isEmpty then [] else [("skips", .list (r.skips.toList.map skipValue))]
  let archive := match r.archivePath with
    | none => []
    | some p => [("archive_path", .text p.text)]
  .record ([("archive_name", .text r.archiveName),
    ("status", .text r.status),
    ("elapsed_seconds", .real (Shortest.roundPlaces 2 r.elapsed)),
    ("items_fetched", .whole r.fetched.size),
    ("items_skipped", .whole r.skips.size),
    ("bytes_written", .whole r.bytesWritten)] ++ again ++ skipped ++ archive)

end Report

end Dossier
