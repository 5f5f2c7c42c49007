import Dossier.CommandLine

/-!
# The program

The program runs on the part of the file system that a command line is about:
the files it names and the directory above the output directories.  That part
is read into a store before the run; after the run every difference between the
two stores is made on the disk.  This build comes with neither a network nor a
browser, so that requests fail and pages cannot be printed; text is saved and
archives are written.
-/

namespace Dossier.Main

/-! ## Reading the disk -/

/-- The entries of the tree at a path of the disk, the path standing for a
location.  Links below it are left out. -/
partial def treeAt (path : String) (l : Location) : IO (List (Location × Entry)) := do
  let place ← IO.FS.realPath path
  if ← place.isDir then
    let mut found := [(l, Entry.directory)]
    for item in ← place.readDir do
      if (← item.path.symlinkMetadata).type != .symlink then
        found := found ++ (← treeAt item.path.toString (l ++ [item.fileName]))
    return found
  else
    let data ← IO.FS.readBinFile place
    return [(l, .file (.plain data.toList))]

/-- A store with what lies at a path of the disk, if anything. -/
def observe (here : Location) (store : Store) (text : String) : IO Store := do
  let path := Path.ofString text
  match ← (IO.FS.realPath path.text).toBaseIO with
  | .error _ => return store
  | .ok place =>
    let store := (store.ensureDirectories here path.parent).1
    match store.find here path true with
    | .ok (.free l) => return ⟨(← treeAt place.toString l) ++ store.entries⟩
    | _ => return store

/-! ## Writing the disk -/

/-- The text of a location. -/
def placeOf (l : Location) : String := l.path.text

/-- Makes an entry on the disk. -/
def make (l : Location) : Entry → IO Unit
  | .directory => IO.FS.createDirAll (placeOf l)
  | .file content => IO.FS.writeBinFile (placeOf l) content.bytes.toByteArray
  | .link _ => pure ()

/-- Removes an entry from the disk. -/
def remove (l : Location) : Entry → IO Unit
  | .directory => IO.FS.removeDirAll (placeOf l)
  | _ => IO.FS.removeFile (placeOf l)

/-- Makes the difference between two stores on the disk: what is gone is
removed, the innermost first, and what is new is made, the outermost first. -/
def commit (old new : Store) : IO Unit := do
  let gone := old.entries.filter fun x => (new.get? x.1).isNone
  for x in gone.mergeSort fun a b => b.1.length ≤ a.1.length do
    remove x.1 x.2
  let changed := new.entries.filter fun x => old.get? x.1 != some x.2
  for x in changed.mergeSort fun a b => a.1.length ≤ b.1.length do
    make x.1 x.2

/-! ## Running -/

/-- An environment without a network and without a browser. -/
def offline (here : Location) : Environment where
  here := here
  reply := fun _ => { outcome := .error (.connection "This build has no network.") }
  hasBrowser := false

/-- The environment variables of the settings. -/
def readVariables : IO Variables := do
  return { outputDirectory := ← IO.getEnv "ANSWERSHEETS_OUTPUT_DIR",
           httpTimeout := ← IO.getEnv "ANSWERSHEETS_HTTP_TIMEOUT",
           headless := ← IO.getEnv "PLAYWRIGHT_HEADLESS" }

/-- Shows the notes of a run, those for debugging apart. -/
def showNotes (notes : List Note) : IO Unit := do
  for n in notes do
    if n.level != .debug then IO.eprintln n.text

/-- Ends the program. -/
def finish : CommandLine.Ending → IO UInt32
  | .exit code => return code.toUInt32
  | .escaped fault => do
    IO.eprintln fault.message
    return 1

/-- Runs the program on its arguments. -/
def run (arguments : List String) : IO UInt32 := do
  let given ← readVariables
  let here := (Path.ofString (← IO.currentDir).toString).parts
  let root := given.outputDirectory.getD "output"
  let bare := (Store.ensureDirectories {} [] (Location.path here)).1
  let store ← (root :: arguments).foldlM (observe here) bare
  let clock := (← IO.monoMsNow).toFloat / 1000
  match CommandLine.execute given arguments (offline here) { store := store, clock := clock } with
  | .error fault _ => finish (.escaped fault)
  | .ok outcome s =>
    commit store s.store
    IO.print outcome.output
    IO.eprint outcome.complaint
    showNotes s.notes
    finish outcome.ending

end Dossier.Main

/-- Runs the program. -/
def main (arguments : List String) : IO UInt32 := Dossier.Main.run arguments
