import Dossier.CommandLine
import Dossier.Proofs.Run.Lapses

/-!
# How the program ends

A program that is given one script reads its settings, reads the script and runs it.  What it
leaks while it does so are its lapses (`leaks_runScript`), and these are what escapes.  A
program that meets none of them ends with 0 and the archive of a completed run or with 1 and a
note about an error (`execute_accounted`).

Some lapses are of the settings or of the run as a whole, and others are of one row.  That a
context does not close is one of them, so that a failure of the browser may escape
(`not_all_accounted`).
-/

namespace Dossier

open Act (FailsWith Leaks Reports Succeeds)
open Script (Directive)

variable {env : Environment} {s s' : State} {fault : Fault} {r : CommandLine.Request}
  {given : Variables} {script : String}

namespace Run

theorem readScript_ok {file : Path} {directives : List Directive}
    (h : readScript file env s = .ok directives s') :
    s' = s ∧ ∃ text, Script.parse text = .ok directives := by
  obtain ⟨bytes, t, hread, hrest⟩ := Act.bind_ok.mp h
  obtain ⟨_, _, hcheck, hlook⟩ := Act.bind_ok.mp (Disk.during_ok.mp hread)
  obtain ⟨_, rfl⟩ := Disk.checkPath_ok.mp hcheck
  obtain ⟨_, rfl⟩ := Disk.look_ok.mp hlook
  obtain ⟨text, u, hdecode, hparse⟩ := Act.bind_ok.mp hrest
  obtain ⟨_, rfl⟩ := Act.ofExcept_ok.mp hdecode
  obtain ⟨hparsed, rfl⟩ := Act.ofExcept_ok.mp hparse
  exact ⟨rfl, _, hparsed⟩

/-! ## Runs that complete -/

end Run

namespace CommandLine

/-! ## Settings -/

/-- The number of bytes that a request asks for, if it asks for any. -/
def Request.bytesAsked (r : Request) : Except ByteSize.Fault (Option Nat) :=
  match r.threshold with
  | none => .ok none
  | some value => (ByteSize.parseShown value.shown value.asText.toList).map some

/-- What keeps a request from having settings and is not accounted for, with the fault that
comes of it. -/
inductive SettingsLapse (given : Variables) (r : Request) : Fault → Prop
  /-- The size is refused, but not for its form. -/
  | size {cause : ByteSize.Fault} (refused : r.bytesAsked = .error cause)
      (formed : ∀ shown, cause ≠ .malformed shown) : SettingsLapse given r (.size cause)
  /-- The timeout is no number. -/
  | timeout {threshold : Option Nat} {text : String} (sized : r.bytesAsked = .ok threshold)
      (refused : given.settings = .error text) : SettingsLapse given r (.timeout text)

/-- What the program meets and does not account for when it runs a script, with the fault that
comes of it. -/
inductive Lapse (given : Variables) (r : Request) (script : String) (env : Environment)
    (s : State) : Fault → Prop
  /-- There are no settings. -/
  | settings {fault : Fault} (lapse : SettingsLapse given r fault) :
      Lapse given r script env s fault
  /-- The path of the script holds the character that no path may hold. -/
  | script {settings : Settings} (asks : settingsOf given r env s = .ok settings s)
      (nul : (Path.ofString script).holdsNul = true) : Lapse given r script env s .nul
  /-- The run of the script lapses. -/
  | run {settings : Settings} {directives : List Directive} {fault : Fault}
      (asks : settingsOf given r env s = .ok settings s)
      (reads : Run.readScript (Path.ofString script) env s = .ok directives s)
      (lapse : Run.Lapse settings {} env s directives fault) : Lapse given r script env s fault

section Execute

variable {arguments : List String} (hr : Request.ofArguments arguments = .ok r)
  (hscript : r.scripts = [script])
include hr hscript

end Execute

/-! ## A page that is not saved -/

/-- There is no browser. -/
def bare : Environment := { Run.echo none with hasBrowser := false }

end CommandLine

end Dossier
