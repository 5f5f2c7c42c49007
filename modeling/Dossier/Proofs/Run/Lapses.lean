import Dossier.Proofs.Packing.Lapses
import Dossier.Proofs.Run.Again

/-!
# Lapses of a run

What a run leaks are its lapses, no more and no less (`leaks_run`).  Its output directory
cannot be named, or a row lapses and the browser is closed all the same, or packing lapses, or
all is packed and the time it took cannot be told.  A row lapses if the path of its
destination is too long to be asked for or if its source lapses while it is saved.
-/

namespace Dossier.Run

open Script (Directive Source)
open Act (FailsWith Leaks Reports Succeeds)

variable {settings : Settings} {given : Provided} {env : Environment} {s s' t : State}
  {fault : Fault}

/-! ## Rows -/

/-- The decision on a destination, with what is accounted for it before it is fetched. -/
def judge (settings : Settings) (output : Path) (destination : String) : Act Decision := do
  let decision ← Verdict.reach settings output destination
  announce decision.verdict destination
  return decision

/-- What a row meets and does not account for, with the fault that comes of it. -/
inductive RowLapse (settings : Settings) (env : Environment) (output : Path) (s : State) :
    Directive → Fault → Prop
  /-- The path of a destination is too long to be asked for. -/
  | long {line : Option Int} {source : Source} {d : String}
      (wanted : settings.leavesOut source = false) (subject : settings.subject = none)
      (asked : s.store.hasEntry env.here (output.child d) = .error .nameTooLong) :
      RowLapse settings env output s ⟨line, .save source d⟩
        (Disk.refused .nameTooLong (output.child d))
  /-- A source that is fetched lapses. -/
  | fetch {line : Option Int} {source : Source} {d : String} {decision : Decision} {t : State}
      {fault : Fault} (wanted : settings.leavesOut source = false)
      (judged : judge settings output d env s = .ok decision t) (isFetch : decision.isFetch = true)
      (lapse : Saving.Lapse settings env (output.child d) t source fault) :
      RowLapse settings env output s ⟨line, .save source d⟩ fault

/-- Rows fail where one of them does. -/
theorem rows_of_error {p : Path} {before after : List Directive} {directive : Directive}
    {u s' : State} (hbefore : rows settings p before env s = .ok () u)
    (hrow : row settings p directive env u = .error fault s') :
    rows settings p (before ++ directive :: after) env s = .error fault s' := by
  induction before generalizing s with
  | nil =>
      obtain ⟨_, rfl⟩ := Act.pure_ok.mp hbefore
      exact Act.bind_error.mpr (Or.inl hrow)
  | cons d before ih =>
      obtain ⟨_, t, hd, hrest⟩ := Act.bind_ok.mp hbefore
      exact Act.bind_error.mpr (Or.inr ⟨_, t, hd, ih hrest⟩)

/-- What is done with the browser of a run after its rows. -/
def release (given : Provided) : Act Unit := if given.browser then pure () else Browser.close

theorem fail_of_unreported (h : fault.isReported = false) :
    fail fault env s = .error fault s := by
  rw [fail, h]
  rfl

/-- What keeps the output directory of a run from being named, with the fault that comes of
it. -/
inductive RootLapse (settings : Settings) (env : Environment) (store : Store) (name : String) :
    Fault → Prop
  /-- Its path holds the character that no path may hold. -/
  | path (nul : (settings.outputRoot.child name).holdsNul = true) :
      RootLapse settings env store name .nul
  /-- Links lead in a circle. -/
  | circle {l : Location} (nul : (settings.outputRoot.child name).holdsNul = false)
      (leads : store.resolve env.here (settings.outputRoot.child name) = .error l) :
      RootLapse settings env store name (.circle (Location.path l))
  /-- Links lead to a path that holds the character. -/
  | target {l : Location} (nul : (settings.outputRoot.child name).holdsNul = false)
      (leads : store.resolve env.here (settings.outputRoot.child name) = .ok l)
      (target : (Location.path l).holdsNul = true) :
      RootLapse settings env store name .nul

/-- What a run meets and does not account for, with the fault that comes of it. -/
inductive Lapse (settings : Settings) (given : Provided) (env : Environment) (s : State)
    (directives : List Directive) : Fault → Prop
  /-- The output directory cannot be named. -/
  | root {fault : Fault}
      (lapse : RootLapse settings env s.store (Script.archiveName directives) fault) :
      Lapse settings given env s directives fault
  /-- A row lapses, and the browser can be closed after it. -/
  | row {output : Path} {before after : List Directive} {directive : Directive} {t u : State}
      {fault : Fault}
      (opens : opening settings given (Script.archiveName directives) env s = .ok output t)
      (split : directives.tail = before ++ directive :: after)
      (reaches : rows settings output before env t = .ok () u)
      (lapse : RowLapse settings env output u directive fault)
      (closes : Succeeds (release given) env ((row settings output directive).final env u)) :
      Lapse settings given env s directives fault
  /-- All is carried out, but packing it lapses. -/
  | packing {output : Path} {t u : State} {fault : Fault}
      (opens : opening settings given (Script.archiveName directives) env s = .ok output t)
      (drains : draining settings given output directives.tail env t = .ok () u)
      (lapse : Packing.Lapse output env u fault) :
      Lapse settings given env s directives fault
  /-- All is carried out and packed, but the time it took cannot be told. -/
  | clock {output path : Path} {t u v : State} {cause : Duration.Fault}
      (opens : opening settings given (Script.archiveName directives) env s = .ok output t)
      (drains : draining settings given output directives.tail env t = .ok () u)
      (packs : Packing.pack output env u = .ok path v)
      (between : Duration.between v.report.startTime v.clock = .error cause) :
      Lapse settings given env s directives (.clock cause)

end Dossier.Run
