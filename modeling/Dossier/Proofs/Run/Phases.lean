import Dossier.Proofs.Act.Inward
import Dossier.Proofs.Run.Broken

/-!
# The phases of a run

A run of a script opens, drains its rows and completes (`run_phases`).  Opening
starts the report, makes the output directory and opens a session.  Draining
leaves the store as the rows leave it, however they end (`drain_store`).

A directive *fails* in a run if the rows before it are carried out from where
the run has opened and its own row is not.  A run that has opened goes on as its
draining and its completing do (`run_ok`, `Opened.run_error`).
-/

namespace Dossier.Run

open Script (Directive Source Action)
open Act (Follows Keeps)

variable {settings : Settings} {given : Provided} {env : Environment} {s s' t : State}
  {output : Location} {directives : List Directive}

/-- The session that a run opens, unless it is handed one. -/
def sessionOf (given : Provided) : Connector.Outcome :=
  if given.session then ⟨{}, [], none⟩ else Connector.getSession {}

/-- What a run does before its rows. -/
def opening (settings : Settings) (given : Provided) (name : String) : Act Path := do
  start name
  Act.note (.options settings)
  let output ← prepare settings name
  recordAll (sessionOf given).events
  return output

/-- What a run does from its rows until everything is closed. -/
def draining (settings : Settings) (given : Provided) (output : Path)
    (directives : List Directive) : Act Unit :=
  (((rows settings output directives).rescue fail).andAlways
    (if given.browser then pure () else Browser.close)).andAlways
      (recordAll (sessionOf given).connector.close.events)

/-- A run opens, drains its rows and completes. -/
theorem run_phases (line : Option Int) (name : String) (rest : List Directive) :
    run settings given (⟨line, .archiveName name⟩ :: rest) = (do
      let output ← opening settings given name
      draining settings given output rest
      complete output) := by
  have hdrain : ∀ p, drain settings given p rest =
      recordAll (sessionOf given).events >>= fun _ => draining settings given p rest := fun _ => rfl
  simp only [run, opening, hdrain, bind_assoc, pure_bind]

/-- A run has opened: its output directory is made, and it comes to its rows in a state. -/
def Opened (settings : Settings) (given : Provided) (env : Environment) (s : State)
    (directives : List Directive) (output : Path) (t : State) : Prop :=
  ∃ line name rest, directives = ⟨line, .archiveName name⟩ :: rest ∧
    opening settings given name env s = .ok output t

/-- A run fails at a directive, with a fault. -/
def FailsAt (settings : Settings) (given : Provided) (env : Environment) (s : State)
    (directives : List Directive) (directive : Directive) (fault : Fault) : Prop :=
  ∃ output before after t u u', directives.tail = before ++ directive :: after ∧
    opening settings given (Script.archiveName directives) env s = .ok output t ∧
    rows settings output before env t = .ok () u ∧
    row settings output directive env u = .error fault u'

/-! ## Draining -/

/-- Notes and the end of the report leave the store alone. -/
theorem reporting_store : Act.Reporting fun s s' : State => s'.store = s.store where
  toChained := .part State.store
  note _ _ := rfl
  report _ _ _ _ := rfl

/-- What closing leaves alone, draining leaves as the rows do and the account of their
fault. -/
theorem closed_draining {γ : Type} {part : State → γ} (hclose : Keeps part Browser.close)
    (hrecord : Keeps part (recordAll (sessionOf given).connector.close.events)) (p : Path) :
    part ((draining settings given p directives).final env s) =
      part (((rows settings p directives).rescue fail).final env s) := by
  have hclosing : Keeps part (if given.browser then pure () else Browser.close) := fun env =>
    .ite (.pure (.part _) ()) (hclose env)
  rw [draining, hrecord.final_andAlways, hclosing.final_andAlways]

/-- Draining leaves a part of the holdings as the rows leave it, if accounting for a
fault does. -/
theorem final_draining {γ : Type} {part : State → γ} (given : Provided) (p : Path)
    (hpart : ∀ {s t : State}, t.holdings = s.holdings → part t = part s)
    (hreporting : Act.Reporting fun s s' : State => part s' = part s) :
    part ((draining settings given p directives).final env s) =
      part ((rows settings p directives).final env s) := by
  have hkeeps : ∀ {act : Act Unit}, Keeps State.holdings act → Keeps part act :=
    fun h env s => hpart (h env s)
  rw [closed_draining (hkeeps Browser.keeps_close) (hkeeps (keeps_recordAll _)),
    Keeps.final_rescue fun fault _ => hreporting.follows_fail fault]

/-- Draining leaves the store as the rows leave it. -/
theorem drain_store (given : Provided) (p : Path) :
    ((draining settings given p directives).final env s).store =
      ((rows settings p directives).final env s).store :=
  final_draining given p (fun h => congrArg Prod.fst h) reporting_store

/-- Rows that are drained are carried out, and what they leave is left. -/
theorem draining_ok {p : Path} (h : draining settings given p directives env s = .ok () s') :
    ∃ t, rows settings p directives env s = .ok () t ∧ s'.holdings = t.holdings :=
  closed_ok h

/-- Rows are carried out if they are drained. -/
theorem rows_of_draining {p : Path}
    (h : draining settings given p directives env s = .ok () s') :
    ∃ t, rows settings p directives env s = .ok () t :=
  (draining_ok h).imp fun _ => And.left

/-! ## Runs that have opened -/

section Opened

variable {p : Path} {fault : Fault} {report : Report}

/-- What a run does once it has opened. -/
theorem Opened.run_eq (h : Opened settings given env s directives p t) :
    run settings given directives env s =
      (draining settings given p directives.tail >>= fun _ => complete p) env t := by
  obtain ⟨line, name, rest, rfl, hopen⟩ := h
  rw [run_phases, Act.bind_of_ok hopen]
  rfl

/-- A run that completes has opened, drained its rows and completed. -/
theorem run_ok (h : run settings given directives env s = .ok report s') :
    ∃ p t u, Opened settings given env s directives p t ∧
      draining settings given p directives.tail env t = .ok () u ∧
      complete p env u = .ok report s' := by
  match directives, h with
  | [], h => cases h
  | ⟨_, .cookies _⟩ :: _, h => cases h
  | ⟨_, .save _ _⟩ :: _, h => cases h
  | ⟨line, .archiveName name⟩ :: rest, h =>
      rw [run_phases] at h
      obtain ⟨p, t, hopen, h⟩ := Act.bind_ok.mp h
      obtain ⟨_, u, hdrain, hcomplete⟩ := Act.bind_ok.mp h
      exact ⟨p, t, u, ⟨line, name, rest, rfl, hopen⟩, hdrain, hcomplete⟩

/-- A run that fails after it has opened fails as it drains its rows or as it completes. -/
theorem Opened.run_error (ho : Opened settings given env s directives p t)
    (h : run settings given directives env s = .error fault s') :
    draining settings given p directives.tail env t = .error fault s' ∨
      ∃ u, draining settings given p directives.tail env t = .ok () u ∧
        complete p env u = .error fault s' := by
  rw [ho.run_eq] at h
  rcases Act.bind_error.mp h with hdrain | ⟨_, u, hdrain, hcomplete⟩
  · exact Or.inl hdrain
  · exact Or.inr ⟨u, hdrain, hcomplete⟩

/-- A row at which a run fails comes after rows that are carried out. -/
theorem Opened.failsAt_iff (ho : Opened settings given env s directives p t)
    {directive : Directive} :
    FailsAt settings given env s directives directive fault ↔
      ∃ before after u u', directives.tail = before ++ directive :: after ∧
        rows settings p before env t = .ok () u ∧
          row settings p directive env u = .error fault u' := by
  obtain ⟨line, name, rest, rfl, hopen⟩ := ho
  constructor
  · rintro ⟨p', before, after, t', u, u', hsplit, hopen', hrows, hrow⟩
    cases hopen.symm.trans hopen'
    exact ⟨before, after, u, u', hsplit, hrows, hrow⟩
  · rintro ⟨before, after, u, u', hsplit, hrows, hrow⟩
    exact ⟨p, before, after, t, u, u', hsplit, hopen, hrows, hrow⟩

end Opened

end Dossier.Run
