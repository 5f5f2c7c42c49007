import Dossier.Proofs.Act.Frame
import Dossier.Proofs.Run.Again
import Dossier.Proofs.Run.Visits

/-!
# Runs for one subject

With a subject a run *wants* only the rows that save the responses of that subject, but
not those of pages that are left out.  Such a row is carried out without a look at what
lies at its destination (`save_of_wants`).  Every other row that saves is passed over,
and then nothing happens but that it is accounted for (`row_of_unwanted`).

So the responses of the subject and the archive are the only files that a run may
change.  It removes nothing else, calls for nothing else, and tells of every other row
that it comes to that it was skipped (`run_subject`).
-/

namespace Dossier

open Script (Directive Source Action)
open Act (Chained Follows Keeps)
open State (Idles SavesIn)

/-- An action that is carried out for a subject. -/
def Settings.wants (settings : Settings) (subject : String) : Action → Bool
  | .save source d => !settings.leavesOut source && d == Verdict.responsesOf subject
  | _ => false

/-- What is skipped of an action when only the responses of a subject are wanted. -/
def Settings.passedOver (settings : Settings) (subject : String) (action : Action) : Option Skip :=
  if settings.wants subject action then none else settings.skipAs "not_of_interest" action

/-- What a run has skipped so far. -/
def State.skips (s : State) : List Skip := s.report.skips.toList

theorem State.skips_of_holdings {s t : State} (h : t.holdings = s.holdings) : t.skips = s.skips :=
  congrArg (fun holdings => holdings.2.report.skips.toList) h

variable {settings : Settings} {given : Provided} {env : Environment} {s s' t : State} {p : Path}
  {output : Location} {subject d : String} {source : Source} {directives : List Directive}

theorem Settings.wants_iff {action : Action} : settings.wants subject action = true ↔
    ∃ source, action = .save source (Verdict.responsesOf subject) ∧
      settings.leavesOut source = false := by
  cases action with
  | archiveName name => simp [Settings.wants]
  | cookies blob => simp [Settings.wants]
  | save source d => simp [Settings.wants, and_comm]

namespace Run

/-! ## Rows that are wanted -/

/-- A row that is wanted fetches, whatever lies at its destination. -/
theorem save_of_wants (hsubject : settings.subject = some subject)
    (hwanted : settings.leavesOut source = false) (p : Path) :
    save settings p source (Verdict.responsesOf subject) =
      acquire settings (p.child (Verdict.responsesOf subject)) source
        (Verdict.responsesOf subject) := by
  have hreach : Verdict.reach settings p (Verdict.responsesOf subject) =
      pure ⟨.fetch, p.child (Verdict.responsesOf subject)⟩ := by
    simp only [Verdict.reach, hsubject, if_pos]
  rw [save_of_wanted hwanted, saveIfWanted, hreach, pure_bind]
  rfl

/-! ## Rows that are passed over -/

/-- A row that is not wanted takes a note and skips its destination. -/
theorem save_of_unwanted (hsubject : settings.subject = some subject)
    (h : settings.wants subject (.save source d) = false) (p : Path) :
    ∃ n, save settings p source d = (do
      Act.note n
      skip (if settings.leavesOut source then "pdf_disabled" else "not_of_interest") d) := by
  cases hout : settings.leavesOut source with
  | true => exact ⟨_, save_of_leftOut hout p d⟩
  | false =>
      have hother : d ≠ Verdict.responsesOf subject := by
        simpa [Settings.wants, hout] using h
      have hreach : Verdict.reach settings p d = (do
          Act.note (.notOfInterest d)
          return ⟨.notOfInterest, p.child d⟩) := by
        simp only [Verdict.reach, hsubject, if_neg hother]
      refine ⟨.notOfInterest d, ?_⟩
      rw [save_of_wanted hout, saveIfWanted, hreach, bind_assoc]
      rfl

/-- A row that is not wanted does nothing but to account for what it passes over and to
set cookies. -/
theorem row_of_unwanted (hsubject : settings.subject = some subject) (p : Path)
    {directive : Directive} (h : settings.wants subject directive.action = false)
    (env : Environment) (s : State) :
    Idles [] ([directive.action].filterMap (settings.passedOver subject)) s
      ((row settings p directive).final env s) := by
  have hskips : [directive.action].filterMap (settings.passedOver subject) =
      (settings.skipAs "not_of_interest" directive.action).toList := by
    simp only [List.filterMap, Settings.passedOver, h]
    cases settings.skipAs "not_of_interest" directive.action <;> rfl
  rw [hskips]
  obtain ⟨line, action⟩ := directive
  have hchained : Chained (Idles [] []) := ⟨.refl, .trans⟩
  cases action with
  | archiveName name => exact .refl s
  | cookies blob =>
      have hset : Follows env (Idles [] []) (setCookies line blob) :=
        .bind hchained (.ofExcept hchained _ _) fun _ =>
          .bind hchained (.modify fun _ => ⟨rfl, (List.append_nil _).symm, rfl, rfl, by simp⟩)
            fun _ => .modify fun _ => ⟨rfl, (List.append_nil _).symm, rfl, rfl, by simp⟩
      exact hset s
  | save source d =>
      obtain ⟨n, hsave⟩ := save_of_unwanted hsubject h p
      show Idles _ _ s ((save settings p source d).final env s)
      rw [hsave]
      refine ⟨rfl, (List.append_nil _).symm, rfl, rfl, ?_⟩
      show s.report.withSkip _ d = _
      simp [Settings.skipAs, Report.withSkip]

/-! ## What rows save -/

theorem acquire_savesIn {area : Location → Prop} (ho : ".." ∉ output)
    (hd : Script.Destination.Safe d) (harea : area (place output d)) (source : Source) :
    Follows env (SavesIn area) (acquire settings ((Location.path output).child d) source d) := by
  have hchained := SavesIn.chained area
  rw [acquire, child_path hd]
  exact .bind hchained (fetch_savesIn (not_mem_place ho hd) harea settings source) fun _ =>
    .bind hchained (.modify fun _ => .of_store rfl) fun _ => .modify fun _ => .of_store rfl

/-- A row saves nothing but the responses of the subject. -/
theorem row_savesIn {area : Location → Prop} (hsubject : settings.subject = some subject)
    (ho : ".." ∉ output) (harea : area (place output (Verdict.responsesOf subject)))
    {directive : Directive} (hlater : directive.IsLater) :
    Follows env (SavesIn area) (row settings (Location.path output) directive) := by
  cases hwants : settings.wants subject directive.action with
  | false => exact fun s => .of_store (row_of_unwanted hsubject _ hwants env s).store
  | true =>
      obtain ⟨source, haction, hwanted⟩ := Settings.wants_iff.mp hwants
      rw [Directive.IsLater, haction] at hlater
      simp only [row, haction, save_of_wants hsubject hwanted]
      exact acquire_savesIn ho hlater harea source

theorem rows_savesIn {area : Location → Prop} (hsubject : settings.subject = some subject)
    (ho : ".." ∉ output) (harea : area (place output (Verdict.responsesOf subject))) :
    ∀ {directives : List Directive}, (∀ directive ∈ directives, directive.IsLater) →
      Follows env (SavesIn area) (rows settings (Location.path output) directives)
  | [], _ => .pure (SavesIn.chained area) ()
  | directive :: rest, hlater => by
      obtain ⟨hfirst, hrest⟩ := List.forall_mem_cons.mp hlater
      exact .bind (SavesIn.chained area) (row_savesIn hsubject ho harea hfirst) fun _ =>
        rows_savesIn hsubject ho harea hrest

/-! ## What rows skip -/

theorem acquire_skips (file : Path) (source : Source) (d : String) :
    Keeps State.skips (acquire settings file source d) := fun env =>
  .bind (.part _) (fun s => congrArg (fun accounts => accounts.report.skips.toList)
    ((Act.Busy.accounts env).follows_fetch settings source file s)) fun _ =>
    .bind (.part _) (.modify fun _ => rfl) fun _ => .modify fun _ => rfl

/-- A row skips what it passes over. -/
theorem row_skips (hsubject : settings.subject = some subject) (p : Path) (directive : Directive)
    (env : Environment) (s : State) : ((row settings p directive).final env s).skips =
      s.skips ++ [directive.action].filterMap (settings.passedOver subject) := by
  cases hwants : settings.wants subject directive.action with
  | false =>
      rw [State.skips, (row_of_unwanted hsubject p hwants env s).report]
      simp [State.skips]
  | true =>
      obtain ⟨source, haction, hwanted⟩ := Settings.wants_iff.mp hwants
      simp only [row, haction, save_of_wants hsubject hwanted]
      rw [acquire_skips _ source _ env s, List.filterMap, Settings.passedOver,
        if_pos (haction ▸ hwants)]
      exact (List.append_nil _).symm

/-- Rows skip what they pass over, up to the one that fails. -/
theorem rows_skips (hsubject : settings.subject = some subject) (p : Path) (env : Environment)
    (directives : List Directive) (s : State) : ((rows settings p directives).final env s).skips =
      s.skips ++ ((visits settings p env directives s).map fun v => v.directive.action).filterMap
        (settings.passedOver subject) := by
  induction directives generalizing s with
  | nil => exact (List.append_nil _).symm
  | cons directive rest ih =>
      have hfirst := row_skips hsubject p directive env s
      cases hrow : row settings p directive env s with
      | ok u t =>
          rw [Act.final_of_ok hrow] at hfirst
          rw [rows, Act.final_bind hrow, ih, hfirst, visits_of_ok hrow, List.append_assoc,
            ← List.filterMap_append]
          rfl
      | error fault t =>
          rw [Act.final_of_error hrow] at hfirst
          rw [rows, Act.final_bind_of_error hrow, hfirst, visits_of_error hrow]
          rfl

/-! ## Runs -/

/-- What a run does by itself skips nothing. -/
theorem inward_skips : Act.Inward fun s s' : State => s'.skips = s.skips where
  toChained := .part State.skips
  note _ _ := rfl
  report _ _ _ _ := rfl
  store _ _ := rfl

theorem opening_skips (settings : Settings) (given : Provided) (env : Environment) (s : State)
    (name : String) : ((opening settings given name).final env s).skips = [] := by
  have hrest : Keeps State.skips (do
      Act.note (.options settings)
      let output ← prepare settings name
      recordAll (sessionOf given).events
      return output) := fun _ =>
    .bind (.part _) (inward_skips.follows_note _) fun _ =>
      .bind (.part _) (inward_skips.follows_prepare name) fun _ =>
        .bind (.part _) (fun s => State.skips_of_holdings (keeps_recordAll _ _ s)) fun _ =>
          .pure (.part _) _
  exact Keeps.final_bind fun _ => hrest

/-- A run skips the rows that it comes to and passes over. -/
theorem run_skips (hsubject : settings.subject = some subject) (line : Option Int) (name : String)
    (rest : List Directive) :
    ((run settings given (⟨line, .archiveName name⟩ :: rest)).final env s).skips =
      ((reached settings given env s (⟨line, .archiveName name⟩ :: rest)).map
        fun v => v.directive.action).filterMap (settings.passedOver subject) := by
  have hopened := opening_skips settings given env s name
  rw [run_phases, reached]
  cases hopen : opening settings given name env s with
  | error fault t =>
      rw [Act.final_of_error hopen] at hopened
      rw [Act.final_bind_of_error hopen, hopened]
      rfl
  | ok output t =>
      rw [Act.final_of_ok hopen] at hopened
      rw [Act.final_bind hopen, Keeps.final_bind fun _ _ => inward_skips.follows_complete output,
        final_draining given output State.skips_of_holdings inward_skips.toReporting,
        rows_skips hsubject, hopened]
      rfl

/-- A run saves the responses of the subject and the archive, and nothing else. -/
theorem run_savesIn (given : Provided) (hsubject : settings.subject = some subject)
    (hs : s.store.Tree) (hhere : env.here.Plain) (line : Option Int) {name : String}
    {rest : List Directive} (hplain : output.Plain)
    (hout : output = (settings.outputRoot.child name).location env.here)
    (hlater : ∀ directive ∈ rest, directive.IsLater) :
    s.store.SavesIn (fun l => l = place output (Verdict.responsesOf subject) ∨ l = output.archive)
      ((run settings given (⟨line, .archiveName name⟩ :: rest)).final env s).store := by
  have hgrows := opening_grows given hs hhere.not_mem hout
  cases hopen : opening settings given name env s with
  | error fault t =>
      rw [run_phases, Act.final_bind_of_error hopen, ← Act.final_of_error hopen]
      exact hgrows.savesIn
  | ok p t =>
      rw [Act.final_of_ok hopen] at hgrows
      obtain ⟨rfl, _⟩ := opening_ok hs hhere.not_mem hout hopen
      have hrows : Follows env (SavesIn fun l =>
          l = place output (Verdict.responsesOf subject) ∨ l = output.archive)
          (rows settings (Location.path output) rest) :=
        rows_savesIn hsubject hplain.not_mem (Or.inl rfl) hlater
      have hsaved := hgrows.savesIn.trans (hrows t hgrows.tree)
      rcases run_final line rest hopen with hsame | ⟨content, hwrite⟩
      · exact hsame ▸ hsaved
      · rw [Packing.archivePath_eq hplain.not_mem_last] at hwrite
        exact hsaved.trans (Store.write_savesIn hsaved.tree
          (Location.not_mem_archive hplain.not_mem) (Or.inr rfl) hwrite)

/-- At a visit a row fetches if it is wanted, and makes no calls if it is not. -/
theorem Visit.course (hsubject : settings.subject = some subject) (v : Visit)
    (h : (row settings p v.directive).final env v.before = v.after) :
    (settings.wants subject v.directive.action = true → ∃ source,
      v.directive.action = .save source (Verdict.responsesOf subject) ∧
        (acquire settings (p.child (Verdict.responsesOf subject)) source
          (Verdict.responsesOf subject)).final env v.before = v.after) ∧
    (settings.wants subject v.directive.action = false → v.events = []) := by
  constructor
  · intro hwants
    obtain ⟨source, haction, hwanted⟩ := Settings.wants_iff.mp hwants
    simp only [row, haction, save_of_wants hsubject hwanted] at h
    exact ⟨source, haction, h⟩
  · intro hwants
    have htrace := (row_of_unwanted hsubject p hwants env v.before).trace
    rw [h, List.append_nil] at htrace
    rw [Visit.events, htrace, List.drop_length]

/-- However a run for a subject ends, the files other than the responses of that subject
and the archive are those that were there, and no directory is removed.  The run calls
for nothing but upkeep and what its rows call for.  Each row that it comes to and that
saves these responses fetches them, whatever lies at their place, unless its page is left
out.  All other rows make no calls, and those of them that save are skipped: as a page
that is left out, or as not of interest. -/
theorem run_subject (given : Provided) {text root : String}
    (hparse : Script.parse text = .ok directives) (hsubject : settings.subject = some subject)
    (hs : s.store.Tree) (hhere : env.here.Plain) (hroot : settings.outputRoot = Path.ofString root)
    (hout : output = outputOf settings env directives)
    (hend : (run settings given directives).final env s = s') :
    (∀ l c, l ≠ place output (Verdict.responsesOf subject) → l ≠ output.archive →
      (s'.store.get? l = some (.file c) ↔ s.store.get? l = some (.file c))) ∧
    (∀ l, s.store.get? l = some .directory → s'.store.get? l = some .directory) ∧
    (∃ opened closed, Spans s.trace s'.trace (reached settings given env s directives)
      opened closed) ∧
    (∀ v ∈ reached settings given env s directives,
      (settings.wants subject v.directive.action = true → ∃ source,
        v.directive.action = .save source (Verdict.responsesOf subject) ∧
          (acquire settings ((Location.path output).child (Verdict.responsesOf subject)) source
            (Verdict.responsesOf subject)).final env v.before = v.after) ∧
      (settings.wants subject v.directive.action = false → v.events = [])) ∧
    s'.report.skips.toList =
      ((reached settings given env s directives).map fun v => v.directive.action).filterMap
        (settings.passedOver subject) := by
  obtain ⟨line, name, rest, rfl, hname, hlater⟩ := Script.parse_shape hparse
  have hplain : output.Plain := by
    rw [hout, outputOf, hroot]
    exact plain_child hhere hname
  have hout' : output = (settings.outputRoot.child name).location env.here := hout
  have hsaved := run_savesIn given hsubject hs hhere line hplain hout' hlater
  rw [hend] at hsaved
  refine ⟨fun l c hl harchive => hsaved.file_iff (not_or.mpr ⟨hl, harchive⟩), hsaved.directories,
    hend ▸ run_trace settings given env s _, fun v hv => ?_,
    hend ▸ run_skips hsubject line name rest⟩
  obtain ⟨earlier, later, hparts⟩ := List.append_of_mem hv
  obtain ⟨p, t, hopen, hvisits⟩ := reached_split hparts
  obtain ⟨rfl, _⟩ := opening_ok hs hhere.not_mem hout' hopen
  exact v.course hsubject (visits_split hvisits).2.1

/-! ## Answers that are asked for again -/

/-- A script with the answers of a subject, an essay beside them and a page of them. -/
def onceMoreText : String :=
  "zip-name q\nsave-text x as a/essay.txt\nsave-file u as a/responses.pdf\n" ++
    "save-pdf p as a/responses.pdf"

def onceMoreScript : List Directive :=
  [⟨some 1, .archiveName "q"⟩, ⟨some 2, .save (.text "x") "a/essay.txt"⟩,
    ⟨some 3, .save (.file "u") "a/responses.pdf"⟩, ⟨some 4, .save (.page "p") "a/responses.pdf"⟩]

/-- The answers are asked for again, whatever their size, and pages are not. -/
def answersNoPages : Settings := { subject := some "a", skipPages := true, threshold := some 5 }

/-- The answers that were there are fetched again though they are smaller than is asked
for, and nothing beside them is cleared or fetched. -/
theorem answers_onceMore :
    ∃ s', (run answersNoPages {} onceMoreScript).final (echo none) olderAnswers = s' ∧
      s'.store.get? ["output", "q", "a", "responses.pdf"] = some (.file (.plain (echoBody "u"))) ∧
      s'.store.get? ["note.txt"] = some (.file (.plain [110])) ∧
      (∀ c, s'.store.get? ["output", "q", "a", "essay.txt"] ≠ some (.file c)) ∧
      s'.report.skips.toList =
        [⟨"not_of_interest", "a/essay.txt"⟩, ⟨"pdf_disabled", "a/responses.pdf"⟩] := by
  have hparse : Script.parse onceMoreText = .ok onceMoreScript :=
    Script.parse_of_toOption (by decide +kernel)
  obtain ⟨hfiles, _, _, _, hskips⟩ := run_subject {} hparse rfl
    (by decide +kernel : olderAnswers.store.Tree) (by decide +kernel : (echo none).here.Plain)
    (by decide +kernel : answersNoPages.outputRoot = Path.ofString "output")
    (by decide +kernel : ["output", "q"] = outputOf answersNoPages (echo none) onceMoreScript)
    (rfl : (run answersNoPages {} onceMoreScript).final (echo none) olderAnswers = _)
  refine ⟨_, rfl, by decide +kernel, ?_, fun c hc => ?_, ?_⟩
  · rw [hfiles _ _ (by decide +kernel) (by decide +kernel)]
    decide +kernel
  · rw [hfiles _ _ (by decide +kernel) (by decide +kernel)] at hc
    exact absurd hc (by rw [show olderAnswers.store.get? _ = none by decide +kernel]; exact nofun)
  · rw [hskips]
    decide +kernel

end Run

end Dossier
