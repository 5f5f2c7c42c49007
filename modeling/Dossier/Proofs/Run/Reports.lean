import Dossier.Proofs.Run.Lapses

/-!
# The reports that a run notes

A run notes its report when it is over.  A run that completes notes the report that it
gives, and nothing it does before notes any.  A run with a row that fails with a reported
fault notes that it failed, whatever fails afterwards as the browser is closed.

A run can also fail once all its rows are carried out: the browser does not close, or the
archive cannot be written.  Then it notes no report, and so it does if the fault of its row
is not reported (`run_reports`).
-/

namespace Dossier

open Script (Directive Source)
open Act (Follows Keeps)

/-- The reports that were noted. -/
def State.reports (s : State) : List Report := s.notes.filterMap Note.report?

variable {settings : Settings} {given : Provided} {env : Environment} {s s' t : State} {p : Path}
  {directives : List Directive} {fault : Fault} {report : Report}

/-! ## What notes no report -/

theorem Act.Busy.reports (env : Environment) :
    Act.Busy env fun s s' : State => s'.reports = s.reports where
  toChained := .part State.reports
  note s n _ h := by simp [State.reports, h]
  record _ _ := rfl
  reply _ _ := rfl
  react _ _ := rfl
  hold _ _ := rfl
  store _ _ := rfl

theorem State.tacit_reports : Act.Tacit fun s s' : State => s'.reports = s.reports where
  toChained := .part State.reports
  tell s n h := by simp [State.reports, h]
  store _ _ := rfl

theorem State.tacit_report : Act.Tacit fun s s' : State => s'.report = s.report where
  toChained := .part State.report
  tell _ _ _ := rfl
  store _ _ := rfl

namespace Run

theorem reports_save (settings : Settings) (p : Path) (source : Source) (d : String) :
    Keeps State.reports (save settings p source d) := by
  intro env
  have hskip : ∀ category,
      Follows env (fun s s' => s'.reports = s.reports) (skip category d) :=
    fun _ => .modify fun _ => rfl
  cases hout : settings.leavesOut source with
  | true =>
      rw [save_of_leftOut hout]
      exact .bind (.part _) (State.tacit_reports.follows_tell rfl) fun _ => hskip _
  | false =>
      rw [save_of_wanted hout]
      refine .bind (.part _) (State.tacit_reports.follows_reach p d) fun decision =>
        .ite ?_ (hskip _)
      exact .bind (.part _) (.ite (.modify fun _ => rfl) (.pure (.part _) ())) fun _ =>
        .bind (.part _) ((Act.Busy.reports env).follows_fetch settings source _) fun _ =>
          .bind (.part _) (.modify fun _ => rfl) fun _ => State.tacit_reports.follows_tell rfl

/-- A row notes no report. -/
theorem reports_row (settings : Settings) (p : Path) (directive : Directive) :
    Keeps State.reports (row settings p directive) := by
  intro env
  obtain ⟨line, action⟩ := directive
  cases action with
  | archiveName name => exact .throw (.part _) _
  | cookies blob =>
      exact .bind (.part _) (.ofExcept (.part _) _ _) fun _ =>
        .bind (.part _) (.modify fun _ => rfl) fun _ => State.tacit_reports.follows_tell rfl
  | save source d => exact reports_save settings p source d env

theorem reports_rows (settings : Settings) (p : Path) :
    ∀ directives : List Directive, Keeps State.reports (rows settings p directives)
  | [], _ => .pure (.part _) ()
  | directive :: rest, env => .bind (.part _) (reports_row settings p directive env) fun _ =>
      reports_rows settings p rest env

theorem reports_opening (name : String) :
    Keeps State.reports (opening settings given name) := fun env =>
  .bind (.part _) (.modify fun _ => rfl) fun _ =>
    .bind (.part _) (State.tacit_reports.follows_tell rfl) fun _ =>
      .bind (.part _) (State.tacit_reports.follows_prepare name) fun _ =>
        .bind (.part _) (fun s => by rw [Act.final_of_ok (recordAll_eq env _ s)]; rfl) fun _ =>
          .pure (.part _) _

theorem Opened.reports (h : Opened settings given env s directives p t) :
    t.reports = s.reports := by
  obtain ⟨_, name, _, _, hopen⟩ := h
  exact (reports_opening name).ok hopen

/-! ## The end of a run -/

/-- A run that fails in a row notes that it failed, if the fault is reported. -/
theorem reports_fail (fault : Fault) (env : Environment) (s : State) :
    ((fail fault).final env s).reports = s.reports ++
      if fault.isReported then [s.report.conclude "failed" s.clock] else [] := by
  cases hfault : fault.isReported with
  | true =>
      have hfail : fail fault env s = .error fault { s with
          report := s.report.conclude "failed" s.clock
          notes := s.notes ++ [.account (s.report.conclude "failed" s.clock)] } := by
        rw [fail, hfault]
        rfl
      rw [Act.final_of_error hfail]
      simp [State.reports, Note.report?]
  | false =>
      rw [Act.final_of_error (fail_of_unreported hfault)]
      simp

/-- Closing what a run opened notes no report. -/
theorem reports_draining (given : Provided) (p : Path) (directives : List Directive) :
    ((draining settings given p directives).final env s).reports =
      (((rows settings p directives).rescue fail).final env s).reports :=
  closed_draining (fun env => (Act.Busy.reports env).follows_close)
    (fun env s => by rw [Act.final_of_ok (recordAll_eq env _ s)]; rfl) p

theorem reports_drained (h : draining settings given p directives env s = .ok () s') :
    s'.reports = s.reports := by
  obtain ⟨t, hrows⟩ := rows_of_draining h
  have hcarried : ((rows settings p directives).rescue fail) env s = .ok () t :=
    Act.rescue_ok.mpr (Or.inl hrows)
  rw [← Act.final_of_ok h, reports_draining, Act.final_of_ok hcarried,
    (reports_rows settings p directives).ok hrows]

/-- A run that fails to complete fails as it packs its output directory, or cannot tell how
long it took. -/
theorem complete_stops (h : complete p env s = .error fault s') :
    Packing.pack p env s = .error fault s' ∨
      ∃ archive t, Packing.pack p env s = .ok archive t ∧
        s' = { t with report := closingReport t.report archive t.clock } := by
  rw [complete_eq] at h
  cases hpack : Packing.pack p env s with
  | error f t =>
      rw [hpack] at h
      cases h
      exact Or.inl rfl
  | ok archive t =>
      rw [hpack] at h
      dsimp only at h
      split at h
      · cases h
        exact Or.inr ⟨archive, t, rfl, rfl⟩
      · cases h

/-- A run that completes notes the report that it gives. -/
theorem complete_reports (h : complete p env s = .ok report s') :
    report.status = "completed" ∧ s'.reports = s.reports ++ [report] := by
  obtain ⟨archive, t, seconds, hpack, rfl, rfl⟩ := complete_steps h
  have hkept : t.reports = s.reports := (State.tacit_reports.follows_pack p).ok hpack
  refine ⟨rfl, ?_⟩
  rw [← hkept, State.reports, List.append_assoc, List.filterMap_append]
  rfl

/-- Completing a run adds to its report only that it is over. -/
theorem complete_report (h : complete p env s = .ok report s') :
    ∃ archive now, report = closingReport s.report archive now := by
  obtain ⟨archive, t, _, hpack, rfl, _⟩ := complete_steps h
  have hkept : t.report = s.report := (State.tacit_report.follows_pack p).ok hpack
  exact ⟨archive, t.clock, by rw [hkept]⟩

/-- A run that fails to complete notes no report. -/
theorem complete_unreported (h : complete p env s = .error fault s') :
    s'.reports = s.reports := by
  rcases complete_stops h with hpack | ⟨archive, t, hpack, rfl⟩
  · exact (State.tacit_reports.follows_pack p).error hpack
  · have hkept : t.reports = s.reports := (State.tacit_reports.follows_pack p).ok hpack
    exact hkept

/-! ## Runs -/

/-- A run that has opened fails at a row with a fault if its rows break off with it. -/
theorem Opened.failsAt_iff_rows (ho : Opened settings given env s directives p t) :
    (∃ directive, FailsAt settings given env s directives directive fault) ↔
      ∃ u, rows settings p directives.tail env t = .error fault u := by
  simp only [ho.failsAt_iff]
  constructor
  · rintro ⟨directive, before, after, u, u', hsplit, hbefore, hrow⟩
    exact ⟨u', hsplit ▸ rows_of_error hbefore hrow⟩
  · rintro ⟨u', hrows⟩
    obtain ⟨before, directive, after, u, hsplit, hbefore, hrow⟩ := rows_error hrows
    exact ⟨directive, before, after, u, u', hsplit, hbefore, hrow⟩

/-- A run whose draining fails has noted that it failed, if its rows broke off with a reported
fault. -/
theorem draining_reports (h : draining settings given p directives env s = .error fault s') :
    s'.reports = s.reports ++ match rows settings p directives env s with
      | .ok _ _ => []
      | .error cause u =>
        if cause.isReported then [u.report.conclude "failed" u.clock] else [] := by
  have hkept := reports_rows settings p directives env
  have hlast : s'.reports = (((rows settings p directives).rescue fail).final env s).reports := by
    rw [← reports_draining given, Act.final_of_error h]
  cases hrows : rows settings p directives env s with
  | ok _ u =>
      have hcarried : ((rows settings p directives).rescue fail).final env s = u :=
        Act.final_of_ok (Act.rescue_ok.mpr (Or.inl hrows))
      rw [hlast, hcarried, hkept.ok hrows, List.append_nil]
  | error cause u =>
      have hcarried : ((rows settings p directives).rescue fail).final env s =
          (fail cause).final env u := by
        rw [Act.final, Act.rescue, hrows]
        rfl
      rw [hlast, hcarried, reports_fail, hkept.error hrows]

/-- A run that completes notes one report: the one that it gives, and it says so.  If a run
that has opened fails, it notes one report that says so if a row of it failed with a reported
fault, and else none. -/
theorem run_reports (settings : Settings) (given : Provided) (env : Environment) (s : State)
    (directives : List Directive) :
    (∀ report s', run settings given directives env s = .ok report s' →
      report.status = "completed" ∧ s'.reports = s.reports ++ [report]) ∧
    ∀ p t fault s', Opened settings given env s directives p t →
      run settings given directives env s = .error fault s' →
        ((∃ directive cause, FailsAt settings given env s directives directive cause ∧
            cause.isReported = true) →
          ∃ report : Report, report.status = "failed" ∧ s'.reports = s.reports ++ [report]) ∧
        ((∀ directive cause, FailsAt settings given env s directives directive cause →
            cause.isReported = false) →
          s'.reports = s.reports) := by
  constructor
  · intro report s' h
    obtain ⟨p, t, u, hopened, hdrain, hcomplete⟩ := run_ok h
    obtain ⟨hstatus, hreports⟩ := complete_reports hcomplete
    exact ⟨hstatus, by rw [hreports, reports_drained hdrain, hopened.reports]⟩
  · intro p t fault s' hopened h
    rw [← hopened.reports]
    have hfails : ∀ cause, (∃ directive, FailsAt settings given env s directives directive cause) ↔
        ∃ u, rows settings p directives.tail env t = .error cause u :=
      fun _ => hopened.failsAt_iff_rows
    rcases hopened.run_error h with hdrain | ⟨u, hdrain, hcomplete⟩
    · have hreports := draining_reports hdrain
      cases hrows : rows settings p directives.tail env t with
      | ok _ u =>
          -- it is closing that fails
          rw [hrows, List.append_nil] at hreports
          refine ⟨?_, fun _ => hreports⟩
          rintro ⟨directive, cause, hcause, _⟩
          obtain ⟨_, hbroken⟩ := (hfails cause).mp ⟨directive, hcause⟩
          cases hrows.symm.trans hbroken
      | error cause u =>
          rw [hrows] at hreports
          constructor
          · rintro ⟨directive, cause', hcause, hreported⟩
            obtain ⟨_, hbroken⟩ := (hfails cause').mp ⟨directive, hcause⟩
            cases hrows.symm.trans hbroken
            exact ⟨u.report.conclude "failed" u.clock, rfl, by simpa [hreported] using hreports⟩
          · intro hnone
            obtain ⟨directive, hcause⟩ := (hfails cause).mpr ⟨u, hrows⟩
            have hunreported := hnone directive cause hcause
            simpa [hunreported] using hreports
    · obtain ⟨v, hrows⟩ := rows_of_draining hdrain
      have hreports : s'.reports = t.reports :=
        (complete_unreported hcomplete).trans (reports_drained hdrain)
      refine ⟨?_, fun _ => hreports⟩
      rintro ⟨directive, cause, hcause, _⟩
      obtain ⟨_, hbroken⟩ := (hfails cause).mp ⟨directive, hcause⟩
      cases hrows.symm.trans hbroken

/-! ## A browser that fails after a row, or at last -/

/-- One URL is not reached, and the browser does not close. -/
def faltering : Environment :=
  { echo (some "v") with
    react := fun trace =>
      match trace.getLast? with
      | some .browserClosed => { failure := some "browser" }
      | _ => (echo none).react trace }

/-- A run that completes says so.  A run whose last row fails notes that it failed, although
the fault that is seen is that the browser does not close. -/
theorem twice_reports :
    (∃ report s', run {} {} twiceScript (echo none) {} = .ok report s' ∧
      report.status = "completed" ∧ s'.reports = [report]) ∧
    ∃ s' report, run {} {} twiceScript faltering {} = .error (.render (.shutdown "browser")) s' ∧
      report.status = "failed" ∧ s'.reports = [report] := by
  constructor
  · obtain ⟨report, s', hrun, _⟩ := Act.exists_of_endsIn
      (by decide +kernel : (run {} {} twiceScript).EndsIn (echo none) {} (fun _ _ => true) = true)
    exact ⟨report, s', hrun, (run_reports {} {} (echo none) {} twiceScript).1 report s' hrun⟩
  · obtain ⟨p, t, hopen, _⟩ := Act.exists_of_endsIn
      (by decide +kernel : (opening {} {} "q").EndsIn faltering {} (fun _ _ => true) = true)
    have hopened : Opened {} {} faltering {} twiceScript p t := ⟨some 1, "q", _, rfl, hopen⟩
    obtain ⟨cause, u, hbroken, hreported⟩ := Act.exists_of_breaksIn
      (by decide +kernel : (do
          let p ← opening {} {} "q"
          rows {} p twiceScript.tail).BreaksIn faltering {}
            (fun cause _ => cause.isReported) = true)
    rw [Act.bind_of_ok hopen] at hbroken
    obtain ⟨directive, hfails⟩ := hopened.failsAt_iff_rows.mpr ⟨u, hbroken⟩
    obtain ⟨fault, s', hrun, hfault⟩ := Act.exists_of_breaksIn (by decide +kernel :
      (run {} {} twiceScript).BreaksIn faltering {} (fun fault _ =>
        fault == .render (.shutdown "browser")) = true)
    obtain rfl := eq_of_beq hfault
    obtain ⟨report, hstatus, hreports⟩ := ((run_reports {} {} faltering {} twiceScript).2 p t _ s'
      hopened hrun).1 ⟨directive, cause, hfails, hreported⟩
    exact ⟨s', report, hrun, hstatus, hreports⟩

/-- A directory lies where an archive is to be. -/
def obstructed : State :=
  { store := ⟨[(["output"], .directory), (["output", "q.zip"], .directory)]⟩ }

def oneText : List Directive := [⟨some 1, .archiveName "q"⟩, ⟨some 2, .save (.text "a") "a.txt"⟩]

/-- A run fails and does not say so, if a directory lies where its archive is to be. -/
theorem not_all_failures_reported :
    ¬ ∀ (settings : Settings) (given : Provided) (env : Environment) (s s' t : State)
      (directives : List Directive) (p : Path) (fault : Fault),
      Opened settings given env s directives p t →
      run settings given directives env s = .error fault s' → fault.isReported = true →
        ∃ report : Report, report.status = "failed" ∧ s'.reports = s.reports ++ [report] := by
  intro hall
  obtain ⟨p, t, hopen, _⟩ := Act.exists_of_endsIn (by decide +kernel :
    (opening {} {} "q").EndsIn {} obstructed (fun _ _ => true) = true)
  have hopened : Opened {} {} {} obstructed oneText p t := ⟨some 1, "q", _, rfl, hopen⟩
  obtain ⟨fault, s', hrun, hcheck⟩ := Act.exists_of_breaksIn (by decide +kernel :
    (run {} {} oneText).BreaksIn {} obstructed (fun fault s' =>
      fault.isReported && s'.reports.isEmpty) = true)
  simp only [Bool.and_eq_true, List.isEmpty_iff] at hcheck
  obtain ⟨report, _, hreports⟩ := hall _ _ _ _ _ _ _ _ _ hopened hrun hcheck.1
  rw [hcheck.2] at hreports
  cases hreports

end Run

end Dossier
