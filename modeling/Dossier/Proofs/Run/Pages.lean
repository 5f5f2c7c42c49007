import Dossier.Proofs.Act.Alike
import Dossier.Proofs.Run.Subject

/-!
# Runs without pages

A run that leaves out pages does with its script what it would do with the script
without the rows of pages: the two runs end alike, with the same store, the same calls
and the same report, save that the first reports the pages that it left out
(`run_withoutPages`).  Neither makes a call on a browser.

A row of a page takes a note and accounts for what it skips, and does nothing else
(`row_of_page`).  So it can be passed over where two runs are compared row by row
(`rows_alike`).
-/

namespace Dossier

open Script (Directive Source Action)
open Act (Alike Chained EndAlike Follows Keeps)

/-! ## Leaving out pages -/

/-- A directive that saves a page. -/
def Script.Directive.isPage (directive : Directive) : Bool :=
  match directive.action with
  | .save (.page _) _ => true
  | _ => false

/-- Directives without those that save a page. -/
def Script.withoutPages (directives : List Directive) : List Directive :=
  directives.filter fun directive => !directive.isPage

/-- A report without the pages that it tells were left out. -/
def Report.withoutPages (report : Report) : Report :=
  { report with skips := report.skips.filter fun skip => skip.category != "pdf_disabled" }

/-- A call on a browser or its driver. -/
def Event.isOfBrowser : Event → Bool
  | .sessionOpened | .mounted .. | .sessionClosed | .requested .. | .responseClosed _ => false
  | _ => true

variable {settings : Settings} {given : Provided} {env : Environment} {s s' t : State} {p : Path}
  {directives : List Directive}

namespace Report

/-- The second report is the first one without its pages. -/
def LacksPages (r r' : Report) : Prop := r' = r.withoutPages

theorem LacksPages.withFetch {r r' : Report} (h : LacksPages r r') (item : String) (size : Int) :
    LacksPages (r.withFetch item size) (r'.withFetch item size) := by
  obtain rfl := h
  rfl

theorem LacksPages.withRefetch {r r' : Report} (h : LacksPages r r') (item : String) :
    LacksPages (r.withRefetch item) (r'.withRefetch item) := by
  obtain rfl := h
  rfl

theorem LacksPages.conclude {r r' : Report} (h : LacksPages r r') (status : String) (now : Float) :
    LacksPages (r.conclude status now) (r'.conclude status now) := by
  obtain rfl := h
  rfl

/-- A page that is skipped is left out again. -/
theorem LacksPages.page {r r' : Report} (h : LacksPages r r') (item : String) :
    LacksPages (r.withSkip "pdf_disabled" item) r' := by
  obtain rfl := h
  simp [LacksPages, withoutPages, withSkip]

/-- What is skipped for a verdict stays. -/
theorem LacksPages.verdict {r r' : Report} (h : LacksPages r r') (verdict : Verdict)
    (item : String) :
    LacksPages (r.withSkip verdict.name item) (r'.withSkip verdict.name item) := by
  obtain rfl := h
  have hname : (verdict.name != "pdf_disabled") = true := by cases verdict <;> decide
  simp [LacksPages, withoutPages, withSkip, hname]

end Report

open Report (LacksPages)

namespace Run

/-! ## Rows -/

/-- A row of a page that is left out is not seen, but for its account. -/
theorem row_of_page (hskip : settings.skipPages = true) {directive : Directive}
    (hpage : directive.isPage = true) (hst : s.Matches LacksPages t) :
    ∃ u s', row settings p directive env s = .ok u s' ∧ s'.Matches LacksPages t := by
  obtain ⟨line, action⟩ := directive
  match action, hpage with
  | .save (.page url) d, _ =>
    have hout : settings.leavesOut (.page url) = true := hskip
    refine ⟨(), { s with
      notes := s.notes ++ [.pagesDisabled d], report := s.report.withSkip "pdf_disabled" d }, ?_,
        { hst with report := hst.report.page d }⟩
    show save settings p (.page url) d env s = _
    rw [save_of_leftOut hout]
    rfl

theorem alike_acquire {source : Source} (hsource : ∀ url, source ≠ .page url) (file : Path)
    (d : String) : Alike env LacksPages (· = ·) (acquire settings file source d)
      (acquire settings file source d) := by
  have hfetch : Alike env LacksPages (· = ·) (fetch settings source file)
      (fetch settings source file) :=
    Alike.get.bind fun s t h => by
      rw [h.cookies]
      cases source with
      | file url => exact Saving.alike_file url _ _ _
      | page url => exact absurd rfl (hsource url)
      | text content => exact Saving.alike_text content _
  exact hfetch.bind_eq fun size =>
    (Act.alike_account fun _ _ h => h.withFetch d size).bind_eq fun _ => Act.alike_note _ _

theorem alike_saveIfWanted {source : Source} (hsource : ∀ url, source ≠ .page url) (d : String) :
    Alike env LacksPages (· = ·) (saveIfWanted settings p source d)
      (saveIfWanted settings p source d) := by
  refine (Verdict.alike_reach p d).bind_eq fun decision => .ite ?_
    (Act.alike_account fun _ _ h => h.verdict decision.verdict d)
  exact (Alike.ite (Act.alike_account fun _ _ h => h.withRefetch d) (.pure rfl)).bind_eq fun _ =>
    alike_acquire hsource decision.file d

/-- Every other row runs like itself. -/
theorem row_alike {directive : Directive} (hpage : directive.isPage = false) :
    Alike env LacksPages (· = ·) (row settings p directive) (row settings p directive) := by
  obtain ⟨line, action⟩ := directive
  cases action with
  | archiveName name => exact .throw _
  | cookies blob =>
      have hset : ∀ cookies : Cookies, Alike env LacksPages (· = ·)
          (modify fun s => { s with cookies := cookies } : Act Unit)
          (modify fun s => { s with cookies := cookies } : Act Unit) :=
        fun _ => .modify fun _ _ h => { h with cookies := rfl }
      exact (Alike.ofExcept _ _).bind_eq fun cookies =>
        (hset cookies).bind_eq fun _ => Act.alike_note _ _
  | save source d =>
      have hsource : ∀ url, source ≠ .page url := by
        rintro url rfl
        cases hpage
      have hwanted : settings.leavesOut source = false := by
        cases source with
        | page url => exact absurd rfl (hsource url)
        | _ => rfl
      show Alike env LacksPages (· = ·) (save settings p source d) (save settings p source d)
      rw [save_of_wanted hwanted]
      exact alike_saveIfWanted hsource d

/-- Rows run like those of them that save no page. -/
theorem rows_alike (hskip : settings.skipPages = true) (p : Path) (env : Environment)
    (directives : List Directive) :
    Alike env LacksPages (· = ·) (rows settings p directives)
      (rows settings p (Script.withoutPages directives)) := by
  induction directives with
  | nil => exact .pure rfl
  | cons directive rest ih =>
      cases hpage : directive.isPage with
      | true =>
          have hrest : Script.withoutPages (directive :: rest) = Script.withoutPages rest := by
            simp [Script.withoutPages, hpage]
          rw [hrest]
          exact Alike.skip (fun _ _ hst => row_of_page hskip hpage hst) fun _ => ih
      | false =>
          have hrest : Script.withoutPages (directive :: rest) =
              directive :: Script.withoutPages rest := by simp [Script.withoutPages, hpage]
          rw [hrest]
          exact (row_alike hpage).bind_eq fun _ => ih

/-! ## The other phases -/

theorem alike_recordAll {Q : Report → Report → Prop} (events : Trace) :
    Alike env Q (· = ·) (recordAll events) (recordAll events) := by
  induction events with
  | nil => exact .pure rfl
  | cons e rest ih => exact (Act.alike_record e).bind_eq fun _ => ih

theorem alike_prepare {Q : Report → Report → Prop} (name : String) :
    Alike env Q (· = ·) (prepare settings name) (prepare settings name) := by
  have hresolve : ∀ q, Alike env Q (· = ·) (resolve q) (resolve q) := fun q =>
    (Disk.alike_checkPath q).bind_eq fun _ => Alike.environment.bind_eq fun env' =>
      Alike.get.bind fun s t h => by
        rw [h.store]
        exact (Alike.ofExcept _ _).bind_eq fun _ => .pure rfl
  exact (hresolve _).bind_eq fun _ =>
    (Disk.alike_during (Disk.alike_changeUntil _ _)).bind_eq fun _ =>
      (Act.alike_note _ _).bind_eq fun _ => .pure rfl

theorem alike_conclude (status : String) :
    Alike env LacksPages (· = ·) (conclude status) (conclude status) :=
  Alike.get.bind fun s t h => by
    rw [h.clock]
    exact Act.alike_account fun _ _ h => h.conclude status _

theorem alike_noteReport : Alike env LacksPages (· = ·) noteReport noteReport :=
  Alike.get.bind fun _ _ _ => Act.alike_note _ _

theorem alike_fail (fault : Fault) :
    Alike env LacksPages (· = ·) (fail fault) (fail fault) := by
  unfold fail
  split
  · exact (alike_conclude _).bind_eq fun _ => alike_noteReport.bind_eq fun _ => .throw fault
  · exact .throw fault

theorem alike_complete (p : Path) :
    Alike env LacksPages LacksPages (complete p) (complete p) := by
  refine (Packing.alike_pack p).bind_eq fun path =>
    (Act.alike_account fun r r' h => ?_).bind_eq fun _ => (alike_conclude _).bind_eq fun _ =>
      Alike.get.bind fun s t h => ?_
  · obtain rfl := h
    rfl
  · have hstart : t.report.startTime = s.report.startTime := by rw [h.report]; rfl
    rw [h.clock, hstart]
    exact (Alike.ofExcept _ _).bind_eq fun _ => (Act.alike_note _ _).bind_eq fun _ =>
      alike_noteReport.bind_eq fun _ => .pure h.report

end Run

/-! ## Calls -/

/-- A run without a browser in its hands still has none, and no call on a browser was
made. -/
def State.Offline (given : Provided) (s s' : State) : Prop :=
  (given.browser = false → s.handles = {}) →
    (given.browser = false → s'.handles = {}) ∧
      ∃ added, s'.trace = s.trace ++ added ∧ ∀ e ∈ added, e.isOfBrowser = false

namespace State.Offline

theorem chained (given : Provided) : Chained (State.Offline given) where
  refl s h := ⟨h, [], (List.append_nil _).symm, nofun⟩
  trans := by
    intro s t u hst htu h
    obtain ⟨ht, added, htrace, hadded⟩ := hst h
    obtain ⟨hu, more, htrace', hmore⟩ := htu ht
    exact ⟨hu, added ++ more, by rw [htrace', htrace, List.append_assoc],
      List.forall_mem_append.mpr ⟨hadded, hmore⟩⟩

theorem of_events (added : Trace) (hadded : ∀ e ∈ added, e.isOfBrowser = false)
    (htrace : s'.trace = s.trace ++ added) (hhandles : s'.handles = s.handles) :
    State.Offline given s s' :=
  fun h => ⟨fun hgiven => hhandles.trans (h hgiven), added, htrace, hadded⟩

theorem of_dealings (h : s'.dealings = s.dealings) : State.Offline given s s' :=
  of_events [] nofun ((State.trace_of_dealings h).trans (List.append_nil _).symm)
    (congrArg Dealings.handles h)

end State.Offline

open State (Offline)

theorem Act.Keeps.offline {α : Type} {act : Act α} (h : Keeps State.dealings act) :
    Follows env (Offline given) act := fun s => .of_dealings (h env s)

namespace Run

theorem offline_record {e : Event} (h : e.isOfBrowser = false) :
    Follows env (Offline given) (Act.record e) :=
  .modify fun _ => .of_events [e] (by simpa using h) rfl rfl

theorem offline_recordAll {events : Trace} (h : ∀ e ∈ events, e.isOfBrowser = false) :
    Follows env (Offline given) (recordAll events) := by
  intro s
  rw [Act.final_of_ok (recordAll_eq env events s)]
  exact .of_events events h rfl rfl

theorem offline_file (url : String) (file : Path) (cookies : Cookies) (timeout : Timeout) :
    Follows env (Offline given) (Saving.file url file cookies timeout) := by
  have hchained := Offline.chained given
  have hrequest : Follows env (Offline given) (Saving.request url cookies timeout) :=
    .bind hchained (fun _ => .of_events
      [.requested url (Saving.cookieHeaders cookies) timeout] (by simp [Event.isOfBrowser]) rfl rfl)
      fun _ => .ofExcept hchained _ _
  exact .bind hchained (Disk.deals_ensureParent file).offline fun _ =>
    .bind hchained hrequest fun response =>
      .andAlways hchained (Saving.deals_receive url file response).offline (offline_record rfl)

/-- A row makes no call on a browser if pages are left out. -/
theorem row_offline (hskip : settings.skipPages = true) (p : Path) (directive : Directive) :
    Follows env (Offline given) (row settings p directive) := by
  have hchained := Offline.chained given
  obtain ⟨line, action⟩ := directive
  cases action with
  | archiveName name => exact .throw hchained _
  | cookies blob =>
      exact .bind hchained (.ofExcept hchained _ _) fun _ =>
        .bind hchained (.modify fun _ =>
          .of_events [] (List.forall_mem_nil _) (List.append_nil _).symm rfl) fun _ =>
          .modify fun _ => .of_dealings rfl
  | save source d =>
      show Follows env (Offline given) (save settings p source d)
      cases hout : settings.leavesOut source with
      | true =>
          rw [save_of_leftOut hout]
          exact .bind hchained (.modify fun _ => .of_dealings rfl) fun _ => (deals_skip _ d).offline
      | false =>
          have hfetch : ∀ file, Follows env (Offline given) (fetch settings source file) := by
            refine fun file => .bind hchained (.get hchained) fun s => ?_
            cases source with
            | file url => exact offline_file url _ _ _
            | page url => exact absurd (hout.symm.trans hskip) nofun
            | text content => exact (Saving.deals_text content _).offline
          rw [save_of_wanted hout]
          exact .bind hchained (Verdict.deals_reach settings p d).offline fun decision =>
            .ite (.bind hchained (deals_announce decision.verdict d).offline fun _ =>
              .bind hchained (hfetch _) fun _ => .bind hchained (.modify fun _ => .of_dealings rfl)
                fun _ => .modify fun _ => .of_dealings rfl) (deals_skip _ d).offline

theorem rows_offline (hskip : settings.skipPages = true) (p : Path) :
    ∀ directives : List Directive, Follows env (Offline given) (rows settings p directives)
  | [] => .pure (Offline.chained given) ()
  | directive :: rest => .bind (Offline.chained given) (row_offline hskip p directive) fun _ =>
      rows_offline hskip p rest

/-- A browser that is not held is not closed. -/
theorem offline_close (h : given.browser = false) :
    Follows env (Offline given) Browser.close := by
  intro s hs
  rw [Act.final_of_ok (Browser.close_of_unheld (hs h))]
  exact (Offline.chained given).refl s hs

/-- A run makes no call on a browser if pages are left out. -/
theorem run_offline (hskip : settings.skipPages = true) (directives : List Directive) :
    Follows env (Offline given) (run settings given directives) := by
  have hchained := Offline.chained given
  have hsession : ∀ e ∈ (sessionOf given).events ++ (sessionOf given).connector.close.events,
      e.isOfBrowser = false := by
    rw [sessionOf]
    split <;> decide
  obtain ⟨hopened, hclosed⟩ := List.forall_mem_append.mp hsession
  have hclose : Follows env (Offline given) (if given.browser then pure () else Browser.close) := by
    cases hgiven : given.browser with
    | true => exact .pure hchained ()
    | false => exact offline_close hgiven
  have hdrain : ∀ p rest, Follows env (Offline given) (draining settings given p rest) :=
    fun p rest => .andAlways hchained (.andAlways hchained
      (.rescue hchained (rows_offline hskip p rest) fun fault =>
        Act.Keeps.offline fun _ => State.inward_dealings.follows_fail fault) hclose)
      (offline_recordAll hclosed)
  cases directives with
  | nil => exact .throw hchained _
  | cons first rest =>
      obtain ⟨line, action⟩ := first
      cases action with
      | archiveName name =>
          have hopen : Follows env (Offline given) (opening settings given name) :=
            .bind hchained (.modify fun _ =>
              .of_events [] (List.forall_mem_nil _) (List.append_nil _).symm rfl) fun _ =>
              .bind hchained (.modify fun _ => .of_dealings rfl) fun _ =>
                .bind hchained (deals_prepare name).offline fun _ =>
                  .bind hchained (offline_recordAll hopened) fun _ => .pure hchained _
          rw [run_phases]
          exact .bind hchained hopen fun output => .bind hchained (hdrain output rest) fun _ =>
            Act.Keeps.offline fun _ => State.inward_dealings.follows_complete output
      | cookies _ => exact .throw hchained _
      | save _ _ => exact .throw hchained _

/-! ## Runs -/

/-- Where pages are left out, a script and the script without its rows of pages end alike:
both complete or both fail with the same fault, with the same store and the same calls,
and with reports that differ only in the pages that the first tells it left out.  No call
is made on a browser. -/
theorem run_withoutPages (hskip : settings.skipPages = true) (given : Provided)
    (env : Environment) (s : State) (hfresh : given.browser = false → s.handles = {})
    (line : Option Int) (name : String) (rest : List Directive) :
    EndAlike LacksPages LacksPages (run settings given (⟨line, .archiveName name⟩ :: rest) env s)
      (run settings given (Script.withoutPages (⟨line, .archiveName name⟩ :: rest)) env s) ∧
    ∃ added, ((run settings given (⟨line, .archiveName name⟩ :: rest)).final env s).trace =
      s.trace ++ added ∧ ∀ e ∈ added, e.isOfBrowser = false := by
  refine ⟨?_, (run_offline hskip _ s hfresh).2⟩
  have hdrain : ∀ p, Alike env LacksPages (· = ·) (drain settings given p rest)
      (drain settings given p (Script.withoutPages rest)) := fun p =>
    (alike_recordAll _).bind_eq fun _ =>
      (((rows_alike hskip p env rest).rescue alike_fail).andAlways
        (.ite (.pure rfl) Browser.alike_close)).andAlways (alike_recordAll _)
  have hrest : Alike env LacksPages LacksPages (do
        Act.note (.options settings)
        let output ← prepare settings name
        drain settings given output rest
        complete output) (do
        Act.note (.options settings)
        let output ← prepare settings name
        drain settings given output (Script.withoutPages rest)
        complete output) :=
    (Act.alike_note _ _).bind_eq fun _ => (alike_prepare name).bind_eq fun output =>
      (hdrain output).bind_eq fun _ => alike_complete output
  obtain ⟨begun, hstart, hbegun⟩ : ∃ begun, start name env s = .ok () begun ∧
      begun.Matches LacksPages begun :=
    ⟨_, rfl, { store := rfl, clock := rfl, trace := rfl, handles := rfl, cookies := rfl,
               report := rfl }⟩
  show EndAlike _ _ ((start name >>= _) env s) ((start name >>= _) env s)
  rw [Act.bind_of_ok hstart, Act.bind_of_ok hstart]
  exact hrest begun begun hbegun

/-! ## Answers beside pages -/

/-- A page that would take the place of the answers of a subject, the answers, and a
page elsewhere. -/
def besidePages : List Directive :=
  [⟨some 1, .archiveName "q"⟩, ⟨some 2, .save (.page "p") "a/responses.pdf"⟩,
    ⟨some 3, .save (.file "u") "a/responses.pdf"⟩, ⟨some 4, .save (.page "p") "b/page.pdf"⟩]

/-- Pages are left out, and answers are fetched again if they are short. -/
def longAnswers : Settings := { skipPages := true, threshold := some 5 }

/-- The answers that were there are cleared and fetched again by both runs.  The first
tells of two pages that it left out, where the second has nothing to tell. -/
theorem besidePages_alike :
    ∃ report s' report' t', run longAnswers {} besidePages (echo none) olderAnswers = .ok report s' ∧
      run longAnswers {} (Script.withoutPages besidePages) (echo none) olderAnswers =
        .ok report' t' ∧
      t'.store = s'.store ∧ t'.trace = s'.trace ∧
      (∀ e ∈ s'.trace, e.isOfBrowser = false) ∧
      report.refetched = #["a/responses.pdf"] ∧ report'.refetched = report.refetched ∧
      report.skips.toList = [⟨"pdf_disabled", "a/responses.pdf"⟩, ⟨"pdf_disabled", "b/page.pdf"⟩] ∧
      report'.skips.toList = [] := by
  obtain ⟨halike, added, htrace, hadded⟩ := run_withoutPages (rfl : longAnswers.skipPages = true) {}
    (echo none) olderAnswers (fun _ => rfl) (some 1) "q" besidePages.tail
  obtain ⟨report, s', hrun, hcheck⟩ := Act.exists_of_endsIn (by decide +kernel :
    (run longAnswers {} besidePages).EndsIn (echo none) olderAnswers (fun report _ =>
      report.refetched == #["a/responses.pdf"] && report.skips.toList ==
        [⟨"pdf_disabled", "a/responses.pdf"⟩, ⟨"pdf_disabled", "b/page.pdf"⟩]) = true)
  simp only [Bool.and_eq_true, beq_iff_eq] at hcheck
  obtain ⟨hrefetched, hskips⟩ := hcheck
  change EndAlike _ _ (run longAnswers {} besidePages (echo none) olderAnswers)
    (run longAnswers {} (Script.withoutPages besidePages) (echo none) olderAnswers) at halike
  change ((run longAnswers {} besidePages).final (echo none) olderAnswers).trace = _ at htrace
  cases hrun' : run longAnswers {} (Script.withoutPages besidePages) (echo none) olderAnswers with
  | error fault t' =>
      rw [hrun, hrun'] at halike
      cases halike
  | ok report' t' =>
      rw [hrun, hrun'] at halike
      obtain ⟨hreport, hmatches⟩ := halike
      rw [Act.final_of_ok hrun] at htrace
      refine ⟨report, s', report', t', hrun, rfl, hmatches.store, hmatches.trace, ?_, hrefetched,
        by rw [hreport]; rfl, hskips, ?_⟩
      · rw [htrace]
        exact hadded
      · rw [hreport, Report.withoutPages, Array.toList_filter, hskips]
        decide

end Run

end Dossier
