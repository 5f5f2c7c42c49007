import Dossier.Proofs.Run.Reports
import Dossier.Proofs.Run.Visits
import Mathlib.Algebra.GroupWithZero.Nat

/-!
# The items of a report

Each row that saves makes one *item* of the report: its destination, and the outcome.  It
is skipped, with the reason, or it is fetched, with the size that its file then has.  If
something too small was cleared before, it is fetched again.

Whatever the script is and wherever it is run, the lists of the report are those of the
items of the rows so far, in the order of the rows (`rows_lists`).  So the report of a run
that completes accounts for each row that saves once.  So does that of a run that fails in
a row, for the rows before that row, but it may tell besides that the destination of that
row was cleared (`run_itemized`).
-/

namespace Dossier

open Script (Directive Source)
open Act (Keeps)

variable {settings : Settings} {given : Provided} {env : Environment} {s s' t u : State}
  {p file : Path} {source : Source} {d : String} {directives : List Directive} {fault : Fault}
  {report : Report}

/-! ## Items -/

/-- What became of a row that saves. -/
inductive Outcome
  /-- It was skipped, for a reason. -/
  | skipped (category : String)
  /-- It was fetched, after something too small was cleared or not, and its file has so many
  bytes. -/
  | fetched (again : Bool) (size : Nat)

/-- What a report tells of a row that saves. -/
structure Item where
  destination : String
  outcome : Outcome

namespace Item

/-- The destination, if it was fetched. -/
def fetched? : Item → Option String
  | ⟨d, .fetched _ _⟩ => some d
  | ⟨_, .skipped _⟩ => none

/-- The skip, if it was skipped. -/
def skip? : Item → Option Skip
  | ⟨_, .fetched _ _⟩ => none
  | ⟨d, .skipped category⟩ => some ⟨category, d⟩

/-- The destination, if it was fetched again. -/
def refetched? : Item → Option String
  | ⟨d, .fetched again _⟩ => if again then some d else none
  | ⟨_, .skipped _⟩ => none

/-- The bytes that were fetched. -/
def size : Item → Nat
  | ⟨_, .fetched _ size⟩ => size
  | ⟨_, .skipped _⟩ => 0

end Item

/-- A report with one more item. -/
def Report.withItem (r : Report) : Item → Report
  | ⟨d, .fetched again size⟩ => (if again then r.withRefetch d else r).withFetch d size
  | ⟨d, .skipped category⟩ => r.withSkip category d

/-- A report has the items of some rows in their order.  It tells of further destinations
that they were cleared. -/
structure Report.Lists (r : Report) (items : List Item) (cleared : List String) : Prop where
  fetched : r.fetched.toList = items.filterMap Item.fetched?
  skips : r.skips.toList = items.filterMap Item.skip?
  refetched : r.refetched.toList = items.filterMap Item.refetched? ++ cleared
  bytesWritten : r.bytesWritten = ((items.map Item.size).sum : Nat)

namespace Report.Lists

variable {items : List Item} {cleared : List String}

theorem snoc (h : report.Lists items []) (item : Item) :
    (report.withItem item).Lists (items ++ [item]) [] := by
  obtain ⟨hfetched, hskips, hrefetched, hbytes⟩ := h
  obtain ⟨d, outcome⟩ := item
  cases outcome with
  | skipped category =>
      constructor <;>
        simp_all [withItem, withSkip, Item.fetched?, Item.skip?, Item.refetched?, Item.size]
  | fetched again size =>
      cases again <;> constructor <;>
        simp_all [withItem, withFetch, withRefetch, Item.fetched?, Item.skip?, Item.refetched?,
          Item.size]

/-- A report may tell of one more destination that it was cleared. -/
theorem clear (h : report.Lists items []) (d : String) :
    (report.withRefetch d).Lists items [d] := by
  obtain ⟨hfetched, hskips, hrefetched, hbytes⟩ := h
  constructor <;> simp_all [withRefetch]

theorem conclude (h : report.Lists items cleared) (status : String) (now : Float) :
    (report.conclude status now).Lists items cleared :=
  ⟨h.fetched, h.skips, h.refetched, h.bytesWritten⟩

theorem closing (h : report.Lists items cleared) (archive : Path) (now : Float) :
    (Run.closingReport report archive now).Lists items cleared :=
  ⟨h.fetched, h.skips, h.refetched, h.bytesWritten⟩

end Report.Lists

namespace Item

theorem counts (items : List Item) :
    (items.filterMap fetched?).length + (items.filterMap skip?).length = items.length := by
  induction items with
  | nil => rfl
  | cons item rest ih =>
      obtain ⟨d, outcome⟩ := item
      cases outcome <;> simp [List.filterMap_cons, fetched?, skip?] <;> omega

/-- What is fetched again is fetched. -/
theorem refetched_sublist (items : List Item) :
    (items.filterMap refetched?).Sublist (items.filterMap fetched?) := by
  induction items with
  | nil => exact .slnil
  | cons item rest ih =>
      obtain ⟨d, outcome⟩ := item
      cases outcome with
      | skipped category => simpa [List.filterMap_cons, fetched?, refetched?] using ih
      | fetched again size =>
          cases again with
          | false => simpa [fetched?, refetched?] using ih.cons d
          | true => simpa [fetched?, refetched?] using ih

end Item

namespace Run

/-! ## What becomes of rows -/

/-- What becomes of a row that saves, between the states before and after it. -/
inductive Settles (settings : Settings) (env : Environment) (p : Path) (s s' : State)
    (source : Source) (d : String) : Outcome → Prop
  /-- The page is left out. -/
  | leftOut (out : settings.leavesOut source = true) :
      Settles settings env p s s' source d (.skipped "pdf_disabled")
  /-- The verdict is against it. -/
  | skipped {decision : Decision} {t : State} (wanted : settings.leavesOut source = false)
      (reaches : Verdict.reach settings p d env s = .ok decision t)
      (unwanted : decision.isFetch = false) :
      Settles settings env p s s' source d (.skipped decision.name)
  /-- It is fetched, and the size of its file can be told afterwards. -/
  | fetched {decision : Decision} {t : State} {size : Nat}
      (wanted : settings.leavesOut source = false)
      (reaches : Verdict.reach settings p d env s = .ok decision t)
      (fetches : decision.isFetch = true)
      (lies : s'.store.sizeAt env.here (p.child d) = .ok size) :
      Settles settings env p s s' source d (.fetched (decision.verdict = .refetchTooSmall) size)

/-- Rows are carried out one after the other, and each that saves makes an item. -/
inductive Itemized (settings : Settings) (env : Environment) (p : Path) :
    State → List Directive → List Item → State → Prop
  | done {s : State} : Itemized settings env p s [] [] s
  | other {s t u : State} {directive : Directive} {directives : List Directive}
      {items : List Item} (row : row settings p directive env s = .ok () t)
      (none : ∀ source d, directive.action ≠ .save source d)
      (rest : Itemized settings env p t directives items u) :
      Itemized settings env p s (directive :: directives) items u
  | save {s t u : State} {line : Option Int} {source : Source} {d : String} {outcome : Outcome}
      {directives : List Directive} {items : List Item}
      (row : row settings p ⟨line, .save source d⟩ env s = .ok () t)
      (settles : Settles settings env p s t source d outcome)
      (rest : Itemized settings env p t directives items u) :
      Itemized settings env p s (⟨line, .save source d⟩ :: directives) (⟨d, outcome⟩ :: items) u

theorem Settles.unique {outcome outcome' : Outcome}
    (h : Settles settings env p s s' source d outcome)
    (h' : Settles settings env p s s' source d outcome') : outcome = outcome' := by
  cases h <;> cases h' <;> simp_all

/-- Rows make one list of items. -/
theorem Itemized.unique {items items' : List Item} {u' : State}
    (h : Itemized settings env p s directives items u)
    (h' : Itemized settings env p s directives items' u') : items = items' ∧ u = u' := by
  induction h generalizing items' u' with
  | done => cases h'; exact ⟨rfl, rfl⟩
  | other hrow hnone _ ih =>
      cases h' with
      | other hrow' _ hrest =>
          cases hrow.symm.trans hrow'
          exact ih hrest
      | save => exact absurd rfl (hnone _ _)
  | save hrow hsettles _ ih =>
      cases h' with
      | other _ hnone => exact absurd rfl (hnone _ _)
      | save hrow' hsettles' hrest =>
          cases hrow.symm.trans hrow'
          obtain ⟨rfl, rfl⟩ := ih hrest
          rw [hsettles.unique hsettles']
          exact ⟨rfl, rfl⟩

/-- Each row that saves makes an item for its destination. -/
theorem Itemized.destinations {items : List Item}
    (h : Itemized settings env p s directives items u) :
    items.map Item.destination = Script.destinations (directives.map Directive.action) := by
  induction h with
  | done => rfl
  | @other _ _ _ directive directives items _ hnone _ ih =>
      rw [ih, List.map_cons, Script.destinations_cons]
      cases haction : directive.action with
      | save source d => exact absurd haction (hnone source d)
      | cookies blob => rfl
      | archiveName name => rfl
  | save _ _ _ ih => rw [List.map_cons, List.map_cons, Script.destinations_save, ih]

/-! ## What is fetched -/

/-- What is fetched along a path from the root has a size there, and that is the size that is
given. -/
theorem fetch_size (hfile : file.anchor ≠ .relative) {n : Nat}
    (h : fetch settings source file env s = .ok n s') :
    s'.store.sizeAt env.here file = .ok n := by
  have hwritten : ∀ {t t' : State} {data : Bytes} {v : Unit},
      Disk.write file (.plain data) env t = .ok v t' →
      t'.store.sizeAt env.here file = .ok data.length := by
    intro t t' data v hwrite
    obtain ⟨_, store, hcall, rfl⟩ := Disk.change_ok.mp hwrite
    exact Store.sizeAt_of_write hfile hcall
  obtain ⟨_, t, hget, hsaves⟩ := Act.bind_ok.mp h
  cases source with
  | text content =>
      obtain ⟨_, _, _, hsaves⟩ := Act.bind_ok.mp hsaves
      obtain ⟨_, _, hwrite, hlength⟩ := Act.bind_ok.mp hsaves
      obtain ⟨rfl, rfl⟩ := Act.pure_ok.mp hlength
      exact hwritten (Disk.during_ok.mp hwrite)
  | file url =>
      obtain ⟨_, _, _, hsaves⟩ := Act.bind_ok.mp hsaves
      obtain ⟨response, _, _, hsaves⟩ := Act.bind_ok.mp hsaves
      obtain ⟨_, hreceive, hclosed⟩ := Act.andAlways_ok.mp hsaves
      obtain ⟨_, _, _, rfl, hwrite⟩ := Saving.receive_ok hreceive
      have hlies := hwritten hwrite
      rw [Act.modify_ok.mp hclosed]
      exact hlies
  | page url =>
      obtain ⟨_, _, _, hsaves⟩ := Act.bind_ok.mp hsaves
      obtain ⟨_, _, _, hsaves⟩ := Act.bind_ok.mp hsaves
      obtain ⟨_, _, _, hsize⟩ := Act.bind_ok.mp hsaves
      obtain ⟨_, hsize, rfl⟩ := Disk.size_ok.mp (Disk.during_ok.mp hsize)
      exact hsize

/-! ## What rows account for -/

theorem report_reach (p : Path) (d : String) :
    Keeps State.report (Verdict.reach settings p d) := fun _ =>
  State.tacit_report.follows_reach p d

theorem report_fetch (source : Source) (file : Path) :
    Keeps State.report (fetch settings source file) := fun env s =>
  congrArg Accounts.report ((Act.Busy.accounts env).follows_fetch settings source file s)

/-- The report once it is told whether a destination was cleared. -/
def announced (report : Report) (verdict : Verdict) (d : String) : Report :=
  if verdict = .refetchTooSmall then report.withRefetch d else report

theorem announce_eq (verdict : Verdict) (d : String) (env : Environment) (s : State) :
    announce verdict d env s = .ok () { s with report := announced s.report verdict d } := by
  unfold announce announced
  split <;> rfl

/-- A row that is carried out has an outcome, and accounts for it. -/
theorem save_item (hp : (p.child d).anchor ≠ .relative) {v : Unit}
    (h : save settings p source d env s = .ok v s') :
    ∃ outcome, Settles settings env p s s' source d outcome ∧
      s'.report = s.report.withItem ⟨d, outcome⟩ := by
  cases hout : settings.leavesOut source with
  | true =>
      rw [save_of_leftOut hout] at h
      cases h
      exact ⟨_, .leftOut hout, rfl⟩
  | false =>
      rw [save_of_wanted hout, saveIfWanted_eq] at h
      obtain ⟨decision, t, hreach, h⟩ := Act.bind_ok.mp h
      have hkept : t.report = s.report := (report_reach p d).ok hreach
      split at h
      · rename_i hfetch
        rw [Act.bind_of_ok (announce_eq decision.verdict d env t)] at h
        obtain ⟨n, t', hfetched, h⟩ := Act.bind_ok.mp h
        have hlies := fetch_size hp hfetched
        have hreport : t'.report = announced s.report decision.verdict d := by
          rw [(report_fetch source _).ok hfetched, hkept]
        cases h
        refine ⟨_, .fetched hout hreach hfetch hlies, ?_⟩
        show t'.report.withFetch d n = _
        simp [hreport, announced, Report.withItem]
      · rename_i hskip
        cases h
        refine ⟨_, .skipped hout hreach (by simpa using hskip), ?_⟩
        show t.report.withSkip _ d = _
        rw [hkept]
        rfl

/-- Rows that are carried out make their items, and the report lists them. -/
theorem rows_lists (hp : ∀ d, (p.child d).anchor ≠ .relative) {items : List Item}
    (hlists : s.report.Lists items [])
    (h : rows settings p directives env s = .ok () s') :
    ∃ made, Itemized settings env p s directives made s' ∧ s'.report.Lists (items ++ made) [] := by
  induction directives generalizing s items with
  | nil =>
      obtain ⟨_, rfl⟩ := Act.pure_ok.mp h
      exact ⟨[], .done, by rwa [List.append_nil]⟩
  | cons directive rest ih =>
      obtain ⟨_, t, hrow, hrest⟩ := Act.bind_ok.mp h
      obtain ⟨line, action⟩ := directive
      cases action with
      | archiveName name => exact absurd hrow Act.throw_ok
      | cookies blob =>
          have hkept : t.report = s.report := by
            obtain ⟨_, _, hread, hafter⟩ := Act.bind_ok.mp hrow
            obtain ⟨_, rfl⟩ := Act.ofExcept_ok.mp hread
            cases hafter
            rfl
          obtain ⟨made, hmade, hlists'⟩ := ih (hkept ▸ hlists) hrest
          exact ⟨made, .other hrow nofun hmade, hlists'⟩
      | save source d =>
          obtain ⟨outcome, hsettles, hreport⟩ := save_item (hp d) hrow
          obtain ⟨made, hmade, hlists'⟩ := ih (hreport ▸ hlists.snoc ⟨d, outcome⟩) hrest
          rw [List.append_assoc] at hlists'
          exact ⟨_, .save hrow hsettles hmade, hlists'⟩

/-! ### Rows that fail -/

/-- The destination of a row, if it is cleared to be fetched again. -/
def cleared (settings : Settings) (p : Path) (env : Environment) (s : State)
    (directive : Directive) : List String :=
  match directive.action with
  | .save source d =>
    if settings.leavesOut source then []
    else match Verdict.reach settings p d env s with
      | .ok ⟨.refetchTooSmall, _⟩ _ => [d]
      | _ => []
  | _ => []

theorem cleared_of_reach {line : Option Int} {decision : Decision}
    (hwanted : settings.leavesOut source = false)
    (hreach : Verdict.reach settings p d env s = .ok decision t) :
    cleared settings p env s ⟨line, .save source d⟩ =
      if decision.verdict = .refetchTooSmall then [d] else [] := by
  simp only [cleared, hwanted, hreach]
  obtain ⟨verdict, file⟩ := decision
  cases verdict <;> rfl

/-- A row that saves and fails tells no more than that its destination was cleared. -/
theorem save_error_lists {items : List Item} (hlists : s.report.Lists items [])
    (h : save settings p source d env s = .error fault s') (line : Option Int) :
    s'.report.Lists items (cleared settings p env s ⟨line, .save source d⟩) := by
  cases hout : settings.leavesOut source with
  | true =>
      rw [save_of_leftOut hout] at h
      cases h
  | false =>
      rw [save_of_wanted hout] at h
      rcases Act.bind_error.mp h with hreach | ⟨decision, t, hreach, h⟩
      · have hnone : cleared settings p env s ⟨line, .save source d⟩ = [] := by
          simp [cleared, hout, hreach]
        rwa [hnone, (report_reach p d env).error hreach]
      · have hkept : t.report = s.report := (report_reach p d).ok hreach
        rw [cleared_of_reach hout hreach]
        split at h
        · rw [Act.bind_of_ok (announce_eq decision.verdict d env t)] at h
          rcases Act.bind_error.mp h with hfetched | ⟨_, _, _, hlast⟩
          · rw [(report_fetch source _ env).error hfetched, hkept]
            show (announced s.report decision.verdict d).Lists _ _
            unfold announced
            split
            · exact hlists.clear d
            · exact hlists
          · cases hlast
        · cases h

/-- A row that fails makes no item. -/
theorem row_error_lists {items : List Item} (hlists : s.report.Lists items [])
    {directive : Directive} (h : row settings p directive env s = .error fault s') :
    s'.report.Lists items (cleared settings p env s directive) := by
  obtain ⟨line, action⟩ := directive
  cases action with
  | archiveName name =>
      obtain ⟨_, rfl⟩ := Act.throw_error.mp h
      exact hlists
  | cookies blob =>
      obtain ⟨_, _, _, rfl⟩ := setCookies_error h
      exact hlists
  | save source d => exact save_error_lists hlists h line

/-! ## Runs -/

/-- A path is resolved to the path of a location. -/
theorem resolve_location {q : Path} (h : resolve q env s = .ok p s') :
    ∃ l, p = Location.path l := by
  obtain ⟨_, _, _, h₁⟩ := Act.bind_ok.mp h
  obtain ⟨_, _, _, h₂⟩ := Act.bind_ok.mp h₁
  obtain ⟨_, _, _, h₃⟩ := Act.bind_ok.mp h₂
  obtain ⟨l, _, _, hnamed⟩ := Act.bind_ok.mp h₃
  obtain ⟨rfl, _⟩ := Act.pure_ok.mp hnamed
  exact ⟨l, rfl⟩

theorem prepare_location {name : String} (h : prepare settings name env s = .ok p s') :
    ∃ l, p = Location.path l := by
  obtain ⟨q, _, hresolve, h₁⟩ := Act.bind_ok.mp h
  obtain ⟨_, _, _, h₂⟩ := Act.bind_ok.mp h₁
  obtain ⟨_, _, _, hgiven⟩ := Act.bind_ok.mp h₂
  obtain ⟨rfl, _⟩ := Act.pure_ok.mp hgiven
  exact resolve_location hresolve

/-- The output directory that a run opens is named from the root. -/
theorem Opened.anchored (h : Opened settings given env s directives p t) (d : String) :
    (p.child d).anchor ≠ .relative := by
  obtain ⟨_, name, _, _, hopen⟩ := h
  obtain ⟨_, _, _, h₁⟩ := Act.bind_ok.mp hopen
  obtain ⟨_, _, _, h₂⟩ := Act.bind_ok.mp h₁
  obtain ⟨q, _, hprepare, h₃⟩ := Act.bind_ok.mp h₂
  obtain ⟨_, _, _, hgiven⟩ := Act.bind_ok.mp h₃
  obtain ⟨rfl, _⟩ := Act.pure_ok.mp hgiven
  obtain ⟨l, rfl⟩ := prepare_location hprepare
  rw [Path.child, Path.join]
  split
  · intro hrelative
    cases hrelative
  · assumption

/-- A run opens with an empty report. -/
theorem Opened.lists (h : Opened settings given env s directives p t) :
    t.report.Lists [] [] := by
  obtain ⟨_, name, _, _, hopen⟩ := h
  obtain ⟨_, t₁, hstart, hrest⟩ := Act.bind_ok.mp hopen
  have hkeep : Keeps State.report (do
      Act.note (.options settings)
      let output ← prepare settings name
      recordAll (sessionOf given).events
      return output) := fun env =>
    .bind (.part _) (.modify fun _ => rfl) fun _ =>
      .bind (.part _) (State.tacit_report.follows_prepare name) fun _ =>
        .bind (.part _) (fun s => by rw [Act.final_of_ok (recordAll_eq env _ s)]) fun _ =>
          .pure (.part _) _
  rw [hkeep.ok hrest]
  cases hstart
  exact ⟨rfl, rfl, rfl, rfl⟩

/-- A report accounts for rows that were carried out: each row that saves made one item, and
the report lists the items in their order. -/
structure Accounted (settings : Settings) (env : Environment) (p : Path) (s : State)
    (directives : List Directive) (u : State) (report : Report) (cleared : List String)
    (items : List Item) : Prop where
  itemized : Itemized settings env p s directives items u
  unique : ∀ items' u', Itemized settings env p s directives items' u' → items' = items
  destinations :
    items.map Item.destination = Script.destinations (directives.map Directive.action)
  lists : report.Lists items cleared
  counts : report.fetched.size + report.skips.size =
    (Script.destinations (directives.map Directive.action)).length
  again : (items.filterMap Item.refetched?).Sublist report.fetched.toList

theorem Itemized.accounted {items : List Item} {cleared : List String}
    (h : Itemized settings env p s directives items u) (hlists : report.Lists items cleared) :
    Accounted settings env p s directives u report cleared items where
  itemized := h
  unique items' u' h' := (h'.unique h).1
  destinations := h.destinations
  lists := hlists
  counts := by
    rw [← h.destinations, List.length_map, ← Item.counts, ← hlists.fetched, ← hlists.skips]
    rfl
  again := hlists.fetched ▸ Item.refetched_sublist items

/-- The report of a run that completes accounts for all its rows.  A run with a row that
fails with a reported fault fails and notes a report that it failed, which accounts for the
rows before that row, and tells besides whether the destination of that row was cleared. -/
theorem run_itemized (settings : Settings) (given : Provided) (env : Environment) (s : State)
    (directives : List Directive) :
    (∀ report s', run settings given directives env s = .ok report s' →
      ∃ p t u items, Opened settings given env s directives p t ∧
        Accounted settings env p t directives.tail u report [] items) ∧
    ∀ p t before directive after u u' cause, Opened settings given env s directives p t →
      directives.tail = before ++ directive :: after →
      rows settings p before env t = .ok () u →
      row settings p directive env u = .error cause u' → cause.isReported = true →
        ∃ fault s' report items, run settings given directives env s = .error fault s' ∧
          s'.reports = s.reports ++ [report] ∧ report.status = "failed" ∧
          Accounted settings env p t before u report (cleared settings p env u directive)
            items := by
  constructor
  · intro report s' h
    obtain ⟨p, t, v, hopened, hdrain, hcomplete⟩ := run_ok h
    obtain ⟨u, hrows, hholdings⟩ := draining_ok hdrain
    obtain ⟨items, hitems, hlists⟩ := rows_lists hopened.anchored hopened.lists hrows
    have hreport : v.report = u.report := congrArg Accounts.report (State.holdings_inj hholdings).2
    obtain ⟨archive, now, rfl⟩ := complete_report hcomplete
    exact ⟨p, t, u, items, hopened, hitems.accounted (hreport ▸ hlists.closing archive now)⟩
  · intro p t before directive after u u' cause hopened hsplit hbefore hrow hreported
    have hrows : rows settings p directives.tail env t = .error cause u' :=
      hsplit ▸ rows_of_error hbefore hrow
    obtain ⟨items, hitems, hlists⟩ := rows_lists hopened.anchored hopened.lists hbefore
    have hdrains : ∃ fault s',
        draining settings given p directives.tail env t = .error fault s' := by
      cases hdrain : draining settings given p directives.tail env t with
      | ok _ v =>
          obtain ⟨_, hcarried, _⟩ := draining_ok hdrain
          cases hrows.symm.trans hcarried
      | error fault v => exact ⟨fault, v, rfl⟩
    obtain ⟨fault, s', hdrain⟩ := hdrains
    have hreports := draining_reports hdrain
    rw [hrows, hopened.reports] at hreports
    refine ⟨fault, s', u'.report.conclude "failed" u'.clock, items, ?_, ?_, rfl,
      hitems.accounted ((row_error_lists hlists hrow).conclude _ _)⟩
    · rw [hopened.run_eq]
      exact Act.bind_error.mpr (Or.inl hdrain)
    · simpa [hreported] using hreports

/-! ## A row that fails after its directory is cleared -/

/-- Long answers are asked for, and no pages. -/
def noPages : Settings := { skipPages := true, threshold := some 5 }

/-- There is a short answer already. -/
def shortAnswer : State :=
  { store := ⟨[(["output"], .directory), (["output", "q"], .directory),
      (["output", "q", "a"], .directory),
      (["output", "q", "a", "responses.pdf"], .file (.plain [115]))]⟩ }

/-- A text, a page and the same text again. -/
def threeSaves : List Directive :=
  [⟨some 2, .save (.text "x_y") "f"⟩, ⟨some 3, .save (.page "p") "b/p"⟩,
    ⟨some 4, .save (.text "x_y") "f"⟩]

def answerSave : Directive := ⟨some 5, .save (.file "v") "a/responses.pdf"⟩

def itemsScript : List Directive :=
  ⟨some 1, .archiveName "q"⟩ :: (threeSaves ++ answerSave :: [⟨some 6, .save (.text "z") "z"⟩])

/-- Where the run that does not reach the answer has opened, and where it comes to it. -/
def itemsOpened : State := (opening noPages {} "q").final (echo (some "v")) shortAnswer

def itemsSaved : State :=
  (rows noPages (Location.path ["output", "q"]) threeSaves).final (echo (some "v")) itemsOpened

/-- The report of the run that completes has an item for each of its rows.  If the answer
is not reached, the report has items for the rows before it, and tells that the answer that
was there is cleared. -/
theorem itemsScript_itemized :
    (∃ report s' items, run noPages {} itemsScript (echo none) shortAnswer = .ok report s' ∧
      report.Lists items [] ∧
      items.map Item.destination = ["f", "b/p", "f", "a/responses.pdf", "z"]) ∧
    ∃ fault s' report items,
      run noPages {} itemsScript (echo (some "v")) shortAnswer = .error fault s' ∧
      s'.reports = [report] ∧ report.Lists items ["a/responses.pdf"] ∧
      items.map Item.destination = ["f", "b/p", "f"] := by
  constructor
  · obtain ⟨report, s', hrun, _⟩ := Act.exists_of_endsIn (by decide +kernel :
      (run noPages {} itemsScript).EndsIn (echo none) shortAnswer (fun _ _ => true) = true)
    obtain ⟨p, t, u, items, _, haccounted⟩ :=
      (run_itemized noPages {} (echo none) shortAnswer itemsScript).1 report s' hrun
    exact ⟨report, s', items, hrun, haccounted.lists, haccounted.destinations⟩
  · obtain ⟨p, t, hopen, hp⟩ := Act.exists_of_endsIn (by decide +kernel :
      (opening noPages {} "q").EndsIn (echo (some "v")) shortAnswer (fun p _ =>
        p == Location.path ["output", "q"]) = true)
    obtain rfl := eq_of_beq hp
    obtain rfl : itemsOpened = t := Act.final_of_ok hopen
    obtain ⟨_, u, hbefore, _⟩ := Act.exists_of_endsIn (by decide +kernel :
      (rows noPages (Location.path ["output", "q"]) threeSaves).EndsIn (echo (some "v")) itemsOpened
        (fun _ _ => true) = true)
    obtain rfl : itemsSaved = u := Act.final_of_ok hbefore
    obtain ⟨cause, u', hrow, hreported⟩ := Act.exists_of_breaksIn (by decide +kernel :
      (row noPages (Location.path ["output", "q"]) answerSave).BreaksIn (echo (some "v")) itemsSaved
        (fun cause _ => cause.isReported) = true)
    have hcleared : cleared noPages (Location.path ["output", "q"]) (echo (some "v")) itemsSaved
        answerSave = ["a/responses.pdf"] := by decide +kernel
    obtain ⟨fault, s', report, items, hrun, hreports, _, haccounted⟩ :=
      (run_itemized noPages {} (echo (some "v")) shortAnswer itemsScript).2 _ _ threeSaves
        answerSave _ _ u' cause ⟨some 1, "q", _, rfl, hopen⟩ rfl hbefore hrow hreported
    exact ⟨fault, s', report, items, hrun, hreports, hcleared ▸ haccounted.lists,
      haccounted.destinations⟩

end Run

end Dossier
