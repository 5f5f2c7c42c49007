import Dossier.Proofs.Packing
import Dossier.Proofs.Run.Turn

/-!
# Whole runs

A run that completes made its output directory, carried out its rows from
there, and packed what lay in the directory afterwards (`run_completed`).  How
completing it can end is said once (`complete_eq`).
-/

namespace Dossier.Run

open Script (Directive Source Action)
open Act (Keeps)

variable {settings : Settings} {given : Provided} {env : Environment} {s s' : State}
  {output : Location} {report : Report}

/-! ## Places -/

/-- The directory that a script saves to. -/
def outputOf (settings : Settings) (env : Environment) (directives : List Directive) : Location :=
  (settings.outputRoot.child (Script.archiveName directives)).location env.here

/-- The archive that a report tells of has an entry for a destination. -/
def Archived (env : Environment) (output : Location) (report : Report) (s : State)
    (destination : String) : Prop :=
  ∃ path l members, report.archivePath = some path ∧
    s.store.stat env.here path = .ok (l, .file (.archive members)) ∧
      ∃ member ∈ members, member.name =
        Packing.memberName (Location.path output) (Script.Destination.segments destination)

/-! ## The output directory -/

/-- A run has made its output directory.  No cookies are in force yet, and there
is nothing to account for. -/
structure Begun (output : Location) (s t : State) : Prop where
  plain : ".." ∉ output
  nul : (Location.path output).holdsNul = false
  opens : Store.Opens s.store t.store output
  cookies : t.cookies = {}
  fetched : t.report.fetched = #[]
  skips : t.report.skips = #[]
  ledger : t.ledger = s.ledger

/-- Without links a path is resolved to the location it leads to. -/
theorem resolve_eq (hs : s.store.LinkFree) (p : Path) :
    resolve p env s =
      if p.holdsNul then .error .nul s else .ok (Location.path (p.location env.here)) s := by
  show EStateM.bind (Disk.checkPath p env) _ s = _
  rw [EStateM.bind, Disk.checkPath_eq]
  by_cases h : p.holdsNul = true
  · simp only [if_pos h]
  · simp only [if_neg h]
    show EStateM.bind (Act.ofExcept (fun l => Fault.circle (Location.path l))
      (s.store.resolve env.here p) env) _ s = _
    rw [Store.resolve_of_linkFree hs]
    rfl

theorem plain_location (hhere : ".." ∉ env.here) (p : Path) : ".." ∉ p.location env.here := by
  refine Store.foldl_step_plain ?_
  rw [Store.startOf]
  split
  · exact hhere
  · simp

theorem prepare_ok (hs : s.store.Tree) (hhere : ".." ∉ env.here) {name : String} {p : Path}
    (hout : output = (settings.outputRoot.child name).location env.here)
    (h : prepare settings name env s = .ok p s') :
    p = Location.path output ∧ (Location.path output).holdsNul = false ∧
      Store.Opens s.store s'.store output ∧ s'.accounts = s.accounts := by
  obtain ⟨q, t, hresolve, hmake⟩ := Act.bind_ok.mp h
  rw [resolve_eq hs.linkFree, ← hout] at hresolve
  obtain ⟨rfl, rfl⟩ : q = Location.path output ∧ t = s := by
    split at hresolve
    · cases hresolve
    · cases hresolve
      exact ⟨rfl, rfl⟩
  obtain ⟨_, t', hopen, hnoted⟩ := Act.bind_ok.mp hmake
  obtain ⟨_, t'', hnote, hpure⟩ := Act.bind_ok.mp hnoted
  obtain ⟨rfl, rfl⟩ := Act.pure_ok.mp hpure
  obtain ⟨hstore, hacc⟩ := State.holdings_inj ((Act.keeps_note rfl).ok hnote)
  obtain ⟨hnul, opened, hopened, rfl⟩ := Disk.ensureDirectories_ok.mp (Disk.during_ok.mp hopen)
  have hl : ".." ∉ output := hout ▸ plain_location hhere _
  exact ⟨rfl, hnul, hstore ▸ Store.ensureDirectories_opens hs hl hopened, hacc⟩

/-! ## Rows in between -/

theorem keeps_recordAll : ∀ events : Trace, Keeps State.holdings (recordAll events)
  | [] => fun _ _ => rfl
  | e :: rest => fun env => Act.Follows.bind (.part _) (Act.keeps_record e env) fun _ =>
      keeps_recordAll rest env

/-- A fault that ended a run is passed on. -/
theorem fail_ok {fault : Fault} {u : Unit} : ¬ fail fault env s = .ok u s' := by
  intro h
  unfold fail at h
  split at h
  · obtain ⟨_, _, _, hnoted⟩ := Act.bind_ok.mp h
    obtain ⟨_, _, _, hthrow⟩ := Act.bind_ok.mp hnoted
    exact Act.throw_ok hthrow
  · exact Act.throw_ok h

/-- If rows are carried out and everything is closed after them, what they leave is left. -/
theorem closed_ok {act : Act Unit} {events : Trace} {u : Unit}
    (h : ((act.rescue fail).andAlways (if given.browser then pure () else Browser.close)).andAlways
      (recordAll events) env s = .ok u s') :
    ∃ t, act env s = .ok () t ∧ s'.holdings = t.holdings := by
  obtain ⟨t₂, hclosed, hlast⟩ := Act.andAlways_ok.mp h
  obtain ⟨t₁, hrows, hbrowser⟩ := Act.andAlways_ok.mp hclosed
  have hkeep : Keeps State.holdings (if given.browser then pure () else Browser.close) :=
    fun env => .ite (.pure (.part _) ()) (Browser.keeps_close env)
  refine ⟨t₁, ?_, ((keeps_recordAll _).ok hlast).trans (hkeep.ok hbrowser)⟩
  rcases Act.rescue_ok.mp hrows with hok | ⟨_, _, _, hfail⟩
  · exact hok
  · exact absurd hfail fail_ok

theorem drain_ok {p : Path} {directives : List Directive} {u : Unit}
    (h : drain settings given p directives env s = .ok u s') :
    ∃ t t', t.holdings = s.holdings ∧ rows settings p directives env t = .ok () t' ∧
      s'.holdings = t'.holdings := by
  obtain ⟨_, t, hopened, hdrained⟩ := Act.bind_ok.mp h
  obtain ⟨t', hrows, hkeep⟩ := closed_ok hdrained
  exact ⟨t, t', (keeps_recordAll _).ok hopened, hrows, hkeep⟩

/-! ## Completing -/

/-- The report of a run whose archive is written, once it is over. -/
def closingReport (report : Report) (archive : Path) (now : Float) : Report :=
  { report with archivePath := some archive }.conclude "completed" now

/-- A run packs its output directory, concludes its report, tells how long it took and notes
the report. -/
theorem complete_eq (p : Path) (env : Environment) (s : State) :
    complete p env s = match Packing.pack p env s with
      | .error fault t => .error fault t
      | .ok archive t =>
        let u := { t with report := closingReport t.report archive t.clock }
        match Duration.between u.report.startTime u.clock with
        | .error cause => .error (.clock cause) u
        | .ok seconds => .ok u.report { u with
            notes := t.notes ++ [.done u.report.summary seconds] ++ [.account u.report] } := by
  show EStateM.bind (Packing.pack p env) _ s = _
  rw [EStateM.bind]
  cases Packing.pack p env s with
  | error fault t => rfl
  | ok archive t =>
      dsimp only
      cases hclock : Duration.between (closingReport t.report archive t.clock).startTime
        t.clock with
      | error cause =>
          refine Act.bind_error.mpr (Or.inr ⟨(), _, rfl, ?_⟩)
          refine Act.bind_error.mpr (Or.inr ⟨(), _, rfl, ?_⟩)
          refine Act.bind_error.mpr (Or.inr ⟨_, _, rfl, ?_⟩)
          exact Act.bind_error.mpr (Or.inl (Act.ofExcept_error.mpr ⟨cause, hclock, rfl, rfl⟩))
      | ok seconds =>
          refine Act.bind_ok.mpr ⟨(), _, rfl, ?_⟩
          refine Act.bind_ok.mpr ⟨(), _, rfl, ?_⟩
          refine Act.bind_ok.mpr ⟨_, _, rfl, ?_⟩
          refine Act.bind_ok.mpr ⟨seconds, _, Act.ofExcept_ok.mpr ⟨hclock, rfl⟩, ?_⟩
          rfl

/-- A run that completes has packed its output directory, and it concludes its report and
notes it. -/
theorem complete_steps (h : complete p env s = .ok report s') :
    ∃ archive t seconds, Packing.pack p env s = .ok archive t ∧
      report = closingReport t.report archive t.clock ∧
      s' = { t with report := report
                    notes := t.notes ++ [.done report.summary seconds] ++ [.account report] } := by
  rw [complete_eq] at h
  cases hpack : Packing.pack p env s with
  | error f t =>
      rw [hpack] at h
      cases h
  | ok archive t =>
      rw [hpack] at h
      dsimp only at h
      split at h
      · cases h
      · cases h
        exact ⟨archive, t, _, rfl, rfl, rfl⟩

/-! ## The archive -/

/-- A run has packed its output directory.  Only the archive was written. -/
structure Packed (env : Environment) (output : Location) (s s' : State) (report : Report) :
    Prop where
  packs : ∃ path t, Packing.pack (Location.path output) env s = .ok path t
  tree : s'.store.Tree
  path : report.archivePath = some (Packing.archivePath (Location.path output))
  stat : s'.store.stat env.here (Packing.archivePath (Location.path output)) =
    .ok (Packing.archivePlace env output, .file (Packing.archiveOf output s.store))
  view : ∀ l, s'.store.get? l = if l = Packing.archivePlace env output then
    some (.file (Packing.archiveOf output s.store)) else s.store.get? l
  fetched : report.fetched = s.report.fetched
  skips : report.skips = s.report.skips
  ledger : s'.ledger = s.ledger

/-- A run that is complete has packed its output directory. -/
theorem complete_ok (hs : s.store.Tree) (ho : ".." ∉ output)
    (hnul : (Location.path output).holdsNul = false)
    (hdir : s.store.get? output = some .directory)
    (h : complete (Location.path output) env s = .ok report s') :
    Packed env output s s' report := by
  obtain ⟨path, t, seconds, hpack, rfl, rfl⟩ := complete_steps h
  obtain ⟨rfl, htree, hacc, hstat, hview⟩ := Packing.pack_ok hs ho hnul hdir hpack
  simp only [State.accounts, Accounts.mk.injEq] at hacc
  obtain ⟨hreport, _, hledger⟩ := hacc
  refine ⟨⟨_, t, hpack⟩, htree, rfl, hstat, hview, hreport ▸ rfl, hreport ▸ rfl, ?_⟩
  rw [← hledger]
  simp [State.ledger, Note.isEntry]

/-- What a state holds decides what is packed. -/
theorem Packed.of_holdings {t : State} (h : Packed env output s s' report) (ht : t.store.Tree)
    (ho : ".." ∉ output) (hnul : (Location.path output).holdsNul = false)
    (hdir : t.store.get? output = some .directory) (hkeep : s.holdings = t.holdings) :
    Packed env output t s' report := by
  obtain ⟨hstore, hacc⟩ := State.holdings_inj hkeep
  simp only [State.accounts, Accounts.mk.injEq] at hacc
  obtain ⟨hreport, _, hledger⟩ := hacc
  obtain ⟨path, u, hpack⟩ := h.packs
  obtain ⟨u', hpack'⟩ := Packing.pack_congr (hstore ▸ ht) ht ho hnul (hstore ▸ hdir)
    (by rw [hstore]) hpack
  exact ⟨⟨path, u', hpack'⟩, h.tree, h.path, hstore ▸ h.stat, fun l => hstore ▸ h.view l,
    hreport ▸ h.fetched, hreport ▸ h.skips, hledger ▸ h.ledger⟩

/-! ## Runs -/

/-- The options are noted and the output directory is made. -/
theorem begin_ok (hs : s.store.Tree) (hhere : ".." ∉ env.here) {name : String} {p : Path}
    {u v : Unit} {t₁ t₂ t : State}
    (hout : output = (settings.outputRoot.child name).location env.here)
    (hstart : start name env s = .ok u t₁) (hnote : Act.note (.options settings) env t₁ = .ok v t₂)
    (hprepare : prepare settings name env t₂ = .ok p t) :
    p = Location.path output ∧ Begun output s t := by
  obtain ⟨hstore, hacc⟩ := State.holdings_inj ((Act.keeps_note rfl).ok hnote)
  have ht₁ : t₁.store = s.store ∧ t₁.ledger = s.ledger ∧ t₁.cookies = {} ∧
      t₁.report.fetched = #[] ∧ t₁.report.skips = #[] := by
    cases hstart
    exact ⟨rfl, rfl, rfl, rfl, rfl⟩
  obtain ⟨hstore₁, hledger, hcookies, hfetched, hskips⟩ := ht₁
  obtain ⟨rfl, hnul, hopens, hacc'⟩ :=
    prepare_ok (by rw [hstore, hstore₁]; exact hs) hhere hout hprepare
  simp only [State.accounts, Accounts.mk.injEq] at hacc hacc'
  rw [hstore, hstore₁] at hopens
  refine ⟨rfl, hout ▸ plain_location hhere _, hnul, hopens, ?_, ?_, ?_, ?_⟩
  · rw [hacc'.2.1, hacc.2.1, hcookies]
  · rw [hacc'.1, hacc.1, hfetched]
  · rw [hacc'.1, hacc.1, hskips]
  · rw [hacc'.2.2, hacc.2.2, hledger]

/-- A state with the same store and accounts has begun as well. -/
theorem Begun.of_holdings {t t' : State} (h : Begun output s t) (hkeep : t'.holdings = t.holdings) :
    Begun output s t' := by
  obtain ⟨hstore, hacc⟩ := State.holdings_inj hkeep
  simp only [State.accounts, Accounts.mk.injEq] at hacc
  obtain ⟨hreport, hcookies, hledger⟩ := hacc
  exact ⟨h.plain, h.nul, hstore ▸ h.opens, by rw [hcookies, h.cookies], by rw [hreport, h.fetched],
    by rw [hreport, h.skips], by rw [hledger, h.ledger]⟩

/-- The places of destinations are as they were when the run has begun. -/
theorem Begun.at_place {t : State} (h : Begun output s t) (d : String) :
    t.store.get? (place output d) = s.store.get? (place output d) := by
  rw [h.opens.view, Store.View.opened_of_not_prefix]
  exact fun hp => output_ne_place output d ((List.prefix_append _ _).eq_of_length_le hp.length_le)

/-- A run that completes has begun, carried out its rows and packed its output
directory. -/
theorem run_completed {text : String} {directives : List Directive}
    (hparse : Script.parse text = .ok directives) (hsubject : settings.subject = none)
    (hs : s.store.Tree) (hhere : ".." ∉ env.here) (hout : output = outputOf settings env directives)
    (h : run settings given directives env s = .ok report s') :
    ∃ t t', Begun output s t ∧
      rows settings (Location.path output) directives.tail env t = .ok () t' ∧
      Turns settings env output t (directives.tail.map Directive.action) t' ∧
      t'.store.Tree ∧ Packed env output t' s' report := by
  obtain ⟨line, name, rest, rfl, _, hlater⟩ := Script.parse_shape hparse
  obtain ⟨_, t₁, hstart, h₁⟩ := Act.bind_ok.mp h
  obtain ⟨_, t₂, hnote, h₂⟩ := Act.bind_ok.mp h₁
  obtain ⟨p, t, hprepare, h₃⟩ := Act.bind_ok.mp h₂
  obtain ⟨_, t₃, hdrain, hcomplete⟩ := Act.bind_ok.mp h₃
  obtain ⟨rfl, hbegun⟩ := begin_ok hs hhere hout hstart hnote hprepare
  obtain ⟨t', t'', hkeep, hrows, hkeep'⟩ := drain_ok hdrain
  have hbegun' := hbegun.of_holdings hkeep
  have hturns := rows_turns hsubject hbegun'.plain hbegun'.nul hbegun'.opens.tree hlater hrows
  have htree := hturns.tree hbegun'.opens.tree
  have hdir := hturns.directory hbegun'.opens.directory
  obtain ⟨hstore, _⟩ := State.holdings_inj hkeep'
  have hpacked := complete_ok (hstore ▸ htree) hbegun'.plain hbegun'.nul (hstore ▸ hdir) hcomplete
  exact ⟨t', t'', hbegun', hrows, hturns, htree,
    hpacked.of_holdings htree hbegun'.plain hbegun'.nul hdir hkeep'⟩

end Dossier.Run
