import Dossier.Proofs.Run.Phases
import Dossier.Proofs.Run.Resume

/-!
# Runs that are run again

Without a subject and a threshold nothing that a run has saved is removed again.  So
when it completes, each of its actions is *settled*: its cookies can be read, and its
page is left out or something lies at its destination (`Turns.settled`).

A row whose action is settled *idles*: it makes no call and leaves the store alone, and
all it accounts for is that it skips its destination (`row_idles`).  So a script that
is run again after a run that completed does nothing but open and close its session and
pack the same archive once more (`run_again`).
-/

namespace Dossier

open Script (Directive Source Action)

/-! ## Idling -/

/-- A call that opens or closes a session for requests. -/
def Event.isOfSession : Event → Bool
  | .sessionOpened | .mounted .. | .sessionClosed => true
  | _ => false

/-- A report tells that nothing was saved, and that some things were skipped. -/
structure Report.Idle (report : Report) (skips : List Skip) : Prop where
  fetched : report.fetched = #[]
  refetched : report.refetched = #[]
  bytes : report.bytesWritten = 0
  skips : report.skips.toList = skips

/-- Nothing is done between two states but to make some calls, to skip some things, to
take notes and to set cookies.  No time passes. -/
structure State.Idles (made : Trace) (skips : List Skip) (s s' : State) : Prop where
  store : s'.store = s.store
  trace : s'.trace = s.trace ++ made
  clock : s'.clock = s.clock
  handles : s'.handles = s.handles
  report : s'.report = { s.report with skips := s.report.skips ++ skips.toArray }

variable {settings : Settings} {given : Provided} {env : Environment} {s s' t u : State}
  {output : Location} {made later : Trace} {skips others : List Skip} {action : Action}
  {actions : List Action} {v w : Store.View}

namespace State.Idles

theorem refl (s : State) : State.Idles [] [] s s :=
  ⟨rfl, (List.append_nil _).symm, rfl, rfl, by simp⟩

theorem trans (h : State.Idles made skips s t) (h' : State.Idles later others t u) :
    State.Idles (made ++ later) (skips ++ others) s u where
  store := h'.store.trans h.store
  trace := by rw [h'.trace, h.trace, List.append_assoc]
  clock := h'.clock.trans h.clock
  handles := h'.handles.trans h.handles
  report := by rw [h'.report, h.report]; simp

end State.Idles

open State (Idles)

/-- A browser that is not held need not be closed. -/
theorem Browser.close_of_unheld (h : s.handles = {}) : close env s = .ok () s := by
  obtain ⟨store, clock, trace, notes, handles, cookies, report⟩ := s
  obtain rfl : handles = {} := h
  rfl

/-- Saving leaves something where something was. -/
theorem Store.View.saved_ne_none {l m : Location} {c : Content} (h : v m ≠ none) :
    v.saved l c m ≠ none := by
  obtain ⟨e, he⟩ := Option.ne_none_iff_exists'.mp h
  rw [Store.View.saved]
  split
  · exact Option.some_ne_none _
  · rw [Store.View.opened_of_some he]
    exact Option.some_ne_none _

namespace Run

theorem recordAll_eq (env : Environment) (events : Trace) (s : State) :
    recordAll events env s = .ok () { s with trace := s.trace ++ events } := by
  induction events generalizing s with
  | nil => simp only [List.append_nil]; rfl
  | cons e rest ih =>
      have hrest := ih { s with trace := s.trace ++ [e] }
      simp only [List.append_assoc, List.singleton_append] at hrest
      exact Act.bind_ok.mpr ⟨(), _, rfl, hrest⟩

/-! ## Settled actions -/

/-- Nothing is left to do for an action: its cookies can be read, or its page is left
out or something lies at its destination. -/
def Settled (settings : Settings) (output : Location) (v : Store.View) : Action → Prop
  | .archiveName _ => False
  | .cookies blob => ∃ cookies, Cookies.decode blob = .ok cookies
  | .save source d => settings.leavesOut source = true ∨
      (place output d).Short ∧ v (place output d) ≠ none

theorem Settled.mono (h : Settled settings output v action) (hkept : ∀ l, v l ≠ none → w l ≠ none) :
    Settled settings output w action := by
  cases action with
  | archiveName name => exact h
  | cookies blob => exact h
  | save source d => exact h.imp_right fun ⟨hshort, hthere⟩ => ⟨hshort, hkept _ hthere⟩

/-- An action is settled once it has taken its turn. -/
theorem Turn.settled (h : Turn settings env output s s' action) :
    Settled settings output s'.store.get? action := by
  cases h with
  | cookies decoded _ _ => exact ⟨_, decoded⟩
  | leftOut out _ _ => exact Or.inl out
  | present _ there short _ store _ =>
      exact Or.inr ⟨short, by rw [store, there]; exact Option.some_ne_none _⟩
  | fetched _ _ _ _ short _ view _ =>
      exact Or.inr ⟨short, by rw [view, Store.View.saved, if_pos rfl]; exact Option.some_ne_none _⟩
  | refetched _ _ _ _ short _ view _ =>
      exact Or.inr ⟨short, by rw [view, Store.View.saved, if_pos rfl]; exact Option.some_ne_none _⟩

/-- Without a threshold a turn removes nothing. -/
theorem Turn.kept (hthreshold : settings.threshold = none)
    (h : Turn settings env output s s' action) {l : Location} (hl : s.store.get? l ≠ none) :
    s'.store.get? l ≠ none := by
  cases h with
  | cookies _ store _ => rwa [store]
  | leftOut _ store _ => rwa [store]
  | present _ _ _ _ store _ => rwa [store]
  | fetched _ _ _ _ _ _ view _ => exact view ▸ Store.View.saved_ne_none hl
  | refetched _ _ small _ _ _ _ _ =>
      obtain ⟨_, hsome, _⟩ := small
      rw [hthreshold] at hsome
      cases hsome

/-- Without a threshold actions that have taken their turns are settled at the end, for
nothing of what they saved is removed by those after them. -/
theorem Turns.settled (hthreshold : settings.threshold = none)
    (h : Turns settings env output s actions s') :
    (∀ action ∈ actions, Settled settings output s'.store.get? action) ∧
      ∀ l, s.store.get? l ≠ none → s'.store.get? l ≠ none := by
  induction h with
  | done => exact ⟨nofun, fun _ => id⟩
  | next turn _ ih =>
      exact ⟨List.forall_mem_cons.mpr ⟨turn.settled.mono ih.2, ih.1⟩,
        fun l hl => ih.2 l (turn.kept hthreshold hl)⟩

/-! ## Settled rows -/

/-- A row whose action is settled idles. -/
theorem row_idles (hsubject : settings.subject = none) (hthreshold : settings.threshold = none)
    (hs : s.store.Tree) (ho : ".." ∉ output) (hnul : (Location.path output).holdsNul = false)
    {directive : Directive} (hlater : directive.IsLater)
    (h : Settled settings output s.store.get? directive.action) :
    ∃ t, row settings (Location.path output) directive env s = .ok () t ∧
      Idles [] ([directive.action].filterMap (settings.skipAs "already_present")) s t := by
  obtain ⟨line, action⟩ := directive
  cases action with
  | archiveName name => exact h.elim
  | cookies blob =>
      obtain ⟨cookies, hdecode⟩ := h
      refine ⟨_, Act.bind_ok.mpr ⟨cookies, s, Act.ofExcept_ok.mpr ⟨hdecode, rfl⟩, rfl⟩, ?_⟩
      exact ⟨rfl, (List.append_nil _).symm, rfl, rfl, by simp [List.filterMap, Settings.skipAs]⟩
  | save source d =>
      show ∃ t, save settings (Location.path output) source d env s = .ok () t ∧ _
      cases hout : settings.leavesOut source with
      | true =>
          rw [save_of_leftOut hout]
          refine ⟨_, Act.bind_ok.mpr ⟨(), _, rfl, rfl⟩, rfl, (List.append_nil _).symm, rfl, rfl, ?_⟩
          simp [Settings.skipAs, hout, Report.withSkip]
      | false =>
          obtain ⟨hshort, hthere⟩ := h.resolve_left (by rw [hout]; exact nofun)
          obtain ⟨e, he⟩ := Option.ne_none_iff_exists'.mp hthere
          rw [save_of_wanted hout]
          refine ⟨_, saveIfWanted_of_present env hsubject hthreshold hs ho hnul hlater he hshort
            source, rfl, (List.append_nil _).symm, rfl, rfl, ?_⟩
          simp [Settings.skipAs, hout, Report.withSkip]

/-- Rows whose actions are settled idle, and skip what they would have saved. -/
theorem rows_idle (hsubject : settings.subject = none) (hthreshold : settings.threshold = none)
    (ho : ".." ∉ output) (hnul : (Location.path output).holdsNul = false) :
    ∀ {directives : List Directive} {s : State}, s.store.Tree →
      (∀ directive ∈ directives, directive.IsLater) →
      (∀ directive ∈ directives, Settled settings output s.store.get? directive.action) →
      ∃ t, rows settings (Location.path output) directives env s = .ok () t ∧
        Idles [] ((directives.map Directive.action).filterMap (settings.skipAs "already_present"))
          s t
  | [], s, _, _, _ => ⟨s, rfl, .refl s⟩
  | directive :: rest, s, hs, hlater, hsettled => by
      obtain ⟨hlater₁, hlater₂⟩ := List.forall_mem_cons.mp hlater
      obtain ⟨hsettled₁, hsettled₂⟩ := List.forall_mem_cons.mp hsettled
      obtain ⟨t, hrow, hidle⟩ :=
        @row_idles settings env s output hsubject hthreshold hs ho hnul directive hlater₁ hsettled₁
      rw [← hidle.store] at hs hsettled₂
      obtain ⟨u, hrows, hidles⟩ := rows_idle hsubject hthreshold ho hnul hs hlater₂ hsettled₂
      refine ⟨u, Act.bind_ok.mpr ⟨(), t, hrow, hrows⟩, ?_⟩
      rw [List.map_cons, ← List.singleton_append, List.filterMap_append]
      exact hidle.trans hidles

/-! ## The first run -/

/-- What a run has left: its archive, its output directory, and rows that are settled. -/
structure Leaves (settings : Settings) (env : Environment) (output : Location)
    (directives : List Directive) (t s' : State) (report : Report) : Prop where
  plain : ".." ∉ output
  nul : (Location.path output).holdsNul = false
  short : output.Short
  tree : t.store.Tree
  directory : t.store.get? output = some .directory
  packed : Packed env output t s' report
  settled : ∀ directive ∈ directives, Settled settings output s'.store.get? directive.action

/-- A run that completes without a subject and a threshold leaves its rows settled. -/
theorem run_leaves {text : String} {directives : List Directive} {report : Report}
    (hparse : Script.parse text = .ok directives) (hsubject : settings.subject = none)
    (hthreshold : settings.threshold = none) (hs : s.store.Tree) (hhere : ".." ∉ env.here)
    (hout : output = outputOf settings env directives)
    (hrun : run settings given directives env s = .ok report s') :
    ∃ t, Leaves settings env output directives.tail t s' report := by
  obtain ⟨t, t', hbegun, _, hturns, htree, hpacked⟩ :=
    run_completed hparse hsubject hs hhere hout hrun
  have hkept : ∀ l, t'.store.get? l ≠ none → s'.store.get? l ≠ none := by
    intro l hl
    rw [hpacked.view]
    split
    · exact nofun
    · exact hl
  exact ⟨t', hbegun.plain, hbegun.nul, hbegun.opens.short, htree,
    hturns.directory hbegun.opens.directory, hpacked, fun directive hd =>
      ((hturns.settled hthreshold).1 _ (List.mem_map_of_mem hd)).mono hkept⟩

/-- The archive was written beside the output directory, which is still there. -/
theorem Leaves.directory_after {directives : List Directive} {report : Report}
    (h : Leaves settings env output directives t s' report) (hroot : output ≠ []) :
    s'.store.get? output = some .directory := by
  have hne : output ≠ Packing.archivePlace env output := fun he =>
    Packing.archivePlace_not_below env h.plain hroot (he ▸ List.prefix_refl _)
  rw [h.packed.view, if_neg hne, h.directory]

/-- What a run has left can be completed again, with the same archive. -/
theorem Leaves.complete {directives : List Directive} {report : Report}
    (h : Leaves settings env output directives t s' report) (hroot : output ≠ [])
    {env₂ : Environment} (hsame : env₂.toMachine = env.toMachine) (hstore : u.store = s'.store)
    {seconds : Int} (htold : Duration.between u.report.startTime u.clock = .ok seconds) :
    ∃ report₂ s₂', complete (Location.path output) env₂ u = .ok report₂ s₂' ∧
      s₂'.trace = u.trace ∧ s₂'.store.get? = s'.store.get? ∧
      (∃ path l members, report.archivePath = some path ∧ report₂.archivePath = some path ∧
        s'.store.stat env.here path = .ok (l, .file (.archive members)) ∧
        s₂'.store.stat env₂.here path = .ok (l, .file (.archive members))) ∧
      report₂.fetched = u.report.fetched ∧ report₂.refetched = u.report.refetched ∧
      report₂.bytesWritten = u.report.bytesWritten ∧ report₂.skips = u.report.skips := by
  obtain ⟨path, t', hpack⟩ := h.packed.packs
  obtain ⟨rfl, _, _, _, hview⟩ := Packing.pack_ok h.tree h.plain h.nul h.directory hpack
  have hshown : u.store.get? = t'.store.get? := by
    rw [hstore]
    funext l
    rw [h.packed.view, hview]
  obtain ⟨store, size, hlast, hpack₂⟩ := Packing.pack_again hsame h.tree
    (hstore ▸ h.packed.tree) h.plain hroot h.nul h.directory hpack hshown
  rw [hstore] at hlast
  obtain ⟨notes, hcomplete⟩ := complete_of_pack hpack₂ htold rfl
  refine ⟨_, _, hcomplete, rfl, hlast, ⟨_, _, _, h.packed.path, rfl, h.packed.stat, ?_⟩,
    rfl, rfl, rfl, rfl⟩
  rw [Store.stat_congr hlast, congrArg Machine.here hsame]
  exact h.packed.stat

/-! ## The second run -/

/-- Opening makes nothing where the output directory is there. -/
theorem opening_of_directory (given : Provided) (hs : s.store.Tree) (hhere : ".." ∉ env.here)
    {name : String} (hout : output = (settings.outputRoot.child name).location env.here)
    (hname : (settings.outputRoot.child name).holdsNul = false)
    (hnul : (Location.path output).holdsNul = false) (hshort : output.Short)
    (hdir : s.store.get? output = some .directory) :
    ∃ t, opening settings given name env s = .ok (Location.path output) t ∧ t.store = s.store ∧
      t.trace = s.trace ++ (sessionOf given).events ∧ t.clock = s.clock ∧
      t.handles = s.handles ∧
      t.report = { archiveName := name, status := "started", startTime := s.clock } := by
  have hprepare := fun t (ht : t.store = s.store) =>
    @prepare_of_directory settings env t output (ht ▸ hs) hhere name hout hname hnul hshort
      (ht ▸ hdir)
  refine ⟨_, Act.bind_ok.mpr ⟨(), _, rfl, Act.bind_ok.mpr ⟨(), _, rfl, Act.bind_ok.mpr
    ⟨_, _, hprepare _ rfl, Act.bind_ok.mpr ⟨(), _, recordAll_eq .., rfl⟩⟩⟩⟩, ?_⟩
  exact ⟨rfl, rfl, rfl, rfl, rfl⟩

/-- Rows that idle are drained with no more than the session closed, if no browser is
held that the run would have to close. -/
theorem draining_idles (given : Provided) {p : Path} {directives : List Directive}
    (hhandles : given.browser = false → s.handles = {})
    (hrows : rows settings p directives env s = .ok () t) (hidle : Idles [] skips s t) :
    ∃ u, draining settings given p directives env s = .ok () u ∧
      Idles (sessionOf given).connector.close.events skips s u := by
  have hclose : (if given.browser then pure () else Browser.close : Act Unit) env t = .ok () t := by
    cases hbrowser : given.browser with
    | true => rfl
    | false => exact Browser.close_of_unheld (hidle.handles.trans (hhandles hbrowser))
  refine ⟨_, Act.andAlways_ok.mpr ⟨t, Act.andAlways_ok.mpr
    ⟨t, Act.rescue_ok.mpr (Or.inl hrows), hclose⟩, recordAll_eq ..⟩, ?_⟩
  have hclosed := hidle.trans (⟨rfl, rfl, rfl, rfl, by simp⟩ :
    Idles (sessionOf given).connector.close.events [] t
      { t with trace := t.trace ++ (sessionOf given).connector.close.events })
  rwa [List.nil_append, List.append_nil] at hclosed

theorem sessionOf_events (given : Provided) :
    ∀ e ∈ (sessionOf given).events ++ (sessionOf given).connector.close.events,
      e.isOfSession = true := by
  rw [sessionOf]
  split <;> decide

/-- A script that is run again after a run that completed, without a subject and a
threshold, completes on the same machine whatever the network and the browser do now.  It
opens and closes its session and makes no other call, leaves the store as it shows and
its archive with the same members, and reports nothing but that each of its rows is
skipped. -/
theorem run_again (given given₂ : Provided) {text : String} {directives : List Directive}
    (hparse : Script.parse text = .ok directives) (hsubject : settings.subject = none)
    (hthreshold : settings.threshold = none) (hs : s.store.Tree) (hhere : ".." ∉ env.here)
    (hroot : outputOf settings env directives ≠ []) {report : Report}
    (hrun : run settings given directives env s = .ok report s') {env₂ : Environment}
    (hsame : env₂.toMachine = env.toMachine) {s₂ : State} (hstore : s₂.store = s'.store)
    (hclock : s₂.clock.isFinite = true) (hhandles : given₂.browser = false → s₂.handles = {}) :
    ∃ report₂ s₂', run settings given₂ directives env₂ s₂ = .ok report₂ s₂' ∧
      (∃ made, s₂'.trace = s₂.trace ++ made ∧ ∀ e ∈ made, e.isOfSession = true) ∧
      s₂'.store.get? = s'.store.get? ∧
      (∃ path l members, report.archivePath = some path ∧ report₂.archivePath = some path ∧
        s'.store.stat env.here path = .ok (l, .file (.archive members)) ∧
        s₂'.store.stat env₂.here path = .ok (l, .file (.archive members))) ∧
      report₂.Idle
        ((directives.map Directive.action).filterMap (settings.skipAs "already_present")) := by
  obtain ⟨output, hout⟩ : ∃ output, output = outputOf settings env directives := ⟨_, rfl⟩
  rw [← hout] at hroot
  obtain ⟨t, hleft⟩ := run_leaves hparse hsubject hthreshold hs hhere hout hrun
  have hname := holdsNul_of_run hparse hrun
  obtain ⟨line, name, rest, rfl, _, hlater⟩ := Script.parse_shape hparse
  have hhere₂ : env₂.here = env.here := congrArg Machine.here hsame
  have hout₂ : output = (settings.outputRoot.child name).location env₂.here := by
    rw [hhere₂]
    exact hout
  -- it opens, and its rows idle
  obtain ⟨t₂, hopen, hstore₂, htrace₂, hclock₂, hhandles₂, hreport₂⟩ :=
    opening_of_directory given₂ (hstore ▸ hleft.packed.tree) (hhere₂ ▸ hhere) hout₂ hname hleft.nul
      hleft.short (hstore ▸ hleft.directory_after hroot)
  rw [hstore] at hstore₂
  obtain ⟨u, hrows, hidle⟩ := @rows_idle settings env₂ output hsubject hthreshold hleft.plain
    hleft.nul rest t₂ (hstore₂ ▸ hleft.packed.tree) hlater (hstore₂ ▸ hleft.settled)
  obtain ⟨t₃, hdrain, hidles⟩ := draining_idles given₂ (by rwa [hhandles₂]) hrows hidle
  -- it packs the same archive, at the time it was started
  have htold : Duration.between t₃.report.startTime t₃.clock = .ok 0 := by
    rw [hidles.report, hreport₂, hidles.clock, hclock₂]
    exact Duration.between_self hclock
  obtain ⟨report₂, s₂', hcomplete, htrace, hlast, harchive, hfetched, hrefetched, hbytes, hskips⟩ :=
    hleft.complete hroot hsame (hidles.store.trans hstore₂) htold
  have hreport := hidles.report
  rw [hreport₂] at hreport
  rw [run_phases, Act.bind_of_ok hopen, Act.bind_of_ok hdrain]
  refine ⟨report₂, s₂', hcomplete, ⟨_, ?_, sessionOf_events given₂⟩, hlast, harchive, ?_⟩
  · rw [htrace, hidles.trace, htrace₂, List.append_assoc]
  · refine ⟨by rw [hfetched, hreport], by rw [hrefetched, hreport], by rw [hbytes, hreport], ?_⟩
    rw [hskips, hreport]
    simp [List.filterMap, Settings.skipAs]

/-- The script is run again where one of its URLs is not reached any more. -/
theorem twice_again :
    ∃ report s' report₂ s₂', run {} {} twiceScript (echo none) {} = .ok report s' ∧
      run {} {} twiceScript (echo (some "u")) { store := s'.store } = .ok report₂ s₂' ∧
      (∀ e ∈ s₂'.trace, e.isOfSession = true) ∧ s₂'.store.get? = s'.store.get? ∧
      report₂.skips.toList = ["f", "a/p", "f", "a/g"].map fun d => ⟨"already_present", d⟩ := by
  have hends : (run {} {} twiceScript).EndsIn (echo none) {} (fun _ _ => true) = true := by
    decide +kernel
  obtain ⟨report, s', hrun, _⟩ := Act.exists_of_endsIn hends
  have hroot : outputOf {} (echo none) twiceScript ≠ [] := by
    rw [← twice_output none]
    exact List.cons_ne_nil _ _
  have hmachine : (echo (some "u")).toMachine = (echo none).toMachine := rfl
  have hstore : ({ store := s'.store } : State).store = s'.store := rfl
  have hclock : (0 : Float).isFinite = true := by decide +kernel
  obtain ⟨report₂, s₂', hrun₂, ⟨made, htrace, hmade⟩, hshown, _, hidle⟩ :=
    run_again {} {} twiceText_parses rfl rfl (by decide) List.not_mem_nil hroot hrun hmachine
      hstore hclock fun _ => rfl
  refine ⟨report, s', report₂, s₂', hrun, hrun₂, ?_, hshown, hidle.skips⟩
  rw [htrace]
  exact hmade

end Run

end Dossier
