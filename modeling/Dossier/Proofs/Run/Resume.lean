import Dossier.Proofs.Run.Clock
import Dossier.Proofs.Run.Progress

/-!
# Runs that are taken up again

A run that fails on the network leaves what its rows saved up to the one that
failed, and of that row no more than the directories above its destination.  If
the script is run again, in an environment without failures, the rows before
find their destinations there, and the rest are carried out as they would have
been.  So the run completes, with the files and the archive of a run that was
never interrupted (`run_resumed`).

That the second run completes comes down to playable actions: an output
directory that is there need not be made, and packing succeeds or not by what
the store shows (`run_of_playable`).
-/

namespace Dossier.Run

open Script (Directive Source Action)
open Act (Total)

variable {settings : Settings} {given : Provided} {env : Environment} {s s' t : State}
  {output : Location} {bodies pages : String → Bytes}

/-! ## Packing -/

/-- A run whose output directory is packed completes if its time can be told. -/
theorem complete_of_pack {p path : Path} {seconds : Int} {last : Report}
    (hpack : Packing.pack p env s = .ok path t)
    (hclock : Duration.between t.report.startTime t.clock = .ok seconds)
    (hlast : last = ({ t.report with archivePath := some path } : Report).conclude "completed"
      t.clock) :
    ∃ notes, complete p env s = .ok last { t with notes := notes, report := last } := by
  have htold : Duration.between (closingReport t.report path t.clock).startTime t.clock =
      .ok seconds := hclock
  obtain rfl : last = closingReport t.report path t.clock := hlast
  simp only [complete_eq, hpack, htold]
  exact ⟨_, rfl⟩

/-! ## Runs that complete -/

/-- The output directory of a script is named by a path without NUL. -/
theorem holdsNul_of_run {report : Report} {text : String} {directives : List Directive}
    (hparse : Script.parse text = .ok directives)
    (h : run settings given directives env s = .ok report s') :
    (settings.outputRoot.child (Script.archiveName directives)).holdsNul = false := by
  obtain ⟨line, name, rest, rfl, _, _⟩ := Script.parse_shape hparse
  obtain ⟨_, _, _, h₁⟩ := Act.bind_ok.mp h
  obtain ⟨_, _, _, h₂⟩ := Act.bind_ok.mp h₁
  obtain ⟨_, _, hprepare, _⟩ := Act.bind_ok.mp h₂
  obtain ⟨_, _, hresolve, _⟩ := Act.bind_ok.mp hprepare
  obtain ⟨_, _, hcheck, _⟩ := Act.bind_ok.mp hresolve
  exact (Disk.checkPath_ok.mp hcheck).1

/-- An output directory that is there need not be made. -/
theorem prepare_of_directory (hs : s.store.Tree) (hhere : ".." ∉ env.here) {name : String}
    (hout : output = (settings.outputRoot.child name).location env.here)
    (hname : (settings.outputRoot.child name).holdsNul = false)
    (hnul : (Location.path output).holdsNul = false) (hshort : output.Short)
    (hdir : s.store.get? output = some .directory) :
    prepare settings name env s = .ok (Location.path output)
      { s with notes := s.notes ++ [.workingIn (Location.path output)] } := by
  have hresolve : resolve (settings.outputRoot.child name) env s =
      .ok (Location.path output) s := by
    rw [resolve_eq hs.linkFree, hname, ← hout]
    rfl
  have hmake : Disk.during (.createOutput (Location.path output))
      (Disk.ensureDirectories (Location.path output)) env s = .ok () s :=
    Disk.during_ok.mpr (Disk.ensureDirectories_ok.mpr ⟨hnul, _,
      Store.ensureDirectories_of_directory env.here hs (hout ▸ plain_location hhere _) hshort hnul
        hdir, rfl⟩)
  exact Act.bind_ok.mpr ⟨_, s, hresolve, Act.bind_ok.mpr ⟨(), s, hmake, rfl⟩⟩

theorem total_recordAll : ∀ events : Trace, Total env (recordAll events)
  | [] => .pure ()
  | e :: rest => (Act.total_record e).bind fun _ => total_recordAll rest

/-- Rows that are carried out are drained. -/
theorem drain_of_rows (given : Provided) (henv : env.Flawless) {p : Path}
    {directives : List Directive}
    (h : ∀ t, t.holdings = s.holdings → ∃ t', rows settings p directives env t = .ok () t') :
    ∃ s', drain settings given p directives env s = .ok () s' := by
  have hclose : Total env (if given.browser then pure () else Browser.close) :=
    .ite (.pure ()) henv.total_close
  obtain ⟨_, t, hopened⟩ := total_recordAll
    (if given.session then ⟨{}, [], none⟩ else Connector.getSession {}).events s
  obtain ⟨t', hrows⟩ := h t ((keeps_recordAll _).ok hopened)
  obtain ⟨_, t₁, hclosed⟩ := hclose t'
  obtain ⟨_, t₂, hlast⟩ := total_recordAll
    (if given.session then ⟨{}, [], none⟩ else Connector.getSession {}).connector.close.events t₁
  exact ⟨t₂, Act.bind_ok.mpr ⟨(), t, hopened, Act.andAlways_ok.mpr
    ⟨t₁, Act.andAlways_ok.mpr ⟨t', Act.rescue_ok.mpr (Or.inl hrows), hclosed⟩, hlast⟩⟩⟩

theorem scene_of_holdings (h : s.holdings = t.holdings) : s.scene = t.scene := by
  obtain ⟨hstore, hacc⟩ := State.holdings_inj h
  rw [State.scene, State.scene, hstore]
  exact congrArg (Scene.mk _) (congrArg Accounts.cookies hacc)

/-- Rows whose actions are playable are drained, and lead to the scene that their
actions do. -/
theorem drain_of_playable (given : Provided) (henv : env.Flawless)
    (hserves : env.Serves bodies pages) (hsubject : settings.subject = none)
    (hthreshold : settings.threshold = none) {directives : List Directive}
    (hlater : ∀ directive ∈ directives, directive.IsLater) (hbegun : Begun output s t)
    (hplay : Playable settings bodies pages output t.scene (directives.map Directive.action)) :
    ∃ t', drain settings given (Location.path output) directives env t = .ok () t' ∧
      t'.store.Tree ∧
      t'.scene = settings.played bodies pages output t.scene (directives.map Directive.action) := by
  obtain ⟨t', hdrain⟩ := drain_of_rows (s := t) given henv fun u hkeep =>
    rows_of_playable henv hserves hsubject hthreshold hbegun.plain hbegun.nul hlater
      (hbegun.of_holdings hkeep).opens.tree (by rw [scene_of_holdings hkeep]; exact hplay)
  obtain ⟨u, u', hkeep, hrows, hkeep'⟩ := drain_ok hdrain
  have hopens := (hbegun.of_holdings hkeep).opens
  have hturns := rows_turns hsubject hbegun.plain hbegun.nul hopens.tree hlater hrows
  refine ⟨t', hdrain, (State.holdings_inj hkeep').1 ▸ hturns.tree hopens.tree, ?_⟩
  rw [scene_of_holdings hkeep', hturns.plays hthreshold hserves, scene_of_holdings hkeep]

/-- A run of playable actions completes in an output directory that is there, if
what its actions lead to can be packed. -/
theorem run_of_playable (given : Provided) {text : String} {directives : List Directive}
    (henv : env.Flawless) (hserves : env.Serves bodies pages) (hsteady : env.Steady s.clock)
    (hparse : Script.parse text = .ok directives) (hsubject : settings.subject = none)
    (hthreshold : settings.threshold = none) (hs : s.store.Tree) (hhere : ".." ∉ env.here)
    (hout : output = outputOf settings env directives)
    (hname : (settings.outputRoot.child (Script.archiveName directives)).holdsNul = false)
    (hnul : (Location.path output).holdsNul = false) (hshort : output.Short)
    (hdir : s.store.get? output = some .directory)
    (hplay : Playable settings bodies pages output ⟨s.store.get?, {}⟩
      (directives.tail.map Directive.action))
    {u u' : State} {path : Path} (hu : u.store.Tree)
    (hview : (settings.played bodies pages output ⟨s.store.get?, {}⟩
      (directives.tail.map Directive.action)).view = u.store.get?)
    (hpack : Packing.pack (Location.path output) env u = .ok path u') :
    ∃ report s', run settings given directives env s = .ok report s' := by
  obtain ⟨line, name, rest, rfl, _, hlater⟩ := Script.parse_shape hparse
  -- the output directory is there
  obtain ⟨t₁, hstart⟩ : ∃ t₁, start name env s = .ok () t₁ := ⟨_, rfl⟩
  obtain ⟨t₂, hnote⟩ : ∃ t₂, Act.note (.options settings) env t₁ = .ok () t₂ := ⟨_, rfl⟩
  have hstore : t₂.store = s.store := by
    rw [Act.modify_ok.mp hnote, Act.modify_ok.mp hstart]
  obtain ⟨t, hprepare⟩ : ∃ t, prepare settings name env t₂ = .ok (Location.path output) t :=
    ⟨_, prepare_of_directory (hstore ▸ hs) hhere hout hname hnul hshort (hstore ▸ hdir)⟩
  have hbegun := (begin_ok hs hhere hout hstart hnote hprepare).2
  have hscene : t.scene = ⟨s.store.get?, {}⟩ := by
    rw [State.scene, hbegun.opens.view, Store.View.opened_of_directory hs hdir, hbegun.cookies]
  -- the rows are carried out
  obtain ⟨t₃, hdrain, htree, hplayed⟩ := drain_of_playable given henv hserves hsubject hthreshold
    hlater hbegun (hscene ▸ hplay)
  have hlast : t₃.store.get? = u.store.get? := by
    rw [← hview, ← hscene]
    exact congrArg Scene.view hplayed
  -- what they leave is packed, and the time is told
  have hdir' : u.store.get? output = some .directory := by
    rw [← hview]
    exact played_of_some hdir
  obtain ⟨t₄, hpacked⟩ := Packing.pack_congr hu htree hbegun.plain hnul hdir' hlast.symm hpack
  have hlater : env.Later t₁ t₄ :=
    env.chained_later.trans ((later_note _).ok hnote) (env.chained_later.trans
      ((env.inward_later.follows_prepare name).ok hprepare) (env.chained_later.trans
        ((later_drain _ _).ok hdrain) ((env.inward_later.follows_pack _).ok hpacked)))
  obtain ⟨hreport, hpasses⟩ := hlater
  have hclock : t₁.report.startTime = s.clock ∧ t₁.clock = s.clock := by
    rw [Act.modify_ok.mp hstart]
    exact ⟨rfl, rfl⟩
  rw [hclock.2] at hpasses
  obtain ⟨seconds, hseconds⟩ := hsteady _ hpasses
  obtain ⟨notes, hcomplete⟩ :=
    complete_of_pack hpacked (by rw [hreport, hclock.1]; exact hseconds) rfl
  exact ⟨_, _, Act.bind_ok.mpr ⟨(), t₁, hstart, Act.bind_ok.mpr ⟨(), t₂, hnote,
    Act.bind_ok.mpr ⟨_, t, hprepare, Act.bind_ok.mpr ⟨(), t₃, hdrain, hcomplete⟩⟩⟩⟩⟩

/-! ## Taking up a run -/

theorem Begun.scene (h : Begun output s t) :
    t.scene = ⟨Store.View.opened s.store.get? output, {}⟩ := by
  rw [State.scene, h.opens.view, h.cookies]

/-- What packing leaves depends on what there was to see. -/
theorem Packed.congr {u u' : State} {report other : Report} (h : Packed env output s s' report)
    (h' : Packed env output u u' other) (hs : s.store.Tree) (hu : u.store.Tree)
    (hview : s.store.get? = u.store.get?) :
    s'.store.get? = u'.store.get? ∧ ∃ path l members, report.archivePath = some path ∧
      other.archivePath = some path ∧
      s'.store.stat env.here path = .ok (l, .file (.archive members)) ∧
      u'.store.stat env.here path = .ok (l, .file (.archive members)) := by
  have harchive : Packing.archiveOf output s.store = Packing.archiveOf output u.store := by
    rw [Packing.archiveOf, Packing.archiveOf,
      Store.filesBelow_congr hs hu fun l _ => congrFun hview l]
  constructor
  · funext l
    rw [h.view, h'.view, harchive, hview]
  · exact ⟨_, _, _, h.path, h'.path, h.stat, by rw [h'.stat, ← harchive]; rfl⟩

/-- The output directory is there where a run was stopped. -/
theorem Stopped.directory {t u : State} {before : List Directive} {directive : Directive}
    {fault : NetworkFault} {d : String}
    (h : Stopped settings env output s t u s' before directive fault d) :
    s'.store.get? output = some .directory := by
  rw [h.view]
  exact Store.View.opened_of_some (h.turns.directory h.begun.opens.directory)

/-- Actions that are playable from where a run began are playable from where it
was stopped, and end in the same scene. -/
theorem Stopped.resume (hthreshold : settings.threshold = none) (hserves : env.Serves bodies pages)
    {t u : State} {before after : List Directive} {directive : Directive} {fault : NetworkFault}
    {d : String} (h : Stopped settings env output s t u s' before directive fault d)
    (hplay : Playable settings bodies pages output t.scene
      ((before ++ directive :: after).map Directive.action)) :
    Playable settings bodies pages output ⟨s'.store.get?, {}⟩
        ((before ++ directive :: after).map Directive.action) ∧
      settings.played bodies pages output ⟨s'.store.get?, {}⟩
          ((before ++ directive :: after).map Directive.action) =
        settings.played bodies pages output t.scene
          ((before ++ directive :: after).map Directive.action) := by
  have hu := h.turns.plays hthreshold hserves
  have hfree : u.scene.view (place output d) = none := h.free
  have hview : s'.store.get? = Store.View.opened u.scene.view (place output d).dropLast := h.view
  rw [hu] at hfree hview
  rw [List.map_append, List.map_cons, h.action] at hplay ⊢
  exact hplay.resume ⟨s'.store.get?, {}⟩ rfl hfree hview (by rw [h.begun.scene])

/-- A run that failed on the network and is taken up where nothing fails ends as
a run that was never interrupted: it completes, shows the same store, and its
archive has the same members. -/
theorem run_resumed (given given₀ given₂ : Provided) {text : String} {directives : List Directive}
    (hparse : Script.parse text = .ok directives) (hsubject : settings.subject = none)
    (hthreshold : settings.threshold = none) {env₀ : Environment} (hhere : ".." ∉ env.here)
    (hsame : env₀.here = env.here) (hserves : env.Serves bodies pages)
    (hserves₀ : env₀.Serves bodies pages) (hflawless : env₀.Flawless)
    {s₀ s₀' s₁ s₂ : State} {fault : NetworkFault} {report₀ : Report} (hs : s.store.Tree)
    (hbroken : run settings given directives env s = .error (.network fault) s₁)
    (hstore₀ : s₀.store = s.store)
    (hwhole : run settings given₀ directives env₀ s₀ = .ok report₀ s₀')
    (hstore₂ : s₂.store = s₁.store) (hsteady : env₀.Steady s₂.clock) :
    ∃ report₂ s₂', run settings given₂ directives env₀ s₂ = .ok report₂ s₂' ∧
      s₂'.store.get? = s₀'.store.get? ∧
      ∃ path l members, report₂.archivePath = some path ∧ report₀.archivePath = some path ∧
        s₂'.store.stat env₀.here path = .ok (l, .file (.archive members)) ∧
        s₀'.store.stat env₀.here path = .ok (l, .file (.archive members)) := by
  obtain ⟨output, hout⟩ : ∃ output, output = outputOf settings env directives := ⟨_, rfl⟩
  have hout₀ : output = outputOf settings env₀ directives := by rw [hout, outputOf, outputOf, hsame]
  have hhere₀ : ".." ∉ env₀.here := hsame ▸ hhere
  -- the run that failed
  obtain ⟨before, directive, after, t, u, d, htail, hstopped⟩ :=
    run_stopped hparse hsubject hthreshold hs hhere hout hbroken
  -- the run that was never interrupted
  obtain ⟨t₀, t₀', hbegun₀, _, hturns₀, htree₀, hpacked₀⟩ :=
    run_completed hparse hsubject (hstore₀ ▸ hs) hhere₀ hout₀ hwhole
  have hscene : t₀.scene = t.scene := by rw [hbegun₀.scene, hstopped.begun.scene, hstore₀]
  have hend : settings.played bodies pages output t.scene (directives.tail.map Directive.action) =
      t₀'.scene := by
    rw [← hscene]
    exact (hturns₀.plays hthreshold hserves₀).symm
  -- its actions can be taken from where the other one failed
  have hplay := hturns₀.playable hthreshold hserves₀
  rw [hscene, htail] at hplay
  obtain ⟨hplay₂, hsame₂⟩ := hstopped.resume hthreshold hserves hplay
  rw [← htail, ← hstore₂] at hplay₂ hsame₂
  have htree₂ : s₂.store.Tree := hstore₂ ▸ hstopped.tree
  have hdir : s₂.store.get? output = some .directory := hstore₂ ▸ hstopped.directory
  obtain ⟨_, _, hpacks⟩ := hpacked₀.packs
  obtain ⟨report₂, s₂', hrun⟩ := run_of_playable given₂ hflawless hserves₀ hsteady hparse hsubject
    hthreshold htree₂ hhere₀ hout₀ (holdsNul_of_run hparse hwhole) hstopped.begun.nul
    hstopped.begun.opens.short hdir hplay₂ htree₀ (congrArg Scene.view (hsame₂.trans hend)) hpacks
  -- where it ends
  obtain ⟨t₂, t₂', hbegun₂, _, hturns₂, htree₂', hpacked₂⟩ :=
    run_completed hparse hsubject htree₂ hhere₀ hout₀ hrun
  have hend₂ : t₂'.scene = t₀'.scene := by
    rw [hturns₂.plays hthreshold hserves₀, hbegun₂.scene,
      Store.View.opened_of_directory htree₂ hdir, hsame₂, hend]
  exact ⟨report₂, s₂', hrun, hpacked₂.congr hpacked₀ htree₂' htree₀ (congrArg Scene.view hend₂)⟩

/-! ## A run that is taken up -/

theorem echo_flawless : (echo none).Flawless where
  browser := rfl
  reply trace := by
    simp only [echo]
    split
    · exact ⟨_, rfl, rfl⟩
    · exact ⟨{}, rfl, rfl⟩
  react trace := by
    simp only [echo]
    split <;> rfl
  prints trace url timeout file format := by
    simp only [echo, List.reverse_append, List.reverse_cons, List.reverse_nil, List.nil_append,
      List.cons_append]
    exact ⟨_, rfl⟩

/-- No time passes where texts are echoed. -/
theorem echo_steady (unreachable : Option String) : (echo unreachable).Steady 0 := by
  have hstill : ∀ {start now : Float}, (echo unreachable).Passes start now →
      start = 0 → now = 0 := by
    intro start now h hstart
    induction h with
    | refl => exact hstart
    | reply _ trace ih =>
        have htakes : ((echo unreachable).reply trace).takes = 0 := by
          simp only [echo]
          split
          · split <;> rfl
          · rfl
        rw [ih, htakes]
        decide +kernel
    | react _ trace ih =>
        have htakes : ((echo unreachable).react trace).takes = 0 := by
          simp only [echo]
          split <;> rfl
        rw [ih, htakes]
        decide +kernel
  intro now h
  rw [hstill h rfl]
  have htold : (Duration.between 0 0).toOption.isSome = true := by decide +kernel
  cases hseconds : Duration.between 0 0 with
  | ok seconds => exact ⟨seconds, rfl⟩
  | error e =>
      rw [hseconds] at htold
      cases htold

/-- A script that stopped at its last row is taken up. -/
theorem twice_resumed :
    ∃ fault s₁ report₀ s₀' report₂ s₂',
      run {} {} twiceScript (echo (some "v")) {} = .error (.network fault) s₁ ∧
      run {} {} twiceScript (echo none) {} = .ok report₀ s₀' ∧
      run {} {} twiceScript (echo none) { store := s₁.store } = .ok report₂ s₂' ∧
      s₂'.store.get? = s₀'.store.get? ∧
      ∃ path l members, report₂.archivePath = some path ∧ report₀.archivePath = some path ∧
        s₂'.store.stat [] path = .ok (l, .file (.archive members)) ∧
        s₀'.store.stat [] path = .ok (l, .file (.archive members)) := by
  have hends : (run {} {} twiceScript).EndsIn (echo none) {} (fun _ _ => true) = true := by
    decide +kernel
  obtain ⟨report₀, s₀', hwhole, _⟩ := Act.exists_of_endsIn hends
  have hbreaks : (run {} {} twiceScript).BreaksIn (echo (some "v")) {} (fun fault _ =>
      match fault with
      | .network _ => true
      | _ => false) = true := by
    decide +kernel
  obtain ⟨fault, s₁, hbroken, hnetwork⟩ := Act.exists_of_breaksIn hbreaks
  cases fault with
  | network cause =>
      have hhere : (echo none).here = (echo (some "v")).here := rfl
      have hstore : ({ store := s₁.store } : State).store = s₁.store := rfl
      obtain ⟨report₂, s₂', hrun, hsame⟩ := run_resumed {} {} {} twiceText_parses rfl rfl
        List.not_mem_nil hhere (echo_serves _) (echo_serves _) echo_flawless (by decide) hbroken
        rfl hwhole hstore (echo_steady none)
      exact ⟨cause, s₁, report₀, s₀', report₂, s₂', hbroken, hwhole, hrun, hsame⟩
  | _ => cases hnetwork

end Dossier.Run
