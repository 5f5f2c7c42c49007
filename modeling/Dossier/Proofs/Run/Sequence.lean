import Dossier.Proofs.Run.Release

/-!
# The order of calls

A run makes its calls row by row.  A row that saves a file requests its URL at most once
and calls on no browser.  A row that saves a page opens at most one context, visits at most
one URL and requests none.  All other rows call for nothing.  So the URLs that a run asks
for are some of those of its rows, in the order of the script, and after a row that fails
it asks for none.

The driver is started and a browser launched by the first page that is fetched, and never
again: a launch that fails ends the run, and a browser that is launched is held until the
rows are done (`rows_launchOnce`).  If no page is fetched there is no launch
(`rows_unlaunched`).
-/

namespace Dossier

open Script (Directive Source Action)
open Act (Chained Follows Keeps)

/-! ## Events -/

namespace Event

/-- The URL that is requested or visited. -/
def url? : Event → Option String
  | .requested url _ _ => some url
  | .visited url _ => some url
  | _ => none

/-- A URL is requested or visited, or a context is opened for one. -/
def isAsk : Event → Bool
  | .requested .. | .contextOpened | .visited .. => true
  | _ => false

/-- The driver is started or a browser is launched. -/
def isLaunch : Event → Bool
  | .driverStarted | .browserLaunched _ => true
  | _ => false

end Event

/-- The URL that an action asks for. -/
def Script.Action.url? : Action → Option String
  | .save (.file url) _ => some url
  | .save (.page url) _ => some url
  | _ => none

variable {α β : Type} {settings : Settings} {given : Provided} {env : Environment}
  {s s' t : State} {p : Path} {directives : List Directive} {action : Action}
  {events before : Trace} {cookies : Cookies}

/-! ## What a row calls for -/

/-- Events that are modest for an action: one request for a file, one visit in a context of
its own for a page, and nothing for anything else. -/
def Modest (settings : Settings) : Action → Trace → Prop
  | .save (.file url) _, events => ∃ headers,
    events <+: [.requested url headers settings.requestTimeout, .responseClosed url]
  | .save (.page url) _, events =>
    events.filter Event.isAsk <+: [.contextOpened, .visited url settings.navigationTimeout]
  | _, events => events = []

theorem Event.isAsk_of_isUpkeep {e : Event} (h : e.isUpkeep = true) : e.isAsk = false := by
  cases e <;> first | rfl | cases h

theorem asks_upkeep (h : ∀ e ∈ events, e.isUpkeep = true) : events.filter Event.isAsk = [] :=
  List.filter_eq_nil_iff.mpr fun e he => by simp [Event.isAsk_of_isUpkeep (h e he)]

/-- The URLs that are asked for are those of the events that ask. -/
theorem urls_asks (events : Trace) :
    events.filterMap Event.url? = (events.filter Event.isAsk).filterMap Event.url? := by
  rw [List.filterMap_filter]
  refine List.filterMap_congr fun e _ => ?_
  cases e <;> rfl

theorem Gives.asks {url : String} (h : Gives url cookies events) :
    events.filter Event.isAsk = [] := by
  cases h <;> rfl

/-- Printing a page opens a context and visits the page, as far as it goes. -/
theorem Prints.asks {url : String} (h : Prints settings env before url cookies events) :
    events.filter Event.isAsk <+: [.contextOpened, .visited url settings.navigationTimeout] := by
  cases h with
  | unopened _ => exact ⟨[.visited url settings.navigationTimeout], rfl⟩
  | hostless _ _ _ => exact ⟨[.visited url settings.navigationTimeout], rfl⟩
  | @visited made stage file _ gives stages =>
      have hstage : stage.filter Event.isAsk <+: [.visited url settings.navigationTimeout] :=
        stages.filter Event.isAsk
      have hall : (Event.contextOpened :: (made ++ stage) ++ [Event.contextClosed]).filter
          Event.isAsk = .contextOpened :: stage.filter Event.isAsk := by
        rw [List.filter_append, List.filter_cons_of_pos rfl, List.filter_append, gives.asks]
        exact List.append_nil _
      rw [hall]
      exact (List.prefix_cons_inj _).mpr hstage

/-- The errand of an action is modest. -/
theorem Errand.modest (h : Errand settings env before cookies action events) :
    Modest settings action events := by
  cases h with
  | idle =>
      cases action with
      | archiveName name => rfl
      | cookies blob => rfl
      | save source d =>
          cases source with
          | file url => exact ⟨[], List.nil_prefix⟩
          | page url => exact List.nil_prefix
          | text content => rfl
  | request _ first => exact ⟨_, first⟩
  | launch upkeep =>
      show List.filter _ _ <+: _
      rw [asks_upkeep upkeep]
      exact List.nil_prefix
  | page upkeep prints =>
      show List.filter _ _ <+: _
      rw [List.filter_append, asks_upkeep upkeep]
      exact prints.asks

/-- An action asks for its own URL at most, and once. -/
theorem Modest.urls (h : Modest settings action events) :
    (events.filterMap Event.url?).Sublist action.url?.toList := by
  cases action with
  | archiveName name => rw [show events = [] from h]; exact .slnil
  | cookies blob => rw [show events = [] from h]; exact .slnil
  | save source d =>
      cases source with
      | file url =>
          obtain ⟨headers, hmade⟩ := h
          exact (hmade.filterMap Event.url?).sublist
      | page url =>
          have hasks : events.filter Event.isAsk <+:
              [.contextOpened, .visited url settings.navigationTimeout] := h
          rw [urls_asks]
          exact (hasks.filterMap Event.url?).sublist
      | text content => rw [show events = [] from h]; exact .slnil

/-! ## Launches -/

/-- The launches so far. -/
def State.launches (s : State) : Trace := s.trace.filter Event.isLaunch

/-- What a launch changes: the launches so far, and the handles. -/
def State.launching (s : State) : Trace × Handles := (s.launches, s.handles)

theorem State.launching_of_dealings {s t : State} (h : t.dealings = s.dealings) :
    t.launching = s.launching := by
  rw [launching, launching, launches, launches, State.trace_of_dealings h]
  exact congrArg (Prod.mk _) (congrArg Dealings.handles h)

theorem Act.Keeps.launching {act : Act α} (h : Keeps State.dealings act) :
    Keeps State.launching act := fun env s => State.launching_of_dealings (h env s)

namespace Act

theorem launching_record {e : Event} (he : e.isLaunch = false) :
    Keeps State.launching (record e) := fun _ s => by
  show ((s.trace ++ [e]).filter Event.isLaunch, s.handles) = _
  rw [List.filter_append, List.filter_cons_of_neg (by simp [he])]
  exact congrArg (Prod.mk · s.handles) (List.append_nil _)

theorem launching_browse {e : Event} (he : e.isLaunch = false) :
    Keeps State.launching (browse e) := fun env s => launching_record he env s

theorem launching_request {e : Event} (he : e.isLaunch = false) :
    Keeps State.launching (request e) := fun env s => launching_record he env s

theorem launching_settle (reaction : Reaction) : Keeps State.launching (settle reaction) := by
  intro env
  unfold settle
  split
  · exact .throw (.part _) _
  · exact .pure (.part _) ()

end Act

theorem Browser.launching_call {e : Event} (he : e.isLaunch = false) :
    Keeps State.launching (call e) := fun env =>
  .bind (.part _) (Act.launching_browse he env) fun reaction => Act.launching_settle reaction env

namespace Saving

theorem launching_file (url : String) (file : Path) (cookies : Cookies) (timeout : Timeout) :
    Keeps State.launching (Saving.file url file cookies timeout) := fun env =>
  .bind (.part _) ((Disk.deals_ensureParent file).launching env) fun _ =>
    .bind (.part _) (.bind (.part _) (Act.launching_request rfl env) fun _ =>
      .ofExcept (.part _) _ _) fun response =>
      .andAlways (.part _) ((deals_receive url file response).launching env)
        (Act.launching_record rfl env)

theorem launching_visit (settings : Settings) (url : String) (file : Path) (cookies : Cookies) :
    Keeps State.launching (visit settings url file cookies) := fun env =>
  .bind (.part _) (.ite (.pure (.part _) ()) (.bind (.part _) (.ofExcept (.part _) _ _) fun _ =>
    Browser.launching_call rfl env)) fun _ =>
      .bind (.part _) (Browser.launching_call rfl env) fun _ =>
        .bind (.part _) (Browser.launching_call rfl env) fun _ =>
          .bind (.part _) (Act.launching_browse rfl env) fun reaction =>
            .bind (.part _) ((deals_keepOutput file reaction).launching env) fun _ =>
              Act.launching_settle reaction env

theorem launching_print (settings : Settings) (url : String) (file : Path) (cookies : Cookies) :
    Keeps State.launching (print settings url file cookies) := fun env =>
  .bind (.part _) ((Browser.launching_call rfl env).mapFault _) fun _ =>
    .andAlways (.part _) ((launching_visit settings url file cookies env).mapFault _)
      (Browser.launching_call rfl env)

end Saving

/-! ### Launching once -/

/-- An act launches the browser at most once from a state, and not if a browser is held.  If
it ends well, it either holds a browser then or has not launched one. -/
def Act.LaunchesOnce (settings : Settings) (env : Environment) (s : State) (act : Act α) : Prop :=
  ∃ made, (act.final env s).launches = s.launches ++ made ∧
    made <+: [.driverStarted, .browserLaunched settings.headless] ∧
    (s.handles.browser = true → made = []) ∧
    ∀ a t, act env s = .ok a t →
      t.handles.browser = true ∨ made = [] ∧ t.handles.browser = s.handles.browser

namespace Act.LaunchesOnce

theorem of_same {act : Act α} (h : (act.final env s).launching = s.launching) :
    LaunchesOnce settings env s act := by
  refine ⟨[], (congrArg Prod.fst h).trans (List.append_nil _).symm, List.nil_prefix, fun _ => rfl,
    fun a t hact => Or.inr ⟨rfl, ?_⟩⟩
  rw [final_of_ok hact] at h
  exact congrArg (fun launching => launching.2.browser) h

theorem of_keeps {act : Act α} (h : Keeps State.launching act) : LaunchesOnce settings env s act :=
  of_same (h env s)

/-- Once a browser is held, what comes next launches none. -/
theorem bind {act : Act α} {next : α → Act β} (hact : LaunchesOnce settings env s act)
    (hnext : ∀ a t, act env s = .ok a t → LaunchesOnce settings env t (next a)) :
    LaunchesOnce settings env s (act >>= next) := by
  obtain ⟨made, hmade, hfirst, hheld, hends⟩ := hact
  cases h : act env s with
  | error f t =>
      rw [final_of_error h] at hmade
      refine ⟨made, by rw [final_bind_of_error h, hmade], hfirst, hheld, fun b u hb => ?_⟩
      obtain ⟨_, _, ha, _⟩ := bind_ok.mp hb
      cases h.symm.trans ha
  | ok a t =>
      rw [final_of_ok h] at hmade
      obtain ⟨later, hlater, hfirst', hheld', hends'⟩ := hnext a t h
      have hlast : ∀ {b u}, (act >>= next) env s = .ok b u → next a env t = .ok b u := by
        intro b u hb
        rwa [bind_of_ok h] at hb
      rcases hends a t h with hbrowser | ⟨rfl, hsame⟩
      · obtain rfl := hheld' hbrowser
        refine ⟨made, by rw [final_bind h, hlater, hmade, List.append_nil], hfirst, hheld,
          fun b u hb => Or.inl ?_⟩
        rcases hends' b u (hlast hb) with h' | ⟨_, h'⟩
        · exact h'
        · exact h'.trans hbrowser
      · refine ⟨later, by rw [final_bind h, hlater, hmade, List.append_nil], hfirst',
          fun hb => hheld' (hsame.trans hb), fun b u hb => ?_⟩
        exact (hends' b u (hlast hb)).imp_right fun h' => ⟨h'.1, h'.2.trans hsame⟩

end Act.LaunchesOnce

open Act (LaunchesOnce)

namespace Browser

theorem launches_close (env : Environment) (s : State) :
    (close.final env s).launches = s.launches := by
  obtain ⟨_, htrace⟩ := final_close env s
  rw [State.launches, htrace, List.filter_append, List.filter_append]
  cases s.handles.browser <;> cases s.handles.driver <;> simp [State.launches, Event.isLaunch]

theorem calls_launch (settings : Settings) (env : Environment) :
    Act.Calls env [.driverStarted, .browserLaunched settings.headless] (launch settings) := by
  have hhold : ∀ change, Act.Calls env [] (hold change) := fun _ s =>
    (List.append_nil s.trace).symm
  exact (calls_call .driverStarted).bind fun _ => (hhold _).bind fun _ =>
    (calls_call (.browserLaunched settings.headless)).bind fun _ => hhold _

/-- What a launch that failed has left is closed without a launch. -/
theorem launches_abandon (fault : Fault) (env : Environment) :
    Follows env (fun s s' => s'.launches = s.launches) (abandon fault) := by
  unfold abandon
  split
  · exact .bind (.part _) (launches_close env) fun _ => .throw (.part _) _
  · exact .throw (.part _) _

theorem abandon_ne_ok {fault : Fault} {u : Unit} : ¬ abandon fault env s = .ok u t := by
  unfold abandon
  split
  · intro h
    obtain ⟨_, _, _, hthrow⟩ := Act.bind_ok.mp h
    exact Act.throw_ok hthrow
  · exact Act.throw_ok

/-- Launching starts the driver and launches the browser, as far as it goes, and ends well
only with a browser that is held. -/
theorem launch_once (settings : Settings) (env : Environment) (s : State) :
    ∃ made, (((launch settings).rescue abandon).final env s).launches = s.launches ++ made ∧
      made <+: [.driverStarted, .browserLaunched settings.headless] ∧
      ∀ u t, (launch settings).rescue abandon env s = .ok u t → t.handles.browser = true := by
  obtain ⟨made, hmade, htrace⟩ := (calls_launch settings env).final s
  have hlaunches : ((launch settings).final env s).launches =
      s.launches ++ made.filter Event.isLaunch := by
    rw [State.launches, htrace, List.filter_append]
    rfl
  have hrescued : (((launch settings).rescue abandon).final env s).launches =
      ((launch settings).final env s).launches := by
    cases h : launch settings env s with
    | ok u t => rw [Act.final_of_ok h, Act.final_of_ok (Act.rescue_ok.mpr (Or.inl h))]
    | error f t =>
        rw [Act.final_of_error h, Act.final, Act.rescue, h]
        exact launches_abandon f env t
  refine ⟨made.filter Event.isLaunch, hrescued.trans hlaunches, hmade.filter Event.isLaunch,
    fun u t h => ?_⟩
  rcases Act.rescue_ok.mp h with hlaunch | ⟨_, _, _, habandon⟩
  · obtain ⟨_, _, _, h₁⟩ := Act.bind_ok.mp hlaunch
    obtain ⟨_, _, _, h₂⟩ := Act.bind_ok.mp h₁
    obtain ⟨_, _, _, hhold⟩ := Act.bind_ok.mp h₂
    cases hhold
    rfl
  · exact absurd habandon abandon_ne_ok

/-- Opening the browser launches it unless it is held. -/
theorem ensureOpen_once (settings : Settings) (env : Environment) (s : State) :
    LaunchesOnce settings env s (ensureOpen settings) := by
  cases hbrowser : s.handles.browser with
  | true =>
      refine .of_same ?_
      rw [Act.final_of_ok (ensureOpen_held hbrowser)]
  | false =>
      cases hsome : env.hasBrowser with
      | false =>
          refine .of_same ?_
          rw [Act.final_of_error (ensureOpen_missing hbrowser hsome)]
      | true =>
          obtain ⟨made, hmade, hfirst, hends⟩ :=
            launch_once settings env { s with notes := s.notes ++ [.startingBrowser] }
          have hlaunches := @ensureOpen_launches settings env s hbrowser hsome
          refine ⟨made, ?_, hfirst, fun hheld => absurd hheld (by simp [hbrowser]), fun u t h => ?_⟩
          · rw [Act.final, hlaunches]
            exact hmade
          · rw [hlaunches] at h
            exact Or.inl (hends u t h)

end Browser

namespace Run

/-! ### Rows -/

/-- A row comes to a page that it fetches. -/
def FetchesPage (settings : Settings) (p : Path) (env : Environment) (s : State)
    (directive : Directive) : Prop :=
  ∃ url d decision t, directive.action = .save (.page url) d ∧ settings.skipPages = false ∧
    Verdict.reach settings p d env s = .ok decision t ∧ decision.isFetch = true

theorem fetch_launchOnce (settings : Settings) (source : Source) (file : Path) (env : Environment)
    (s : State) : LaunchesOnce settings env s (fetch settings source file) := by
  refine .bind (.of_keeps fun _ => .get (.part _)) fun a t _ => ?_
  cases source with
  | file url => exact .of_keeps (Saving.launching_file url file _ _)
  | text content => exact .of_keeps (Saving.deals_text content file).launching
  | page url =>
      refine .bind (Browser.ensureOpen_once settings env t) fun _ u _ => ?_
      refine .of_keeps fun env => ?_
      exact .bind (.part _) ((Disk.deals_ensureParent file).launching env) fun _ =>
        .bind (.part _) (Saving.launching_print settings url file _ env) fun _ =>
          ((Chained.part _).follows_size file).mapFault _

/-- Only a page that is fetched is a reason to launch the browser. -/
theorem row_unlaunched {directive : Directive} (h : ¬ FetchesPage settings p env s directive) :
    ((row settings p directive).final env s).launching = s.launching := by
  obtain ⟨line, action⟩ := directive
  cases action with
  | archiveName name => rfl
  | cookies blob =>
      have hkeep : Keeps State.launching (setCookies line blob) := fun _ =>
        .bind (.part _) (.ofExcept (.part _) _ _) fun _ =>
          .bind (.part _) (.modify fun _ => rfl) fun _ => .modify fun _ => rfl
      exact hkeep env s
  | save source d =>
      show ((save settings p source d).final env s).launching = _
      cases hout : settings.leavesOut source with
      | true =>
          rw [save_of_leftOut hout]
          rfl
      | false =>
          rw [save_of_wanted hout, saveIfWanted_eq]
          have hreach := (Verdict.deals_reach settings p d).launching env s
          cases hjudged : Verdict.reach settings p d env s with
          | error fault t =>
              rw [Act.final_of_error hjudged] at hreach
              rw [Act.final_bind_of_error hjudged, hreach]
          | ok decision t =>
              rw [Act.final_of_ok hjudged] at hreach
              rw [Act.final_bind hjudged, ← hreach]
              split
              · rename_i hfetch
                have hkeep : Keeps State.launching (fetch settings source (p.child d)) := by
                  refine fun env => .bind (.part _) (.get (.part _)) fun a => ?_
                  cases source with
                  | file url => exact Saving.launching_file url _ _ _ env
                  | text content => exact (Saving.deals_text content _).launching env
                  | page url => exact absurd ⟨url, d, decision, t, rfl, hout, hjudged, hfetch⟩ h
                have hrest : Keeps State.launching (do
                    announce decision.verdict d
                    acquire settings (p.child d) source d) := fun env =>
                  .bind (.part _) ((deals_announce decision.verdict d).launching env) fun _ =>
                    .bind (.part _) (hkeep env) fun _ =>
                      .bind (.part _) (.modify fun _ => rfl) fun _ => .modify fun _ => rfl
                exact hrest env t
              · exact (deals_skip _ d).launching env t

/-- A row launches the browser at most once. -/
theorem row_launchOnce (settings : Settings) (p : Path) (directive : Directive) (env : Environment)
    (s : State) : LaunchesOnce settings env s (row settings p directive) := by
  by_cases hpage : FetchesPage settings p env s directive
  · obtain ⟨url, d, decision, t, haction, hskip, hjudged, hfetch⟩ := hpage
    simp only [row, haction]
    rw [@save_of_wanted settings (.page url) hskip]
    refine .bind (.of_keeps (Verdict.deals_reach settings p d).launching) fun decision' t' h => ?_
    cases hjudged.symm.trans h
    rw [if_pos hfetch]
    refine .bind (.of_keeps (deals_announce decision.verdict d).launching) fun _ u _ => ?_
    refine .bind (fetch_launchOnce settings (.page url) _ env u) fun _ _ _ => ?_
    exact .of_keeps fun _ => .bind (.part _) (.modify fun _ => rfl) fun _ => .modify fun _ => rfl
  · exact .of_same (row_unlaunched hpage)

theorem rows_launchOnce (settings : Settings) (p : Path) (env : Environment) :
    ∀ (directives : List Directive) (s : State),
      LaunchesOnce settings env s (rows settings p directives)
  | [], _ => .of_keeps fun _ => .pure (.part _) ()
  | directive :: rest, s => .bind (row_launchOnce settings p directive env s) fun _ t _ =>
      rows_launchOnce settings p env rest t

/-- Rows that come to no page that they fetch launch no browser. -/
theorem rows_unlaunched (directives : List Directive) (s : State)
    (h : ∀ v ∈ visits settings p env directives s,
      ¬ FetchesPage settings p env v.before v.directive) :
    ((rows settings p directives).final env s).launches = s.launches := by
  induction directives generalizing s with
  | nil => rfl
  | cons directive rest ih =>
      cases hrow : row settings p directive env s with
      | ok u t =>
          rw [visits_of_ok hrow, List.forall_mem_cons] at h
          have hlaunching := row_unlaunched h.1
          rw [Act.final_of_ok hrow] at hlaunching
          rw [rows, Act.final_bind hrow, ih t h.2]
          exact congrArg Prod.fst hlaunching
      | error fault t =>
          rw [visits_of_error hrow, List.forall_mem_cons] at h
          have hlaunching := row_unlaunched h.1
          rw [Act.final_of_error hrow] at hlaunching
          rw [rows, Act.final_bind_of_error hrow]
          exact congrArg Prod.fst hlaunching

/-! ## Runs -/

theorem sessionOf_unlaunched (given : Provided) :
    (∀ e ∈ (sessionOf given).events, e.isLaunch = false) ∧
      ∀ e ∈ (sessionOf given).connector.close.events, e.isLaunch = false := by
  rw [sessionOf]
  split <;> decide

theorem launches_recordAll {events : Trace} (h : ∀ e ∈ events, e.isLaunch = false) :
    Keeps State.launching (recordAll events) := by
  intro env s
  have hnone : events.filter Event.isLaunch = [] :=
    List.filter_eq_nil_iff.mpr fun e he => by simp [h e he]
  rw [Act.final_of_ok (recordAll_eq env events s)]
  show ((s.trace ++ events).filter Event.isLaunch, s.handles) = _
  rw [List.filter_append, hnone, List.append_nil]
  rfl

theorem launching_opening (name : String) :
    Keeps State.launching (opening settings given name) := fun env =>
  .bind (.part _) (.modify fun _ => rfl) fun _ => .bind (.part _) (.modify fun _ => rfl) fun _ =>
    .bind (.part _) ((deals_prepare name).launching env) fun _ =>
      .bind (.part _) (launches_recordAll (sessionOf_unlaunched given).1 env) fun _ =>
        .pure (.part _) _

/-- A run that has opened launches the browser as its rows do. -/
theorem Opened.launches (h : Opened settings given env s directives p t) :
    t.launches = s.launches ∧ ((run settings given directives).final env s).launches =
      ((rows settings p directives.tail).final env t).launches := by
  have hcomplete : ∀ u : Unit, Keeps State.launches (complete p) := fun _ env s =>
    congrArg (List.filter Event.isLaunch)
      (State.trace_of_dealings (State.inward_dealings.follows_complete p s))
  have hrecord : Keeps State.launches (recordAll (sessionOf given).connector.close.events) :=
    fun env s => congrArg Prod.fst (launches_recordAll (sessionOf_unlaunched given).2 env s)
  have hfail : ∀ fault, Keeps State.launches (fail fault) := fun fault env s =>
    congrArg (List.filter Event.isLaunch)
      (State.trace_of_dealings (State.inward_dealings.follows_fail fault s))
  constructor
  · obtain ⟨_, name, _, _, hopen⟩ := h
    exact congrArg Prod.fst ((launching_opening name).ok hopen)
  · rw [Act.final, h.run_eq, ← Act.final, Keeps.final_bind hcomplete,
      closed_draining Browser.launches_close hrecord, Keeps.final_rescue hfail]

theorem Opened.reached (h : Opened settings given env s directives p t) :
    Run.reached settings given env s directives = visits settings p env directives.tail t := by
  obtain ⟨line, name, rest, rfl, hopen⟩ := h
  simp only [Run.reached, hopen, List.tail_cons]

/-- A run that does not open comes to no row and launches no browser. -/
theorem opens_or_idles (settings : Settings) (given : Provided) (env : Environment) (s : State)
    (directives : List Directive) :
    (∃ p t, Opened settings given env s directives p t) ∨
      reached settings given env s directives = [] ∧
        ((run settings given directives).final env s).launches = s.launches := by
  match directives with
  | [] => exact Or.inr ⟨rfl, rfl⟩
  | ⟨_, .cookies _⟩ :: _ => exact Or.inr ⟨rfl, rfl⟩
  | ⟨_, .save _ _⟩ :: _ => exact Or.inr ⟨rfl, rfl⟩
  | ⟨line, .archiveName name⟩ :: rest =>
      cases hopen : opening settings given name env s with
      | ok p t => exact Or.inl ⟨p, t, line, name, rest, rfl, hopen⟩
      | error fault t =>
          refine Or.inr ⟨by simp only [reached, hopen], ?_⟩
          rw [run_phases, Act.final_bind_of_error hopen, ← Act.final_of_error hopen]
          exact congrArg Prod.fst (launching_opening name env s)

/-- The last row that is come to is the first that fails. -/
theorem visits_of_fails {before : List Directive} {directive : Directive} {u u' : State}
    {cause : Fault} (after : List Directive) (hbefore : rows settings p before env s = .ok () u)
    (hrow : row settings p directive env u = .error cause u') :
    (visits settings p env (before ++ directive :: after) s).map Visit.directive =
      before ++ [directive] := by
  induction before generalizing s with
  | nil =>
      obtain ⟨_, rfl⟩ := Act.pure_ok.mp hbefore
      rw [List.nil_append, visits_of_error hrow]
      rfl
  | cons first rest ih =>
      obtain ⟨_, t, hfirst, hrest⟩ := Act.bind_ok.mp hbefore
      rw [List.cons_append, visits_of_ok hfirst, List.map_cons, ih hrest]
      rfl

/-- Visits whose events are modest ask for the URLs of their rows, in order. -/
theorem urls_of_modest {visits : List Visit}
    (h : ∀ v ∈ visits, Modest settings v.directive.action v.events) :
    ((visits.flatMap Visit.events).filterMap Event.url?).Sublist
      ((visits.map Visit.directive).filterMap fun directive => directive.action.url?) := by
  induction visits with
  | nil => exact .slnil
  | cons v rest ih =>
      obtain ⟨hv, hrest⟩ := List.forall_mem_cons.mp h
      rw [List.flatMap_cons, List.filterMap_append, List.map_cons,
        ← List.singleton_append, List.filterMap_append]
      refine List.Sublist.append ?_ (ih hrest)
      have hurls := hv.urls
      cases hurl : v.directive.action.url? with
      | none => simpa [hurl] using hurls
      | some url => simpa [hurl] using hurls

/-- A row that a run comes to starts where the rows before it are carried out. -/
theorem reached_visited {earlier later : List Visit} {v : Visit}
    (h : reached settings given env s directives = earlier ++ v :: later) :
    ∃ p t, Opened settings given env s directives p t ∧
      rows settings p (earlier.map Visit.directive) env t = .ok () v.before ∧
      (row settings p v.directive).final env v.before = v.after := by
  rcases opens_or_idles settings given env s directives with ⟨p, t, hopened⟩ | ⟨hnone, _⟩
  · rw [hopened.reached] at h
    obtain ⟨hrows, hafter, _⟩ := visits_split h
    exact ⟨p, t, hopened, hrows, hafter⟩
  · simp [hnone] at h

theorem reached_modest {v : Visit} (hv : v ∈ reached settings given env s directives) :
    Modest settings v.directive.action v.events := by
  obtain ⟨earlier, later, h⟩ := List.append_of_mem hv
  obtain ⟨_, _, _, _, hafter⟩ := reached_visited h
  exact (v.errand hafter).2.modest

theorem reached_inOrder (settings : Settings) (given : Provided) (env : Environment) (s : State)
    (directives : List Directive) :
    (reached settings given env s directives).map Visit.directive <+: directives.tail := by
  rcases opens_or_idles settings given env s directives with ⟨p, t, hopened⟩ | ⟨hnone, _⟩
  · rw [hopened.reached]
    exact visits_directives _ t
  · rw [hnone]
    exact List.nil_prefix

/-- Of the calls around the rows none asks for a URL. -/
theorem urls_of_spans {start last opened closed : Trace} {visits : List Visit}
    (h : Spans start last visits opened closed) :
    (opened ++ visits.flatMap Visit.events ++ closed).filterMap Event.url? =
      (visits.flatMap Visit.events).filterMap Event.url? := by
  have hnone : ∀ {events : Trace}, (∀ e ∈ events, e.isUpkeep = true) →
      events.filterMap Event.url? = [] := fun h => by rw [urls_asks, asks_upkeep h]; rfl
  obtain ⟨hopened, hclosed⟩ := List.forall_mem_append.mp h.upkeep
  rw [List.filterMap_append, List.filterMap_append, hnone hopened, hnone hclosed, List.append_nil,
    List.nil_append]

/-- A run launches the browser once at most, and only for a page that it fetches. -/
theorem run_launchOnce {added : Trace}
    (htrace : ((run settings given directives).final env s).trace = s.trace ++ added) :
    added.filter Event.isLaunch <+: [.driverStarted, .browserLaunched settings.headless] ∧
      (added.filter Event.isLaunch ≠ [] → ∃ p t, Opened settings given env s directives p t ∧
        ∃ v ∈ reached settings given env s directives,
          FetchesPage settings p env v.before v.directive) := by
  have hlaunches : ((run settings given directives).final env s).launches =
      s.launches ++ added.filter Event.isLaunch := by
    rw [State.launches, htrace, List.filter_append]
    rfl
  rcases opens_or_idles settings given env s directives with ⟨p, t, hopened⟩ | ⟨_, hsame⟩
  · obtain ⟨hsame, hrows⟩ := hopened.launches
    rw [hlaunches] at hrows
    constructor
    · obtain ⟨made, hmade, hfirst, _⟩ := rows_launchOnce settings p env directives.tail t
      rw [hmade, hsame] at hrows
      exact List.append_cancel_left hrows ▸ hfirst
    · intro hsome
      refine ⟨p, t, hopened, ?_⟩
      by_contra hnone
      simp only [hopened.reached, not_exists, not_and] at hnone
      rw [rows_unlaunched _ _ hnone, hsame] at hrows
      exact hsome (List.append_right_eq_self.mp hrows)
  · rw [hlaunches] at hsame
    rw [List.append_right_eq_self.mp hsame]
    exact ⟨List.nil_prefix, fun hsome => absurd rfl hsome⟩

/-- What a run adds to the trace comes from its rows, one after the other, up to the first
that fails. -/
structure Sequential (settings : Settings) (given : Provided) (env : Environment) (s : State)
    (directives : List Directive) (added : Trace) : Prop where
  /-- The events of the rows that are come to follow each other, with upkeep around them. -/
  spans : ∃ opened closed, Spans s.trace (s.trace ++ added)
    (reached settings given env s directives) opened closed
  /-- The rows that are come to are the first ones. -/
  inOrder : (reached settings given env s directives).map Visit.directive <+: directives.tail
  /-- A row starts when the rows before it are carried out, and its events are over when it
  ends. -/
  visited : ∀ earlier v later, reached settings given env s directives = earlier ++ v :: later →
    ∃ p t, Opened settings given env s directives p t ∧
      rows settings p (earlier.map Visit.directive) env t = .ok () v.before ∧
      (row settings p v.directive).final env v.before = v.after ∧
      v.after.trace = v.before.trace ++ v.events
  /-- A row that fails is the last that is come to. -/
  stops : ∀ p t before directive after u cause u', Opened settings given env s directives p t →
    directives.tail = before ++ directive :: after → rows settings p before env t = .ok () u →
    row settings p directive env u = .error cause u' →
      (reached settings given env s directives).map Visit.directive = before ++ [directive]
  /-- A row calls for no more than its action does. -/
  modest : ∀ v ∈ reached settings given env s directives,
    Modest settings v.directive.action v.events
  /-- The URLs that are requested and visited are some of those of the rows, in order. -/
  urls : (added.filterMap Event.url?).Sublist
    (directives.tail.filterMap fun directive => directive.action.url?)
  /-- The driver is started and the browser launched once at most. -/
  launches : added.filter Event.isLaunch <+: [.driverStarted, .browserLaunched settings.headless]
  /-- They are only if a row comes to a page that it fetches. -/
  launched : added.filter Event.isLaunch ≠ [] →
    ∃ p t, Opened settings given env s directives p t ∧
      ∃ v ∈ reached settings given env s directives,
        FetchesPage settings p env v.before v.directive

/-- A run makes its calls in the order of its rows, each row at most those of its action, and
none after a row that fails.  It launches the browser at most once, and only for a page that
it fetches. -/
theorem run_sequential (settings : Settings) (given : Provided) (env : Environment) (s : State)
    (directives : List Directive) :
    ∃ added, ((run settings given directives).final env s).trace = s.trace ++ added ∧
      Sequential settings given env s directives added := by
  obtain ⟨opened, closed, hspans⟩ := run_trace settings given env s directives
  have hinOrder := reached_inOrder settings given env s directives
  have htrace : ((run settings given directives).final env s).trace = s.trace ++
      (opened ++ (reached settings given env s directives).flatMap Visit.events ++ closed) := by
    rw [hspans.whole]
    simp only [List.append_assoc]
  obtain ⟨hlaunches, hlaunched⟩ := run_launchOnce htrace
  refine ⟨_, htrace, ⟨opened, closed, htrace ▸ hspans⟩, hinOrder, ?_, ?_,
    fun v hv => reached_modest hv, ?_, hlaunches, hlaunched⟩
  · intro earlier v later h
    obtain ⟨p, t, hopened, hrows, hafter⟩ := reached_visited h
    exact ⟨p, t, hopened, hrows, hafter, (v.errand hafter).1⟩
  · intro p t before directive after u cause u' hopened hsplit hbefore hrow
    rw [hopened.reached, hsplit]
    exact visits_of_fails after hbefore hrow
  · rw [urls_of_spans hspans]
    exact (urls_of_modest fun v hv => reached_modest hv).trans (hinOrder.sublist.filterMap _)

end Run

end Dossier
