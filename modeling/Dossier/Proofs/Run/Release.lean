import Dossier.Proofs.Act.Custody
import Dossier.Proofs.Run.Again
import Dossier.Proofs.Run.Visits

/-!
# What a run holds and releases

A run holds a session from its opening to its end, a browser with its driver from the
first page on, and a response or a context while a row is carried out.  Whatever fails,
the calls of a run are orderly, and in the end the run has released once all that it was
given, unless the session or the browser was handed to it (`run_released`).

A row *minds* what is held around it: from a state where a browser is held with its driver
or not at all it leads to such a state, and of the calls it makes none opens or closes a
session or closes a browser.  Only launching a browser, requesting a file and printing a
page have to be looked at for this; all else keeps the dealings of a state.
-/

namespace Dossier

open Script (Directive Source Action)
open Act (Chained Follows Keeps)
open Custody (Orderly Step)
open State (Manages)

variable {settings : Settings} {given : Provided} {env : Environment} {s s' t : State} {p : Path}
  {held : Custody} {before events : Trace} {e : Event} {handles : Handles}

/-! ## Steps -/

namespace Custody

/-- What is given to be held alone is released again. -/
theorem Orderly.enclosed (events : Trace) {r : Resource} {e' : Event} (hfree : held r = false)
    (hopen : Step env before held e (Function.update held r true))
    (huses : ∀ e ∈ events, ∀ before,
      Step env before (Function.update held r true) e (Function.update held r true))
    (hneeds : ∀ x ∈ e'.needs, Function.update held r true x = true)
    (hreleases : e'.releases = some r) (hempty : ∀ inner : Resource, inner.home ≠ some r) :
    Orderly env before held (e :: (events ++ [e'])) held := by
  have hback : Function.update (Function.update held r true) r false = held := by
    rw [Function.update_idem, ← hfree, Function.update_eq_self]
  have hclose : ∀ before, Step env before (Function.update held r true) e' held := by
    intro before
    have h : Step env before (Function.update held r true) e' _ :=
      .release hneeds hreleases fun inner h => absurd h (hempty inner)
    rwa [hback] at h
  exact .cons hopen ((Orderly.of_uses huses).append (.single (hclose _)))

end Custody

namespace Handles

theorem Paired.eq (h : handles.Paired) {held : Bool} (hbrowser : handles.browser = held) :
    handles = ⟨held, held⟩ := by
  obtain ⟨driver, browser⟩ := handles
  obtain rfl : browser = held := hbrowser
  obtain rfl : browser = driver := h
  rfl

variable (handles : Handles) (session held : Bool)

theorem custody_session : Function.update (handles.custody session) .session held =
    handles.custody held := by
  funext r
  cases r <;> rfl

theorem custody_driver : Function.update (handles.custody session) .driver held =
    { handles with driver := held }.custody session := by
  funext r
  cases r <;> rfl

theorem custody_browser : Function.update (handles.custody session) .browser held =
    { handles with browser := held }.custody session := by
  funext r
  cases r <;> rfl

end Handles

/-! ## Browsers -/

namespace Browser

theorem call_of_none (h : (env.react (s.trace ++ [e])).failure = none) :
    ∃ clock, call e env s = .ok () { s with trace := s.trace ++ [e], clock := clock } :=
  ⟨_, by rw [call_eq, h]⟩

theorem call_of_some {message : String}
    (h : (env.react (s.trace ++ [e])).failure = some message) :
    ∃ clock, call e env s =
      .error (.browser message) { s with trace := s.trace ++ [e], clock := clock } :=
  ⟨_, by rw [call_eq, h]⟩

theorem handles_call (e : Event) : Keeps State.handles (call e) := by
  intro env s
  rw [Act.final, call_eq]
  cases (env.react (s.trace ++ [e])).failure <;> rfl

/-- Closing lets go of the browser and its driver and calls for what was held of them. -/
theorem final_close (env : Environment) (s : State) :
    (close.final env s).handles = {} ∧
      (close.final env s).trace = s.trace ++ (if s.handles.browser then [.browserClosed] else []) ++
        (if s.handles.driver then [.driverStopped] else []) := by
  have hif : ∀ (c : Bool) (e : Event) (t : State),
      ((if c then call e else pure () : Act Unit).final env t).handles = t.handles ∧
        ((if c then call e else pure () : Act Unit).final env t).trace =
          t.trace ++ (if c then [e] else []) := by
    intro c e t
    cases c with
    | true => exact ⟨handles_call e env t, trace_call e env t⟩
    | false => exact ⟨rfl, (List.append_nil _).symm⟩
  have hclose : close.final env s =
      (shutDown s.handles).final env { s with handles := {} } := by
    show ((hold fun _ => {}) >>= fun _ =>
      (shutDown s.handles).mapFault (asRendering .shutdown)).final env s = _
    rw [Act.final_bind (rfl : (hold fun _ => {}) env s = .ok () { s with handles := {} }),
      Act.final_mapFault]
  rw [hclose, shutDown, Act.final_andAlways, (hif _ _ _).1, (hif _ _ _).1, (hif _ _ _).2,
    (hif _ _ _).2]
  exact ⟨rfl, rfl⟩

end Browser

/-! ## Minding -/

/-- A call that neither opens nor closes a session and closes no browser. -/
def Event.IsMinded (e : Event) : Prop := e.isOfSession = false ∧ e ≠ .browserClosed

/-- A call that leaves alone what a run was handed: it opens and closes no session if one
was handed to the run, and closes no browser if one was. -/
def Provided.Spares (given : Provided) (e : Event) : Prop :=
  (given.session = true → e.isOfSession = false) ∧ (given.browser = true → e ≠ .browserClosed)

theorem Event.IsMinded.spared (h : e.IsMinded) : given.Spares e := ⟨fun _ => h.1, fun _ => h.2⟩

/-- The calls between two states with a session are orderly, and what is around them is
minded. -/
def State.Minds (env : Environment) (s s' : State) : Prop :=
  s.handles.Paired → s'.handles.Paired ∧
    Manages env Event.IsMinded (s.handles.custody true) (s'.handles.custody true) s s'

namespace State.Minds

theorem chained (env : Environment) : Chained (State.Minds env) where
  refl _ h := ⟨h, .of_trace rfl⟩
  trans hst htu hs := by
    obtain ⟨ht, hmanages⟩ := hst hs
    obtain ⟨hu, hmanages'⟩ := htu ht
    exact ⟨hu, hmanages.trans hmanages'⟩

/-- Nothing is called, and the handles are the same. -/
theorem of_same (htrace : s'.trace = s.trace) (hhandles : s'.handles = s.handles) :
    State.Minds env s s' := fun hs => hhandles.symm ▸ ⟨hs, .of_trace htrace⟩

theorem of_dealings (h : s'.dealings = s.dealings) : State.Minds env s s' :=
  of_same (State.trace_of_dealings h) (congrArg Dealings.handles h)

end State.Minds

open State (Minds)

theorem Act.Keeps.minds {α : Type} {act : Act α} (h : Keeps State.dealings act) :
    Follows env (Minds env) act := fun s => .of_dealings (h env s)

/-! ## Launching -/

section Steps

variable {session : Bool}

theorem step_driverStarted (h : (env.react (before ++ [.driverStarted])).failure = none) :
    Step env before (({} : Handles).custody session) .driverStarted
      ((⟨true, false⟩ : Handles).custody session) := by
  have hstep : Step env before (({} : Handles).custody session) .driverStarted
      (Function.update _ .driver true) :=
    .gain nofun (by simp [Event.gives, Reaction.grants, h]) rfl
  rwa [Handles.custody_driver] at hstep

theorem step_browserLaunched {headless : Bool}
    (h : (env.react (before ++ [.browserLaunched headless])).failure = none) :
    Step env before ((⟨true, false⟩ : Handles).custody session) (.browserLaunched headless)
      ((⟨true, true⟩ : Handles).custody session) := by
  have hstep : Step env before ((⟨true, false⟩ : Handles).custody session)
      (.browserLaunched headless) (Function.update _ .browser true) :=
    .gain (by simp [Event.needs, Handles.custody]) (by simp [Event.gives, Reaction.grants, h]) rfl
  rwa [Handles.custody_browser] at hstep

theorem step_browserClosed : Step env before ((⟨true, true⟩ : Handles).custody session)
    .browserClosed ((⟨true, false⟩ : Handles).custody session) := by
  have hstep : Step env before ((⟨true, true⟩ : Handles).custody session) .browserClosed _ :=
    .release (by simp [Event.needs, Handles.custody]) rfl fun inner h => by
      cases inner <;> first | rfl | cases h
  rwa [Handles.custody_browser] at hstep

theorem step_driverStopped : Step env before ((⟨true, false⟩ : Handles).custody session)
    .driverStopped (({} : Handles).custody session) := by
  have hstep : Step env before ((⟨true, false⟩ : Handles).custody session) .driverStopped _ :=
    .release (by simp [Event.needs, Handles.custody]) rfl fun inner h => by
      cases inner <;> first | rfl | cases h
  rwa [Handles.custody_driver] at hstep

end Steps

namespace Browser

/-- What a launch that failed has left is closed, and the launch still fails. -/
theorem abandon_error (message : String) (env : Environment) (s : State) :
    ∃ fault, abandon (.browser message) env s = .error fault (close.final env s) := by
  cases hclose : close env s with
  | ok u t =>
      rw [Act.final_of_ok hclose]
      exact ⟨_, Act.bind_error.mpr (Or.inr ⟨u, t, hclose, rfl⟩)⟩
  | error fault t =>
      rw [Act.final_of_error hclose]
      exact ⟨fault, Act.bind_error.mpr (Or.inl hclose)⟩

/-- A launch that fails before the driver is started leaves nothing. -/
theorem launch_unstarted {message : String}
    (hstart : (env.react (s.trace ++ [.driverStarted])).failure = some message)
    (hs : s.handles = {}) :
    ∃ fault t, (launch settings).rescue abandon env s = .error fault t ∧ t.handles = {} ∧
      Manages env Event.IsMinded (s.handles.custody true) (t.handles.custody true) s t := by
  obtain ⟨clock, hcall⟩ := call_of_some hstart
  obtain ⟨fault, habandon⟩ := abandon_error message env
    { s with trace := s.trace ++ [.driverStarted], clock := clock }
  obtain ⟨hhandles, htrace⟩ := final_close env
    { s with trace := s.trace ++ [.driverStarted], clock := clock }
  refine ⟨fault, _, Act.rescue_error.mpr ⟨_, _, Act.bind_error.mpr (Or.inl hcall), habandon⟩,
    hhandles, ?_⟩
  rw [hhandles, hs]
  exact .single (e := .driverStarted) (by simpa [hs] using htrace)
    (by simp [Event.IsMinded, Event.isOfSession])
    (.use nofun (by simp [Event.gives, Reaction.grants, hstart]) rfl)

/-- A launch whose driver is started goes on from a state where the driver is held. -/
theorem launch_started (settings : Settings)
    (hstart : (env.react (s.trace ++ [.driverStarted])).failure = none) (hs : s.handles = {}) :
    ∃ t, t.handles = ⟨true, false⟩ ∧
      Manages env Event.IsMinded (s.handles.custody true) (t.handles.custody true) s t ∧
      launch settings env s = (call (.browserLaunched settings.headless) >>= fun _ =>
        hold fun h => { h with browser := true }) env t := by
  obtain ⟨clock, hcall⟩ := call_of_none hstart
  refine ⟨{ s with trace := s.trace ++ [.driverStarted], clock := clock,
                   handles := ⟨true, false⟩ }, rfl, ?_, ?_⟩
  · rw [hs]
    exact .single rfl (by simp [Event.IsMinded, Event.isOfSession]) (step_driverStarted hstart)
  · obtain ⟨store, clock', trace, notes, handles, cookies, report⟩ := s
    obtain rfl : handles = {} := hs
    show (call .driverStarted >>= fun _ => _) env _ = _
    rw [Act.bind_of_ok hcall]
    rfl

/-- What launching leaves, where no browser is held: a browser with its driver, or nothing
if it fails. -/
theorem launch_manages (settings : Settings) (hs : s.handles = {}) :
    (∃ t, (launch settings).rescue abandon env s = .ok () t ∧ t.handles = ⟨true, true⟩ ∧
      Manages env Event.IsMinded (s.handles.custody true) (t.handles.custody true) s t) ∨
    ∃ fault t, (launch settings).rescue abandon env s = .error fault t ∧ t.handles = {} ∧
      Manages env Event.IsMinded (s.handles.custody true) (t.handles.custody true) s t := by
  cases hstart : (env.react (s.trace ++ [.driverStarted])).failure with
  | some message => exact Or.inr (launch_unstarted hstart hs)
  | none =>
      obtain ⟨t, ht, hmanages, hlaunch⟩ := launch_started settings hstart hs
      rw [ht] at hmanages
      cases hrun : (env.react (t.trace ++ [.browserLaunched settings.headless])).failure with
      | some message =>
          obtain ⟨clock, hcall⟩ := call_of_some hrun
          obtain ⟨u, hu, hhandles, htrace⟩ : ∃ u, call (.browserLaunched settings.headless) env t =
              .error (.browser message) u ∧ u.handles = ⟨true, false⟩ ∧
                u.trace = t.trace ++ [.browserLaunched settings.headless] := ⟨_, hcall, ht, rfl⟩
          obtain ⟨fault, habandon⟩ := abandon_error message env u
          obtain ⟨hlast, hclosed⟩ := final_close env u
          refine Or.inr ⟨fault, _, Act.rescue_error.mpr
            ⟨_, _, hlaunch.trans (Act.bind_error.mpr (Or.inl hu)), habandon⟩, hlast, ?_⟩
          have hfailed : Manages env Event.IsMinded ((⟨true, false⟩ : Handles).custody true)
              ((⟨true, false⟩ : Handles).custody true) t u :=
            .single htrace (by simp [Event.IsMinded, Event.isOfSession])
              (.use (by simp [Event.needs, Handles.custody])
                (by simp [Event.gives, Reaction.grants, hrun]) rfl)
          rw [hlast]
          exact (hmanages.trans hfailed).trans
            (.single (e := .driverStopped) (by simpa [hhandles] using hclosed)
              (by simp [Event.IsMinded, Event.isOfSession]) step_driverStopped)
      | none =>
          obtain ⟨clock, hcall⟩ := call_of_none hrun
          refine Or.inl ⟨_, Act.rescue_ok.mpr (Or.inl (hlaunch.trans (Act.bind_ok.mpr
            ⟨(), _, hcall, rfl⟩))), by rw [ht], ?_⟩
          rw [ht]
          exact hmanages.trans (.single rfl (by simp [Event.IsMinded, Event.isOfSession])
            (step_browserLaunched hrun))

theorem ensureOpen_held (h : s.handles.browser = true) : ensureOpen settings env s = .ok () s := by
  rw [ensureOpen, Act.bind_of_ok (Act.get_ok.mpr ⟨rfl, rfl⟩), if_pos h]
  rfl

theorem ensureOpen_missing (h : s.handles.browser = false) (hnone : env.hasBrowser = false) :
    ensureOpen settings env s = .error (.render .missing) s := by
  rw [ensureOpen, Act.bind_of_ok (Act.get_ok.mpr ⟨rfl, rfl⟩), if_neg (by simp [h])]
  show (if !env.hasBrowser then _ else _ : Act Unit) env s = _
  rw [hnone]
  rfl

theorem ensureOpen_launches (h : s.handles.browser = false) (hsome : env.hasBrowser = true) :
    ensureOpen settings env s = ((launch settings).rescue abandon) env
      { s with notes := s.notes ++ [.startingBrowser] } := by
  rw [ensureOpen, Act.bind_of_ok (Act.get_ok.mpr ⟨rfl, rfl⟩), if_neg (by simp [h])]
  show (if !env.hasBrowser then _ else _ : Act Unit) env s = _
  rw [hsome]
  rfl

/-- Opening the browser minds what is held; if it ends well the browser is held. -/
theorem ensureOpen_minds (settings : Settings) (env : Environment) (s : State) :
    Minds env s ((ensureOpen settings).final env s) ∧
      (s.handles.Paired → ∀ u t, ensureOpen settings env s = .ok u t →
        t.handles = ⟨true, true⟩) := by
  cases hbrowser : s.handles.browser with
  | true =>
      have hheld := @ensureOpen_held settings env s hbrowser
      rw [Act.final_of_ok hheld, hheld]
      refine ⟨(Minds.chained env).refl s, fun hs u t h => ?_⟩
      cases h
      exact hs.eq hbrowser
  | false =>
      cases hsome : env.hasBrowser with
      | false =>
          have hmissing := @ensureOpen_missing settings env s hbrowser hsome
          rw [Act.final_of_error hmissing, hmissing]
          exact ⟨(Minds.chained env).refl s, nofun⟩
      | true =>
          have hlaunches := @ensureOpen_launches settings env s hbrowser hsome
          have hnone : s.handles.Paired → s.handles = {} := fun hs => hs.eq hbrowser
          constructor
          · intro hs
            rcases @launch_manages env { s with notes := s.notes ++ [.startingBrowser] } settings
              (hnone hs) with ⟨t, h, ht, hmanages⟩ | ⟨fault, t, h, ht, hmanages⟩
            · rw [Act.final_of_ok (hlaunches.trans h)]
              exact ⟨by rw [ht]; rfl, hmanages⟩
            · rw [Act.final_of_error (hlaunches.trans h)]
              exact ⟨by rw [ht]; rfl, hmanages⟩
          · intro hs u t h
            rw [hlaunches] at h
            rcases @launch_manages env { s with notes := s.notes ++ [.startingBrowser] } settings
              (hnone hs) with ⟨t', h', ht, _⟩ | ⟨fault, t', h', _, _⟩
            · cases h'.symm.trans h
              exact ht
            · cases h'.symm.trans h

end Browser

/-! ## Saving -/

namespace Saving

/-- However the body of a response is received, the response is closed. -/
theorem closes_response (url : String) (file : Path) (response : Response) (env : Environment)
    (s : State) :
    (((receive url file response).andAlways (Act.record (.responseClosed url))).final env s).handles
        = s.handles ∧
      (((receive url file response).andAlways (Act.record (.responseClosed url))).final env s).trace
        = s.trace ++ [.responseClosed url] := by
  have hkeeps := deals_receive url file response env s
  rw [Act.final_andAlways, ← State.trace_of_dealings hkeeps]
  exact ⟨congrArg Dealings.handles hkeeps, rfl⟩

/-- A response that is obtained is closed. -/
theorem file_minds (url : String) (file : Path) (cookies : Cookies) (timeout : Timeout) :
    Follows env (Minds env) (Saving.file url file cookies timeout) := by
  refine .bind (Minds.chained env) (Disk.deals_ensureParent file).minds fun _ s => ?_
  obtain ⟨clock, hrequest⟩ := request_eq url cookies timeout env s
  cases houtcome : (env.reply
      (s.trace ++ [.requested url (cookieHeaders cookies) timeout])).outcome with
  | error fault =>
      rw [houtcome] at hrequest
      rw [Act.final_bind_of_error hrequest]
      exact fun hs => ⟨hs, .single rfl (by simp [Event.IsMinded, Event.isOfSession])
        (.use (by simp [Event.needs, Handles.custody])
          (by simp [Event.gives, Reply.grants, houtcome]) rfl)⟩
  | ok response =>
      rw [houtcome] at hrequest
      rw [Act.final_bind hrequest]
      obtain ⟨hhandles, htrace⟩ := closes_response url file response env { s with
        trace := s.trace ++ [.requested url (cookieHeaders cookies) timeout], clock := clock }
      rw [Minds, hhandles]
      refine fun hs => ⟨hs, [.requested url (cookieHeaders cookies) timeout, .responseClosed url],
        by rw [htrace, List.append_assoc]; rfl, ?_, by simp [Event.IsMinded, Event.isOfSession]⟩
      refine Orderly.enclosed [] (r := .response url) rfl (.gain ?_ ?_ rfl)
        (List.forall_mem_nil _) ?_ rfl (Resource.home_ne_response url)
      · simp [Event.needs, Handles.custody]
      · simp [Event.gives, Reply.grants, houtcome]
      · simp [Event.needs]

end Saving

/-! ## Pages -/

/-- A call on a context that is open. -/
theorem step_inContext (he : e.needs = [.context, .browser, .driver])
    (hgives : e.gives env before = none) (hreleases : e.releases = none) :
    Step env before (Function.update ((⟨true, true⟩ : Handles).custody true) .context true) e
      (Function.update ((⟨true, true⟩ : Handles).custody true) .context true) :=
  .use (by rw [he]; simp [Handles.custody]) hgives hreleases

/-- A context that is opened is closed, and it is used while it is open. -/
theorem orderly_context (events : Trace)
    (hopens : (env.react (before ++ [.contextOpened])).failure = none)
    (hevents : ∀ e ∈ events, e.needs = [.context, .browser, .driver] ∧ e.releases = none ∧
      ∀ before, e.gives env before = none) :
    Orderly env before ((⟨true, true⟩ : Handles).custody true)
      (.contextOpened :: events ++ [.contextClosed]) ((⟨true, true⟩ : Handles).custody true) := by
  refine Orderly.enclosed events (r := .context) rfl (.gain ?_ ?_ rfl) (fun e he before => ?_) ?_
    rfl Resource.home_ne_context
  · simp [Event.needs, Handles.custody]
  · simp [Event.gives, Reaction.grants, hopens]
  · obtain ⟨hneeds, hreleases, hgives⟩ := hevents e he
    exact step_inContext hneeds (hgives before) hreleases
  · simp [Event.needs, Handles.custody]

/-- The calls that print a page are orderly. -/
theorem Prints.orderly {url : String} {cookies : Cookies} {added : Trace}
    (h : Prints settings env before url cookies added) :
    Orderly env before ((⟨true, true⟩ : Handles).custody true) added
        ((⟨true, true⟩ : Handles).custody true) ∧ ∀ e ∈ added, e.IsMinded := by
  cases h with
  | unopened fails =>
      refine ⟨.single (.use ?_ ?_ rfl), by simp [Event.IsMinded, Event.isOfSession]⟩
      · simp [Event.needs, Handles.custody]
      · simp [Event.gives, Reaction.grants, fails]
  | hostless opens =>
      exact ⟨orderly_context [] opens (List.forall_mem_nil _),
        by simp [Event.IsMinded, Event.isOfSession]⟩
  | @visited made stage file opens gives stages =>
      have hused : ∀ e ∈ made ++ stage, (∃ given, e = .cookiesAdded given) ∨ e = .pageOpened ∨
          e = .visited url settings.navigationTimeout ∨ e = .printed file settings.pageFormat := by
        refine List.forall_mem_append.mpr ⟨fun e he => Or.inl ?_, fun e he => Or.inr ?_⟩
        · cases gives with
          | nothing => cases he
          | cookies => exact ⟨_, List.mem_singleton.mp he⟩
        · simpa using stages.subset he
      refine ⟨orderly_context _ opens fun e he => ?_, ?_⟩
      · rcases hused e he with ⟨_, rfl⟩ | rfl | rfl | rfl <;> exact ⟨rfl, rfl, fun _ => rfl⟩
      · have hminded : ∀ e ∈ made ++ stage, e.IsMinded := fun e he => by
          rcases hused e he with ⟨_, rfl⟩ | rfl | rfl | rfl <;>
            simp [Event.IsMinded, Event.isOfSession]
        have hends : Event.contextOpened.IsMinded ∧ Event.contextClosed.IsMinded := by
          simp [Event.IsMinded, Event.isOfSession]
        rw [List.forall_mem_append, List.forall_mem_cons]
        exact ⟨⟨hends.1, hminded⟩, by simpa using hends.2⟩

namespace Saving

theorem handles_print (settings : Settings) (url : String) (file : Path) (cookies : Cookies) :
    Keeps State.handles (print settings url file cookies) := by
  intro env
  have hdeals : ∀ {α : Type} {act : Act α}, Keeps State.dealings act →
      Follows env (fun s s' => s'.handles = s.handles) act := fun h s =>
    congrArg Dealings.handles (h env s)
  have hgive : Follows env (fun s s' => s'.handles = s.handles) (giveCookies url cookies) :=
    .ite (.pure (.part _) ()) (.bind (.part _) (.ofExcept (.part _) _ _) fun _ =>
      Browser.handles_call _ env)
  have hsettle : ∀ reaction,
      Follows env (fun s s' => s'.handles = s.handles) (Act.settle reaction) := by
    intro reaction
    unfold Act.settle
    split
    · exact .throw (.part _) _
    · exact .pure (.part _) ()
  have hprint : Follows env (fun s s' => s'.handles = s.handles) (printFrom settings url file) :=
    .bind (.part _) (Browser.handles_call _ env) fun _ =>
      .bind (.part _) (fun _ => rfl) fun reaction =>
        .bind (.part _) (hdeals (deals_keepOutput file reaction)) fun _ => hsettle reaction
  exact .bind (.part _) ((Browser.handles_call _ env).mapFault _) fun _ =>
    .andAlways (.part _) (Follows.mapFault (.bind (.part _) hgive fun _ =>
      .bind (.part _) (Browser.handles_call _ env) fun _ => hprint) _)
      (Browser.handles_call _ env)

theorem print_minds (settings : Settings) (url : String) (file : Path) (cookies : Cookies)
    (hs : s.handles = ⟨true, true⟩) :
    Minds env s ((print settings url file cookies).final env s) := by
  obtain ⟨added, htrace, hprints⟩ := @adds_print env s settings url file cookies
  obtain ⟨horderly, hminded⟩ := hprints.orderly
  intro hpaired
  rw [handles_print settings url file cookies env s, hs]
  exact ⟨rfl, added, htrace, horderly, hminded⟩

/-- A page minds what is held: the browser stays open, and the context is closed. -/
theorem page_minds (settings : Settings) (url : String) (file : Path) (cookies : Cookies) :
    Follows env (Minds env) (Saving.page settings url file cookies) := by
  intro s hs
  obtain ⟨hminds, hheld⟩ := Browser.ensureOpen_minds settings env s
  cases hopen : Browser.ensureOpen settings env s with
  | error fault t =>
      rw [Act.final_of_error hopen] at hminds
      rw [Saving.page, Act.final_bind_of_error hopen]
      exact hminds hs
  | ok u t =>
      have ht := hheld hs u t hopen
      rw [Act.final_of_ok hopen] at hminds
      rw [Saving.page, Act.final_bind hopen]
      refine (Minds.chained env).trans hminds ?_ hs
      cases hparent : Disk.ensureParent file env t with
      | error fault t' =>
          rw [Act.final_bind_of_error hparent]
          exact .of_dealings ((Disk.deals_ensureParent file env).error hparent)
      | ok u' t' =>
          have hdeals : t'.dealings = t.dealings := (Disk.deals_ensureParent file env).ok hparent
          have hsize : ∀ _ : Unit, Keeps State.dealings
              (Disk.during (.readBack file) (Disk.size file)) := fun _ env =>
            ((Chained.part _).follows_size file).mapFault _
          rw [Act.final_bind hparent]
          refine (Minds.chained env).trans (.of_dealings hdeals) ((Minds.chained env).trans
            (print_minds settings url file cookies
              ((congrArg Dealings.handles hdeals).trans ht)) (.of_dealings ?_))
          exact Keeps.final_bind hsize

end Saving

namespace Run

/-! ## Rows -/

theorem fetch_minds (settings : Settings) (source : Source) (file : Path) :
    Follows env (Minds env) (fetch settings source file) := by
  refine .bind (Minds.chained env) (.get (Minds.chained env)) fun s => ?_
  cases source with
  | file url => exact Saving.file_minds url file _ _
  | page url => exact Saving.page_minds settings url file _
  | text content => exact (Saving.deals_text content file).minds

/-- A row minds what is held around it. -/
theorem row_minds (settings : Settings) (p : Path) (directive : Directive) :
    Follows env (Minds env) (row settings p directive) := by
  have hchained := Minds.chained env
  obtain ⟨line, action⟩ := directive
  cases action with
  | archiveName name => exact .throw hchained _
  | cookies blob =>
      exact .bind hchained (.ofExcept hchained _ _) fun _ =>
        .bind hchained (.modify fun _ => .of_same rfl rfl) fun _ =>
          .modify fun _ => .of_same rfl rfl
  | save source d =>
      show Follows env (Minds env) (save settings p source d)
      cases hout : settings.leavesOut source with
      | true =>
          rw [save_of_leftOut hout]
          exact .bind hchained (.modify fun _ => .of_same rfl rfl) fun _ => (deals_skip _ d).minds
      | false =>
          rw [save_of_wanted hout]
          exact .bind hchained (Verdict.deals_reach settings p d).minds fun decision =>
            .ite (.bind hchained (deals_announce decision.verdict d).minds fun _ =>
              .bind hchained (fetch_minds settings source _) fun _ =>
                .bind hchained (.modify fun _ => .of_same rfl rfl) fun _ =>
                  .modify fun _ => .of_same rfl rfl) (deals_skip _ d).minds

theorem rows_minds (settings : Settings) (p : Path) : ∀ directives : List Directive,
    Follows env (Minds env) (rows settings p directives)
  | [] => .pure (Minds.chained env) ()
  | directive :: rest => .bind (Minds.chained env) (row_minds settings p directive) fun _ =>
      rows_minds settings p rest

/-! ## What is around the rows -/

/-- Closing the browser releases it and its driver. -/
theorem close_manages {session : Bool} (hs : s.handles.Paired) :
    Manages env (fun e => e.isOfSession = false) (s.handles.custody session)
      ((Browser.close.final env s).handles.custody session) s (Browser.close.final env s) := by
  obtain ⟨hhandles, htrace⟩ := Browser.final_close env s
  rw [hhandles]
  cases hbrowser : s.handles.browser with
  | true =>
      have hheld := hs.eq hbrowser
      rw [hheld] at htrace ⊢
      exact ⟨[.browserClosed, .driverStopped], by rw [htrace, List.append_assoc]; rfl,
        .cons step_browserClosed (.single step_driverStopped), by simp [Event.isOfSession]⟩
  | false =>
      have hheld := hs.eq hbrowser
      rw [hheld] at htrace ⊢
      exact .of_trace (by simpa using htrace)

/-- The session is opened unless it was handed to the run. -/
theorem sessionOf_opens (given : Provided) (env : Environment) (s : State) :
    Manages env given.Spares (s.handles.custody given.session) (s.handles.custody true) s
      ((recordAll (sessionOf given).events).final env s) := by
  rw [Act.final_of_ok (recordAll_eq env _ s)]
  obtain ⟨session, browser⟩ := given
  cases session with
  | true => exact .of_trace (List.append_nil _)
  | false =>
      have hopen : Step env s.trace (s.handles.custody false) .sessionOpened
          (Function.update _ .session true) := .gain nofun rfl rfl
      rw [Handles.custody_session] at hopen
      refine ⟨_, rfl, .cons hopen (.of_uses fun e he before => ?_), fun e he => ⟨nofun, ?_⟩⟩
      · simp only [List.mem_cons, List.not_mem_nil, or_false] at he
        rcases he with rfl | rfl <;>
          exact .use (by simp [Event.needs, Handles.custody]) rfl rfl
      · revert e
        simp [sessionOf, Connector.getSession, Connector.opening]

/-- The session is closed unless it was handed to the run. -/
theorem sessionOf_closes (given : Provided) (env : Environment) (s : State) :
    Manages env given.Spares (s.handles.custody true) (s.handles.custody given.session) s
      ((recordAll (sessionOf given).connector.close.events).final env s) := by
  rw [Act.final_of_ok (recordAll_eq env _ s)]
  obtain ⟨session, browser⟩ := given
  cases session with
  | true => exact .of_trace (List.append_nil _)
  | false =>
      have hclose : Step env s.trace (s.handles.custody true) .sessionClosed
          (Function.update _ .session false) :=
        .release (by simp [Event.needs, Handles.custody]) rfl fun inner h => by
          cases inner <;> first | rfl | cases h
      rw [Handles.custody_session] at hclose
      exact .single rfl (by simp [Provided.Spares]) hclose

theorem handles_recordAll (events : Trace) : Keeps State.handles (recordAll events) := by
  intro env s
  rw [Act.final_of_ok (recordAll_eq env events s)]

/-- The browser is closed unless it was handed to the run. -/
theorem close_unless_given (given : Provided) (hs : s.handles.Paired) :
    ∃ u, (if given.browser then pure () else Browser.close : Act Unit).final env s = u ∧
      u.handles.Paired ∧ (given.browser = false → u.handles = {}) ∧
      Manages env given.Spares (s.handles.custody true) (u.handles.custody true) s u := by
  obtain ⟨session, browser⟩ := given
  cases browser with
  | true => exact ⟨s, rfl, hs, nofun, .of_trace rfl⟩
  | false =>
      obtain ⟨hhandles, _⟩ := Browser.final_close env s
      refine ⟨_, rfl, ?_, fun _ => hhandles, (close_manages hs).mono fun e he =>
        ⟨fun _ => he, nofun⟩⟩
      show (Browser.close.final env s).handles.Paired
      rw [hhandles]
      rfl

/-- From where a run has opened, the calls of its rows and of what is closed after them
are orderly. -/
theorem draining_manages (settings : Settings) (given : Provided) (p : Path)
    (directives : List Directive) (hs : s.handles.Paired)
    (hend : (draining settings given p directives).final env s = s') :
    s'.handles.Paired ∧ (given.browser = false → s'.handles = {}) ∧
      Manages env given.Spares (s.handles.custody true) (s'.handles.custody given.session)
        s s' := by
  have hcarried : Follows env (Minds env) ((rows settings p directives).rescue fail) :=
    .rescue (Minds.chained env) (rows_minds settings p directives) fun fault =>
      Act.Keeps.minds fun _ => State.inward_dealings.follows_fail fault
  obtain ⟨ht, hmanages⟩ := hcarried s hs
  obtain ⟨u, hclose, hu, hnone, hclosed⟩ := @close_unless_given env _ given ht
  rw [draining, Act.final_andAlways, Act.final_andAlways, hclose] at hend
  have hhandles : s'.handles = u.handles := hend ▸ handles_recordAll _ env u
  rw [hhandles]
  refine ⟨hu, hnone, (hmanages.mono fun e he => he.spared).trans (hclosed.trans ?_)⟩
  exact hend ▸ sessionOf_closes given env u

/-- Before its rows a run makes no call but to open a session. -/
theorem opening_manages (settings : Settings) (given : Provided) (env : Environment) (s : State)
    (name : String) :
    (∀ fault t, opening settings given name env s = .error fault t →
      t.trace = s.trace ∧ t.handles = s.handles) ∧
    ∀ output t, opening settings given name env s = .ok output t → t.handles = s.handles ∧
      Manages env given.Spares (s.handles.custody given.session) (t.handles.custody true) s t := by
  have hbegins : Follows env (fun s t => t.trace = s.trace ∧ t.handles = s.handles) (do
      start name
      Act.note (.options settings)
      prepare settings name) := by
    have hchained : Chained fun s t : State => t.trace = s.trace ∧ t.handles = s.handles :=
      ⟨fun _ => ⟨rfl, rfl⟩, fun h h' => ⟨h'.1.trans h.1, h'.2.trans h.2⟩⟩
    exact .bind hchained (.modify fun _ => ⟨rfl, rfl⟩) fun _ =>
      .bind hchained (.modify fun _ => ⟨rfl, rfl⟩) fun _ s =>
        ⟨State.trace_of_dealings (deals_prepare name env s),
          congrArg Dealings.handles (deals_prepare name env s)⟩
  have hopening : opening settings given name = (do
      let output ← (do
        start name
        Act.note (.options settings)
        prepare settings name)
      recordAll (sessionOf given).events
      return output) := by simp only [opening, bind_assoc]
  rw [hopening]
  constructor
  · intro fault t h
    rcases Act.bind_error.mp h with hbegin | ⟨output, u, _, hopen⟩
    · exact hbegins.error hbegin
    · rcases Act.bind_error.mp hopen with hrecord | ⟨_, _, _, hpure⟩
      · rw [recordAll_eq] at hrecord
        cases hrecord
      · cases hpure
  · intro output t h
    obtain ⟨output', u, hbegin, hopen⟩ := Act.bind_ok.mp h
    obtain ⟨_, v, hrecord, hpure⟩ := Act.bind_ok.mp hopen
    obtain ⟨rfl, rfl⟩ := Act.pure_ok.mp hpure
    obtain ⟨htrace, hhandles⟩ := hbegins.ok hbegin
    obtain rfl := Act.final_of_ok hrecord
    have hmanages := sessionOf_opens given env u
    rw [handles_recordAll _ env u, hhandles]
    rw [hhandles] at hmanages
    exact ⟨rfl, (State.Manages.of_trace htrace).trans hmanages⟩

/-! ## Runs -/

/-- The calls of a run are orderly, and it leaves alone what it was handed. -/
theorem run_manages (settings : Settings) (given : Provided) (env : Environment)
    (directives : List Directive) (hs : s.handles.Paired)
    (hfresh : given.browser = false → s.handles = {})
    (hend : (run settings given directives).final env s = s') :
    s'.handles.Paired ∧ (given.browser = false → s'.handles = {}) ∧
      Manages env given.Spares (s.handles.custody given.session) (s'.handles.custody given.session)
        s s' := by
  have hidle : s'.trace = s.trace → s'.handles = s.handles → s'.handles.Paired ∧
      (given.browser = false → s'.handles = {}) ∧ Manages env given.Spares
        (s.handles.custody given.session) (s'.handles.custody given.session) s s' := by
    intro htrace hhandles
    rw [hhandles]
    exact ⟨hs, hfresh, .of_trace htrace⟩
  match directives, hend with
  | [], hend => exact hidle (hend ▸ rfl) (hend ▸ rfl)
  | ⟨_, .cookies _⟩ :: _, hend => exact hidle (hend ▸ rfl) (hend ▸ rfl)
  | ⟨_, .save _ _⟩ :: _, hend => exact hidle (hend ▸ rfl) (hend ▸ rfl)
  | ⟨line, .archiveName name⟩ :: rest, hend =>
      rw [run_phases] at hend
      obtain ⟨hunopened, hopened⟩ := opening_manages settings given env s name
      cases hopen : opening settings given name env s with
      | error fault t =>
          obtain ⟨htrace, hhandles⟩ := hunopened fault t hopen
          rw [Act.final_bind_of_error hopen] at hend
          exact hidle (hend ▸ htrace) (hend ▸ hhandles)
      | ok output t =>
          obtain ⟨hhandles, hmanages⟩ := hopened output t hopen
          rw [Act.final_bind hopen] at hend
          obtain ⟨hu, hnone, hdrained⟩ :=
            @draining_manages env t _ settings given output rest (hhandles ▸ hs) rfl
          have hcomplete : s'.dealings =
              ((draining settings given output rest).final env t).dealings :=
            hend ▸ Keeps.final_bind fun _ _ => State.inward_dealings.follows_complete output
          have hlast := congrArg Dealings.handles hcomplete
          rw [show s'.handles = _ from hlast]
          exact ⟨hu, hnone, (hmanages.trans hdrained).trans
            (.of_trace (State.trace_of_dealings hcomplete))⟩

/-- However a run ends, whatever fails in it, its calls are orderly: all that a call needs
is held when it is made.  What the run was given it has released once, but a browser and
its driver only if no browser was handed to it.  It opens and closes no session if one was
handed to it, and closes no browser if one was: a browser that was held then is held
still. -/
theorem run_released (settings : Settings) (given : Provided) (env : Environment)
    (directives : List Directive) (hs : s.handles.Paired)
    (hfresh : given.browser = false → s.handles = {})
    (hend : (run settings given directives).final env s = s') :
    ∃ added, s'.trace = s.trace ++ added ∧
      Orderly env s.trace (s.handles.custody given.session) added
        (s'.handles.custody given.session) ∧
      (given.browser = false → s'.handles = {}) ∧
      (∀ r, (r = .driver ∨ r = .browser → given.browser = false) →
        Custody.gained env r s.trace added = Custody.released r added) ∧
      (∀ e ∈ added, given.Spares e) ∧
      (given.browser = true → s.handles.browser = true → s'.handles = s.handles) := by
  obtain ⟨hpaired, hnone, added, htrace, horderly, hspares⟩ :=
    run_manages settings given env directives hs hfresh hend
  refine ⟨added, htrace, horderly, hnone, fun r hr => ?_, hspares, fun hgiven hheld => ?_⟩
  · have hsame : s.handles.custody given.session r = s'.handles.custody given.session r := by
      cases r with
      | session => rfl
      | response url => rfl
      | context => rfl
      | driver => rw [hfresh (hr (Or.inl rfl)), hnone (hr (Or.inl rfl))]
      | browser => rw [hfresh (hr (Or.inr rfl)), hnone (hr (Or.inr rfl))]
    exact horderly.gained_eq_released hsame
  · have hkept : s'.handles.custody given.session .browser = true := by
      refine horderly.kept hheld fun e he hreleases => (hspares e he).2 hgiven ?_
      cases e <;> first | rfl | cases hreleases
    rw [hs.eq hheld]
    exact hpaired.eq hkept

/-! ## A browser that does not close -/

/-- Every URL gives its text, but neither contexts nor the browser close. -/
def clinging : Environment :=
  { echo none with
    react := fun trace =>
      match trace.getLast? with
      | some .contextClosed => { failure := some "context" }
      | some .browserClosed => { failure := some "browser" }
      | _ => (echo none).react trace }

/-- A run that fails as the context of its page does not close, and again as its browser
does not, has released all that it was given once. -/
theorem clinging_released :
    ∃ fault s', run {} {} twiceScript clinging {} = .error fault s' ∧
      fault = .render (.shutdown "browser") ∧ s'.handles = {} ∧
      (∀ r, Custody.gained clinging r [] s'.trace = Custody.released r s'.trace) ∧
      ([.session, .response "u", .driver, .browser, .context].map fun r =>
        Custody.released r s'.trace) = [1, 1, 1, 1, 1] := by
  obtain ⟨fault, s', hrun, hcheck⟩ := Act.exists_of_breaksIn (by decide +kernel :
    (run {} {} twiceScript).BreaksIn clinging {} (fun fault s' =>
      fault == .render (.shutdown "browser") &&
        ([.session, .response "u", .driver, .browser, .context].map fun r =>
          Custody.released r s'.trace) == [1, 1, 1, 1, 1]) = true)
  simp only [Bool.and_eq_true, beq_iff_eq] at hcheck
  obtain ⟨added, htrace, _, hhandles, hcounts, _, _⟩ := run_released {} {} clinging twiceScript
    (rfl : ({} : State).handles.Paired) (fun _ => rfl) (Act.final_of_error hrun)
  obtain rfl : s'.trace = added := htrace
  exact ⟨fault, s', hrun, hcheck.1, hhandles rfl, fun r => hcounts r fun _ => rfl, hcheck.2⟩

end Run

end Dossier
