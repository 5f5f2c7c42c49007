import Dossier.Proofs.Run.Sequence

/-!
# The life of a browser

A browser is *used* by saving pages with it and by closing it, in any order and as often as
one likes, whatever fails.  However it is used, what was started and launched and has not been
shut down is what is held, every context is closed by the use that opened it, and after a
closing or a launch that failed nothing is held (`uses_lifecycle`).

All this is read off the calls that one use makes (`Serves`).  What can happen as the browser
is opened is listed once (`Opens`): it is held already, or is not to be had, or its driver
does not start, or it does not launch, or it does.
-/

namespace Dossier

open Custody (Orderly Step gained released)

variable {settings : Settings} {env : Environment} {s t : State} {before events : Trace}
  {handles last : Handles}

namespace Custody

variable {held mid final : Custody} {later : Trace} {e : Event} {r : Resource}

/-- Orderly events can be split anywhere. -/
theorem Orderly.split (h : Orderly env before held (events ++ later) final) :
    ∃ mid, Orderly env before held events mid ∧ Orderly env (before ++ events) mid later final := by
  induction events generalizing before held with
  | nil => exact ⟨held, .nil, by simpa using h⟩
  | cons e rest ih =>
      cases h with
      | cons first hrest =>
          obtain ⟨mid, hfirst, hlater⟩ := ih hrest
          exact ⟨mid, .cons first hfirst, by simpa using hlater⟩

/-- A context is given as it is opened, and by no other call. -/
theorem gained_context (h : .contextOpened ∉ events) : gained env .context before events = 0 := by
  induction events generalizing before with
  | nil => rfl
  | cons e rest ih =>
      rw [List.mem_cons, not_or] at h
      have hgives : e.gives env before ≠ some .context := by
        cases e <;> simp [Event.gives, Reaction.grants, Reply.grants] at h ⊢
        all_goals split <;> simp
      rw [gained, if_neg hgives, ih h.2]

/-- What is given once and not held in the end is released once after that. -/
theorem Orderly.released_after (h : Orderly env before held (events ++ e :: later) final)
    (hgives : e.gives env (before ++ events) = some r) (hfinal : final r = false)
    (honce : gained env r (before ++ events ++ [e]) later = 0) : released r later = 1 := by
  obtain ⟨mid, _, hrest⟩ := h.split
  cases hrest with
  | cons first hlater =>
      have hbalance := hlater.balance r
      cases first with
      | use _ gives _ => cases gives.symm.trans hgives
      | release _ releases _ =>
          cases (Event.releases_of_gives hgives).symm.trans releases
      | gain _ gives _ =>
          cases gives.symm.trans hgives
          rw [Function.update_self, hfinal, honce] at hbalance
          simpa using hbalance.symm

end Custody

/-- A call among those of two traces is one of the first or one of the second. -/
theorem Trace.append_split {pre post later : Trace} {e : Event}
    (h : events ++ later = pre ++ e :: post) :
    (∃ more, events = pre ++ e :: more) ∨ ∃ more, pre = events ++ more ∧ later = more ++ e :: post := by
  rcases List.append_eq_append_iff.mp h with ⟨more, hpre, hlater⟩ | ⟨more, hevents, hmore⟩
  · exact Or.inr ⟨more, hpre, hlater⟩
  · cases more with
    | nil => exact Or.inr ⟨[], by simpa using hevents.symm, hmore.symm⟩
    | cons first more =>
        obtain ⟨rfl, _⟩ := List.cons.inj hmore
        exact Or.inl ⟨more, hevents⟩

namespace Browser

/-! ## Opening -/

/-- The calls that opening the browser makes after those in a trace, and what is held before
and after them. -/
inductive Opens (settings : Settings) (env : Environment) (before : Trace) :
    Handles → Trace → Handles → Prop
  /-- A browser is held. -/
  | held : Opens settings env before ⟨true, true⟩ [] ⟨true, true⟩
  /-- There is no browser to be had. -/
  | missing (none : env.hasBrowser = false) : Opens settings env before {} [] {}
  /-- The driver does not start. -/
  | unstarted {message : String}
      (start : (env.react (before ++ [.driverStarted])).failure = some message) :
      Opens settings env before {} [.driverStarted] {}
  /-- The browser does not launch, and its driver is stopped again. -/
  | unlaunched {message : String}
      (start : (env.react (before ++ [.driverStarted])).failure = none)
      (launch : (env.react (before ++ [.driverStarted, .browserLaunched settings.headless])).failure
        = some message) :
      Opens settings env before {}
        [.driverStarted, .browserLaunched settings.headless, .driverStopped] {}
  /-- The browser is launched. -/
  | launched (start : (env.react (before ++ [.driverStarted])).failure = none)
      (launch : (env.react (before ++ [.driverStarted, .browserLaunched settings.headless])).failure
        = none) :
      Opens settings env before {} [.driverStarted, .browserLaunched settings.headless]
        ⟨true, true⟩

/-- What a launch leaves that failed is closed. -/
theorem final_abandoned {message : String} (h : launch settings env s = .error (.browser message) t) :
    (((launch settings).rescue abandon).final env s).handles = {} ∧
      (((launch settings).rescue abandon).final env s).trace =
        t.trace ++ (if t.handles.browser then [.browserClosed] else []) ++
          (if t.handles.driver then [.driverStopped] else []) := by
  obtain ⟨fault, habandon⟩ := abandon_error message env t
  rw [Act.final_of_error (Act.rescue_error.mpr ⟨_, t, h, habandon⟩)]
  exact final_close env t

theorem launch_opens (hs : s.handles = {}) :
    ∃ added, (((launch settings).rescue abandon).final env s).trace = s.trace ++ added ∧
      Opens settings env s.trace s.handles added
        (((launch settings).rescue abandon).final env s).handles := by
  rw [hs]
  cases hstart : (env.react (s.trace ++ [.driverStarted])).failure with
  | some message =>
      obtain ⟨clock, hcall⟩ := call_of_some hstart
      obtain ⟨hhandles, htrace⟩ := final_abandoned (Act.bind_error.mpr (Or.inl hcall))
      rw [hhandles, htrace]
      exact ⟨[.driverStarted], by simp [hs], .unstarted hstart⟩
  | none =>
      obtain ⟨clock, hcall⟩ := call_of_none hstart
      obtain ⟨t, ht, htrace, hlaunch⟩ : ∃ t, t.handles = ⟨true, false⟩ ∧
          t.trace = s.trace ++ [.driverStarted] ∧ launch settings env s =
            (call (.browserLaunched settings.headless) >>= fun _ =>
              hold fun h => { h with browser := true }) env t :=
        ⟨_, by rw [hs], rfl, Act.bind_of_ok hcall⟩
      cases hrun : (env.react (t.trace ++ [.browserLaunched settings.headless])).failure with
      | some message =>
          obtain ⟨clock, hcall⟩ := call_of_some hrun
          obtain ⟨hhandles, hclosed⟩ :=
            final_abandoned (hlaunch.trans (Act.bind_error.mpr (Or.inl hcall)))
          rw [hhandles, hclosed]
          rw [htrace, List.append_assoc] at hrun
          exact ⟨_, by simp [ht, htrace], .unlaunched hstart hrun⟩
      | none =>
          obtain ⟨clock, hcall⟩ := call_of_none hrun
          rw [Act.final_of_ok (Act.rescue_ok.mpr (Or.inl
            (hlaunch.trans (Act.bind_ok.mpr ⟨(), _, hcall, rfl⟩))))]
          rw [htrace, List.append_assoc] at hrun
          exact ⟨[.driverStarted, .browserLaunched settings.headless], by simp [htrace],
            by rw [ht]; exact .launched hstart hrun⟩

/-- What is held while a browser is held with its driver or not at all. -/
theorem ensureOpen_opens (settings : Settings) (env : Environment) (hs : s.handles.Paired) :
    ∃ added, ((ensureOpen settings).final env s).trace = s.trace ++ added ∧
      Opens settings env s.trace s.handles added ((ensureOpen settings).final env s).handles := by
  cases hbrowser : s.handles.browser with
  | true =>
      rw [Act.final_of_ok (ensureOpen_held hbrowser), hs.eq hbrowser]
      exact ⟨[], (List.append_nil _).symm, .held⟩
  | false =>
      cases hsome : env.hasBrowser with
      | false =>
          rw [Act.final_of_error (ensureOpen_missing hbrowser hsome), hs.eq hbrowser]
          exact ⟨[], (List.append_nil _).symm, .missing hsome⟩
      | true =>
          rw [Act.final, ensureOpen_launches hbrowser hsome]
          exact launch_opens (s := { s with notes := s.notes ++ [.startingBrowser] })
            (hs.eq hbrowser)

theorem Opens.orderly (h : Opens settings env before handles events last) :
    Orderly env before (handles.custody true) events (last.custody true) := by
  cases h with
  | held => exact .nil
  | missing => exact .nil
  | unstarted start =>
      exact .single (.use nofun (by simp [Event.gives, Reaction.grants, start]) rfl)
  | unlaunched start launch =>
      refine .cons (step_driverStarted start) (.cons (.use ?_ ?_ rfl) (.single step_driverStopped))
      · simp [Event.needs, Handles.custody]
      · simp [Event.gives, Reaction.grants, launch]
  | launched start launch =>
      exact .cons (step_driverStarted start) (.single (step_browserLaunched (by simpa using launch)))

/-! ## Uses -/

/-- A use of the browser. -/
inductive Use
  /-- A page is saved. -/
  | page (url : String) (file : Path) (cookies : Cookies)
  /-- The browser is closed. -/
  | close

/-- The state after a use, whether it fails or not. -/
def Use.final (settings : Settings) (env : Environment) (s : State) : Use → State
  | .page url file cookies => (Saving.page settings url file cookies).final env s
  | .close => Browser.close.final env s

/-- The state after uses one after the other. -/
def useAll (settings : Settings) (env : Environment) (s : State) (uses : List Use) : State :=
  uses.foldl (Use.final settings env) s

/-- The calls that a use makes after those in a trace, and what is held before and after
them. -/
inductive Serves (settings : Settings) (env : Environment) (before : Trace) (handles : Handles) :
    Use → Trace → Handles → Prop
  /-- The browser is closed if it is held, and then its driver. -/
  | closes : Serves settings env before handles .close
      ((if handles.browser then [.browserClosed] else []) ++
        if handles.driver then [.driverStopped] else []) {}
  /-- The browser is opened, as far as that goes. -/
  | opens {url : String} {file : Path} {cookies : Cookies} {opened : Trace} {last : Handles}
      (opens : Opens settings env before handles opened last) :
      Serves settings env before handles (.page url file cookies) opened last
  /-- The browser is opened and the page is printed. -/
  | prints {url : String} {file : Path} {cookies : Cookies} {opened printed : Trace}
      (opens : Opens settings env before handles opened ⟨true, true⟩)
      (prints : Prints settings env (before ++ opened) url cookies printed) :
      Serves settings env before handles (.page url file cookies) (opened ++ printed) ⟨true, true⟩

/-- Once the browser is open the page is printed, unless it has no directory to lie in. -/
theorem page_prints (url : String) (file : Path) (cookies : Cookies) {u : Unit}
    (hopen : ensureOpen settings env s = .ok u t) :
    ((Saving.page settings url file cookies).final env s).handles = t.handles ∧ ∃ printed,
      ((Saving.page settings url file cookies).final env s).trace = t.trace ++ printed ∧
        (printed = [] ∨ Prints settings env t.trace url cookies printed) := by
  have hparent := Disk.deals_ensureParent file env
  have hsize : ∀ _ : Unit, Act.Keeps State.dealings
      (Disk.during (.readBack file) (Disk.size file)) := fun _ env =>
    ((Act.Chained.part _).follows_size file).mapFault _
  rw [Saving.page, Act.final_bind hopen]
  cases hmade : Disk.ensureParent file env t with
  | error fault v =>
      have hv : v.dealings = t.dealings := hparent.error hmade
      rw [Act.final_bind_of_error hmade]
      exact ⟨congrArg Dealings.handles hv, [],
        (State.trace_of_dealings hv).trans (List.append_nil _).symm, Or.inl rfl⟩
  | ok _ v =>
      have hv : v.dealings = t.dealings := hparent.ok hmade
      obtain ⟨printed, htrace, hprints⟩ := @Saving.adds_print env v settings url file cookies
      rw [State.trace_of_dealings hv] at htrace hprints
      have hhandles := Saving.handles_print settings url file cookies env v
      have hkept : ((Saving.print settings url file cookies >>= fun _ =>
          Disk.during (.readBack file) (Disk.size file)).final env v).dealings =
            ((Saving.print settings url file cookies).final env v).dealings :=
        Act.Keeps.final_bind hsize
      rw [Act.final_bind hmade]
      exact ⟨(congrArg Dealings.handles hkept).trans
          (hhandles.trans (congrArg Dealings.handles hv)),
        printed, (State.trace_of_dealings hkept).trans htrace, Or.inr hprints⟩

/-- The calls that a use makes. -/
theorem serves (settings : Settings) (env : Environment) (hs : s.handles.Paired) (use : Use) :
    ∃ added, (use.final settings env s).trace = s.trace ++ added ∧
      Serves settings env s.trace s.handles use added (use.final settings env s).handles := by
  cases use with
  | close =>
      obtain ⟨hhandles, htrace⟩ := final_close env s
      rw [Use.final, hhandles, htrace, List.append_assoc]
      exact ⟨_, rfl, .closes⟩
  | page url file cookies =>
      obtain ⟨opened, htrace, hopens⟩ := ensureOpen_opens settings env hs
      cases hopen : ensureOpen settings env s with
      | error fault t =>
          rw [Act.final_of_error hopen] at htrace hopens
          rw [Use.final, Saving.page, Act.final_bind_of_error hopen]
          exact ⟨opened, htrace, .opens hopens⟩
      | ok u t =>
          have ht := (ensureOpen_minds settings env s).2 hs u t hopen
          rw [Act.final_of_ok hopen] at htrace hopens
          rw [ht] at hopens
          obtain ⟨hhandles, printed, hlast, hprints⟩ := page_prints url file cookies hopen
          rw [Use.final, hhandles, hlast, ht, htrace, List.append_assoc]
          refine ⟨_, rfl, ?_⟩
          rw [htrace] at hprints
          rcases hprints with rfl | hprints
          · rw [List.append_nil]
            exact .opens hopens
          · exact .prints hopens hprints

/-! ## What a use does -/

theorem Opens.upkeep (h : Opens settings env before handles events last) :
    ∀ e ∈ events, e.isUpkeep = true := by
  cases h <;> simp [Event.isUpkeep]

theorem Opens.paired (h : Opens settings env before handles events last) : last.Paired := by
  cases h <;> rfl

/-- The driver is started first of all, where nothing is held, or not at all. -/
theorem Opens.starts (h : Opens settings env before handles events last) :
    events = [] ∨ handles = {} ∧ ∃ rest, events = .driverStarted :: rest ∧
      .driverStarted ∉ rest := by
  cases h with
  | held => exact Or.inl rfl
  | missing => exact Or.inl rfl
  | unstarted => exact Or.inr ⟨rfl, _, rfl, by simp⟩
  | unlaunched => exact Or.inr ⟨rfl, _, rfl, by simp⟩
  | launched => exact Or.inr ⟨rfl, _, rfl, by simp⟩

/-- If the driver or the browser does not start, nothing is held. -/
theorem Opens.fails {pre post : Trace} {e : Event}
    (h : Opens settings env before handles (pre ++ e :: post) last) (he : e.isLaunch = true)
    (hfails : (env.react (before ++ pre ++ [e])).failure ≠ none) : last = {} := by
  generalize hevents : pre ++ e :: post = events at h
  cases h with
  | held => simp at hevents
  | missing => rfl
  | unstarted => rfl
  | unlaunched => rfl
  | launched start launch =>
      rcases pre with _ | ⟨first, _ | ⟨second, pre⟩⟩
      · obtain ⟨rfl, _⟩ := List.cons.inj hevents
        exact absurd (by simpa using start) hfails
      · simp only [List.cons_append, List.nil_append, List.cons.injEq] at hevents
        obtain ⟨rfl, rfl, _⟩ := hevents
        exact absurd (by simpa using launch) hfails
      · simp at hevents

/-- A context is opened first, and nothing is launched. -/
theorem prints_context {url : String} {cookies : Cookies}
    (h : Prints settings env before url cookies events) :
    ∃ rest, events = .contextOpened :: rest ∧ .contextOpened ∉ rest ∧
      ∀ e ∈ events, e.isLaunch = false := by
  cases h with
  | unopened => exact ⟨[], rfl, List.not_mem_nil, by simp [Event.isLaunch]⟩
  | hostless => exact ⟨_, rfl, by simp, by simp [Event.isLaunch]⟩
  | @visited given stage file opens gives stages =>
      have hstage : ∀ e ∈ stage, e = .pageOpened ∨ e = .visited url settings.navigationTimeout ∨
          e = .printed file settings.pageFormat := fun e he => by simpa using stages.subset he
      have hgiven : ∀ e ∈ given, ∃ cookies, e = .cookiesAdded cookies := by
        cases gives with
        | nothing => exact fun _ he => absurd he List.not_mem_nil
        | cookies => exact fun e he => ⟨_, List.mem_singleton.mp he⟩
      refine ⟨given ++ stage ++ [.contextClosed], rfl, ?_, ?_⟩
      · simp only [List.mem_append, List.mem_singleton, reduceCtorEq, or_false, not_or]
        refine ⟨fun he => ?_, fun he => ?_⟩
        · obtain ⟨_, h⟩ := hgiven _ he
          cases h
        · rcases hstage _ he with h | h | h <;> cases h
      · simp only [List.cons_append, List.mem_cons, List.mem_append, List.not_mem_nil, or_false]
        rintro e (rfl | (he | he) | rfl)
        · rfl
        · obtain ⟨_, rfl⟩ := hgiven _ he
          rfl
        · rcases hstage _ he with rfl | rfl | rfl <;> rfl
        · rfl

namespace Serves

variable {use : Use} {pre post : Trace} {e : Event}

theorem paired (h : Serves settings env before handles use events last) : last.Paired := by
  cases h with
  | closes => rfl
  | opens opens => exact opens.paired
  | prints => rfl

theorem orderly (h : Serves settings env before handles use events last)
    (hpaired : handles.Paired) :
    Orderly env before (handles.custody true) events (last.custody true) := by
  cases h with
  | closes =>
      cases hbrowser : handles.browser with
      | true =>
          rw [hpaired.eq hbrowser]
          exact .cons step_browserClosed (.single step_driverStopped)
      | false =>
          rw [hpaired.eq hbrowser]
          exact .nil
  | opens opens => exact opens.orderly
  | prints opens prints => exact opens.orderly.append prints.orderly.1

/-- The driver is started before all other calls and only where nothing is held, or not at
all. -/
theorem starts (h : Serves settings env before handles use events last) :
    .driverStarted ∉ events ∨ handles = {} ∧ ∃ rest, events = .driverStarted :: rest ∧
      .driverStarted ∉ rest := by
  cases h with
  | closes =>
      refine Or.inl ?_
      cases handles.browser <;> cases handles.driver <;> simp
  | opens opens =>
      rcases opens.starts with rfl | hstarts
      · exact Or.inl List.not_mem_nil
      · exact Or.inr hstarts
  | prints opens prints =>
      obtain ⟨_, _, _, hprinted⟩ := prints_context prints
      have hnone : Event.driverStarted ∉ _ := fun hmem => by cases hprinted _ hmem
      rcases opens.starts with rfl | ⟨hhandles, rest, rfl, hrest⟩
      · exact Or.inl hnone
      · exact Or.inr ⟨hhandles, _, rfl, by simpa using ⟨hrest, hnone⟩⟩

/-- One context is opened, or none. -/
theorem contexts (h : Serves settings env before handles use events last) :
    .contextOpened ∉ events ∨ ∃ opened rest, events = opened ++ .contextOpened :: rest ∧
      .contextOpened ∉ opened ∧ .contextOpened ∉ rest := by
  cases h with
  | closes =>
      refine Or.inl ?_
      cases handles.browser <;> cases handles.driver <;> simp
  | opens opens => exact Or.inl fun hmem => by cases opens.upkeep _ hmem
  | prints opens prints =>
      obtain ⟨rest, rfl, hrest, _⟩ := prints_context prints
      have hopened : Event.contextOpened ∉ _ := fun hmem => by cases opens.upkeep _ hmem
      exact Or.inr ⟨_, rest, rfl, hopened, hrest⟩

/-- If the driver or the browser does not start, nothing is held afterwards. -/
theorem fails (h : Serves settings env before handles use (pre ++ e :: post) last)
    (he : e.isLaunch = true) (hfails : (env.react (before ++ pre ++ [e])).failure ≠ none) :
    last = {} := by
  generalize hevents : pre ++ e :: post = events at h
  cases h with
  | closes => rfl
  | opens opens => exact (hevents ▸ opens).fails he hfails
  | @prints _ _ _ opened printed opens prints =>
      obtain ⟨_, _, _, hprinted⟩ := prints_context prints
      have hnone : e ∉ printed := fun hmem => by simp [hprinted e hmem] at he
      rcases Trace.append_split hevents.symm with ⟨more, rfl⟩ | ⟨more, rfl, rfl⟩
      · exact opens.fails he hfails
      · exact absurd (by simp) hnone

/-- A page starts the driver if nothing is held and there is a browser to be had. -/
theorem fresh {url : String} {file : Path} {cookies : Cookies}
    (h : Serves settings env before {} (.page url file cookies) events last)
    (hsome : env.hasBrowser = true) : events.head? = some .driverStarted := by
  have hopened : ∀ {opened last}, Opens settings env before {} opened last →
      ∃ rest, opened = .driverStarted :: rest := by
    intro opened last opens
    cases opens with
    | missing none => cases none.symm.trans hsome
    | unstarted | unlaunched | launched => exact ⟨_, rfl⟩
  cases h with
  | opens opens =>
      obtain ⟨rest, rfl⟩ := hopened opens
      rfl
  | prints opens prints =>
      obtain ⟨rest, rfl⟩ := hopened opens
      rfl

end Serves

/-! ## Uses one after the other -/

/-- What holds of a browser from a state where nothing is held to a later one. -/
structure Lives (env : Environment) (s t : State) (events : Trace) : Prop where
  /-- The calls between them. -/
  trace : t.trace = s.trace ++ events
  /-- A browser is held with its driver or not at all. -/
  paired : t.handles.Paired
  /-- All that a call needs is held when it is made. -/
  orderly : Orderly env s.trace (({} : Handles).custody true) events (t.handles.custody true)
  /-- The driver is started only when as many drivers were stopped as were started. -/
  starts : ∀ pre post, events = pre ++ .driverStarted :: post →
    gained env .driver s.trace pre = released .driver pre

theorem lives_begin (env : Environment) (hs : s.handles = {}) : Lives env s s [] where
  trace := (List.append_nil _).symm
  paired := by rw [hs]; rfl
  orderly := by rw [hs]; exact .nil
  starts pre post h := by simp at h

namespace Lives

/-- What is held of the driver or the browser is what was given and not released. -/
theorem balance (h : Lives env s t events) :
    gained env .driver s.trace events = released .driver events + t.handles.driver.toNat ∧
      gained env .browser s.trace events = released .browser events + t.handles.browser.toNat :=
  ⟨h.orderly.balance .driver, h.orderly.balance .browser⟩

/-- A browser lives on as it is used. -/
theorem used {added : Trace} {use : Use} (h : Lives env s t events)
    (hserves : Serves settings env t.trace t.handles use added (use.final settings env t).handles)
    (htrace : (use.final settings env t).trace = t.trace ++ added) :
    Lives env s (use.final settings env t) (events ++ added) where
  trace := by rw [htrace, h.trace, List.append_assoc]
  paired := hserves.paired
  orderly := h.orderly.append (h.trace ▸ hserves.orderly h.paired)
  starts pre post hsplit := by
    rcases Trace.append_split hsplit with ⟨more, hevents⟩ | ⟨more, rfl, hadded⟩
    · exact h.starts pre more hevents
    · -- it is started by this use, which makes no call before that
      rcases hserves.starts with hnone | ⟨hhandles, rest, hrest, honce⟩
      · exact absurd (by simp [hadded]) hnone
      · obtain ⟨rfl, _⟩ : more = [] ∧ post = rest := by
          cases more with
          | nil => exact ⟨rfl, (List.cons.inj (hadded.symm.trans hrest)).2⟩
          | cons e more =>
              obtain ⟨_, rfl⟩ := List.cons.inj (hadded.symm.trans hrest)
              exact absurd (by simp) honce
        have hbalance := h.balance.1
        rw [hhandles] at hbalance
        rw [List.append_nil]
        exact hbalance

end Lives

/-- A browser lives through all its uses. -/
theorem useAll_lives (settings : Settings) (uses : List Use) (h : Lives env s t events) :
    ∃ added, Lives env s (useAll settings env t uses) (events ++ added) := by
  induction uses generalizing t events with
  | nil => exact ⟨[], by rwa [List.append_nil]⟩
  | cons use rest ih =>
      obtain ⟨first, htrace, hserves⟩ := serves settings env h.paired use
      obtain ⟨later, hlater⟩ := ih (h.used hserves htrace)
      exact ⟨first ++ later, by rwa [← List.append_assoc]⟩

/-- A closed browser is closed again without a call. -/
theorem close_closed (h : s.handles = {}) : close env s = .ok () s := by
  obtain ⟨store, clock, trace, notes, handles, cookies, report⟩ := s
  obtain rfl : handles = {} := h
  rfl

/-- A context that a use is given is closed by it, once. -/
theorem Serves.closes_context {use : Use} {pre post : Trace}
    (h : Serves settings env before handles use (pre ++ .contextOpened :: post) last)
    (hpaired : handles.Paired)
    (hopens : (env.react (before ++ pre ++ [.contextOpened])).failure = none) :
    released .context post = 1 := by
  have hgives : Event.contextOpened.gives env (before ++ pre) = some .context := by
    simp only [Event.gives, Reaction.grants, hopens]
    rfl
  refine (h.orderly hpaired).released_after hgives rfl (Custody.gained_context ?_)
  rcases h.contexts with hnone | ⟨opened, rest, hsplit, hopened, hrest⟩
  · exact absurd (by simp) hnone
  · obtain ⟨_, _, rfl⟩ := (List.append_cons_inj_of_notMem hopened hrest).mp hsplit.symm
    exact hrest

/-- What holds after a use of a browser with which nothing was held in a first state and which
has made some calls since, and with which the use makes more. -/
structure Lifecycle (settings : Settings) (env : Environment) (first before : State) (use : Use)
    (made added : Trace) : Prop where
  /-- The calls before the use. -/
  past : before.trace = first.trace ++ made
  /-- The calls of the use. -/
  trace : (use.final settings env before).trace = before.trace ++ added
  /-- All drivers that were started have been stopped once, but for the one that is held. -/
  driver : gained env .driver first.trace (made ++ added) =
    released .driver (made ++ added) + (use.final settings env before).handles.driver.toNat
  /-- All browsers that were launched have been closed once, but for the one that is held. -/
  browser : gained env .browser first.trace (made ++ added) =
    released .browser (made ++ added) + (use.final settings env before).handles.browser.toNat
  /-- A browser is held only with its driver. -/
  housed : (use.final settings env before).handles.browser = true →
    (use.final settings env before).handles.driver = true
  /-- No driver is started while one is held. -/
  starts : ∀ pre post, made ++ added = pre ++ .driverStarted :: post →
    gained env .driver first.trace pre = released .driver pre
  /-- As many contexts are closed in the use as are opened. -/
  contexts : gained env .context before.trace added = released .context added
  /-- A context that is opened in the use is closed in it, once. -/
  context : ∀ pre post, added = pre ++ .contextOpened :: post →
    (env.react (before.trace ++ pre ++ [.contextOpened])).failure = none →
      released .context post = 1
  /-- After a closing, whether it failed or not, nothing is held, and a further closing makes no
  call. -/
  closed : use = .close → (use.final settings env before).handles = {} ∧
    close env (use.final settings env before) = .ok () (use.final settings env before)
  /-- After a launch that failed nothing is held. -/
  abandoned : ∀ pre e post, added = pre ++ e :: post → e.isLaunch = true →
    (env.react (before.trace ++ pre ++ [e])).failure ≠ none →
      (use.final settings env before).handles = {}
  /-- If nothing is held and there is a browser to be had, a page starts the driver anew. -/
  fresh : ∀ url file cookies, use = .page url file cookies → env.hasBrowser = true →
    before.handles = {} → added.head? = some .driverStarted

/-- The life of a browser that is used in any order and as often as one likes, whatever fails. -/
theorem uses_lifecycle (settings : Settings) (env : Environment) (hs : s.handles = {})
    (earlier : List Use) (use : Use) :
    ∃ made added, Lifecycle settings env s (useAll settings env s earlier) use made added := by
  obtain ⟨made, hmade⟩ := useAll_lives settings earlier (lives_begin env hs)
  rw [List.nil_append] at hmade
  obtain ⟨added, htrace, hserves⟩ := serves settings env hmade.paired use
  have hlives := hmade.used hserves htrace
  have horderly := hserves.orderly hmade.paired
  refine ⟨made, added, ?_⟩
  exact {
    past := hmade.trace
    trace := htrace
    driver := hlives.balance.1
    browser := hlives.balance.2
    housed := fun hbrowser => by rw [hlives.paired.eq hbrowser]
    starts := hlives.starts
    contexts := horderly.gained_eq_released rfl
    context := fun pre post hsplit hopens => (hsplit ▸ hserves).closes_context hmade.paired hopens
    closed := by
      rintro rfl
      have hclosed := (final_close env (useAll settings env s earlier)).1
      exact ⟨hclosed, close_closed hclosed⟩
    abandoned := fun pre e post hsplit he hfails => (hsplit ▸ hserves).fails he hfails
    fresh := by
      rintro url file cookies rfl hsome hnone
      rw [hnone] at hserves
      exact hserves.fresh hsome }

/-! ## A browser that launches and closes badly -/

/-- The first browser does not launch, and no browser closes. -/
def wayward : Environment where
  react trace :=
    match trace.getLast? with
    | some (.browserLaunched _) => if trace.length = 2 then { failure := some "launch" } else {}
    | some .browserClosed => { failure := some "browser" }
    | _ => {}

def waywardPage : Use := .page "u" (Location.path ["p"]) {}

/-- A browser that did not launch at first and did not close later is launched a third time: two
drivers have been stopped and one browser was closed by then, and the third is held. -/
theorem wayward_lifecycle :
    ∃ made added, Lifecycle {} wayward {} (useAll {} wayward {} [waywardPage, waywardPage, .close])
        waywardPage made added ∧
      released .driver (made ++ added) = 2 ∧ released .browser (made ++ added) = 1 ∧
      gained wayward .driver [] (made ++ added) = 3 ∧
      gained wayward .browser [] (made ++ added) = 2 ∧
      released .context (made ++ added) = 2 := by
  obtain ⟨made, added, hlives⟩ := uses_lifecycle {} wayward (rfl : ({} : State).handles = {})
    [waywardPage, waywardPage, .close] waywardPage
  have htrace : made ++ added = (waywardPage.final {} wayward
      (useAll {} wayward {} [waywardPage, waywardPage, .close])).trace := by
    rw [hlives.trace, hlives.past]
    rfl
  refine ⟨made, added, hlives, ?_⟩
  rw [htrace]
  decide +kernel

end Browser

end Dossier
