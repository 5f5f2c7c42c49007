import Dossier.Proofs.Run.Reports

/-!
# The first fault of a run

A run stops at the first row that fails, and what it shows for it is the fault of that row,
unless the browser it opened does not shut down.  Then it shows that failure instead, and
the fault of the row is hidden behind it (`run_firstFault`).

Shutting down makes up to two calls.  If both fail, the one to stop the driver is shown,
which is the later one.  Closing the session never fails.
-/

namespace Dossier

open Script (Directive)

variable {settings : Settings} {given : Provided} {env : Environment} {s t u : State} {p : Path}
  {directives : List Directive} {directive : Directive} {fault cause : Fault}

namespace Browser

/-! ## Shutting down -/

/-- The failure of a call that is made if something is held, if it fails. -/
def snag? (env : Environment) (held : Bool) (trace : Trace) (e : Event) : Option String :=
  if held then (env.react (trace ++ [e])).failure else none

/-- The failure to shut down what is held of a browser, if it fails.  The driver is stopped
even if the browser does not close, and its failure is the one that is seen. -/
def jam? (env : Environment) (s : State) : Option String :=
  let closed := if s.handles.browser then s.trace ++ [.browserClosed] else s.trace
  (snag? env s.handles.driver closed .driverStopped).or
    (snag? env s.handles.browser s.trace .browserClosed)

theorem jam?_congr (h : t.dealings = s.dealings) : jam? env t = jam? env s := by
  rw [jam?, jam?, State.trace_of_dealings h,
    show t.handles = s.handles from congrArg Dealings.handles h]

theorem jam?_of_nothing (h : s.handles = {}) : jam? env s = none := by simp [jam?, snag?, h]

theorem callIf_eq (held : Bool) (e : Event) (env : Environment) (s : State) :
    ∃ t, t.trace = (if held then s.trace ++ [e] else s.trace) ∧
      (if held then call e else pure () : Act Unit) env s =
        match snag? env held s.trace e with
        | some message => .error (.browser message) t
        | none => .ok () t := by
  cases held with
  | false => exact ⟨s, rfl, rfl⟩
  | true =>
      obtain ⟨t, hcall⟩ : ∃ t, t = (call e).final env s := ⟨_, rfl⟩
      refine ⟨t, hcall ▸ trace_call e env s, ?_⟩
      rw [hcall, Act.final, if_pos rfl, call_eq, snag?, if_pos rfl]
      cases (env.react (s.trace ++ [e])).failure <;> rfl

/-- Closing fails if and only if what is held does not shut down. -/
theorem close_eq (env : Environment) (s : State) : ∃ t, close env s =
    match jam? env s with
    | some message => .error (.render (.shutdown message)) t
    | none => .ok () t := by
  obtain ⟨t, ht, hclose⟩ := callIf_eq s.handles.browser .browserClosed env { s with handles := {} }
  obtain ⟨u, _, hstop⟩ := callIf_eq s.handles.driver .driverStopped env t
  refine ⟨u, ?_⟩
  show (shutDown s.handles).mapFault (asRendering .shutdown) env { s with handles := {} } = _
  rw [Act.mapFault, shutDown, Act.andAlways, hclose, jam?]
  rw [ht] at hstop
  cases snag? env s.handles.browser s.trace .browserClosed <;>
    cases hlast : snag? env s.handles.driver _ .driverStopped <;>
    rw [hlast] at hstop <;> simp only [hstop, Option.or, asRendering]

end Browser

namespace Run

/-! ## Draining -/

/-- The failure to shut down the browser that a run opened, if it fails. -/
def jam? (given : Provided) (env : Environment) (s : State) : Option String :=
  if given.browser then none else Browser.jam? env s

theorem release_eq (given : Provided) (env : Environment) (s : State) : ∃ t, release given env s =
    match jam? given env s with
    | some message => .error (.render (.shutdown message)) t
    | none => .ok () t := by
  cases hgiven : given.browser with
  | true => exact ⟨s, by rw [release, jam?, hgiven]; rfl⟩
  | false =>
      obtain ⟨t, hclose⟩ := Browser.close_eq env s
      exact ⟨t, by rw [release, jam?, hgiven]; exact hclose⟩

/-- The fault that is seen of a run whose rows ended with a fault. -/
def shown (given : Provided) (env : Environment) (s : State) (cause : Fault) : Fault :=
  match jam? given env s with
  | some message => .render (.shutdown message)
  | none => cause

/-- A fault that ended a run is passed on to what is closed after it. -/
theorem fail_passes (fault : Fault) (env : Environment) (s : State) :
    ∃ t, fail fault env s = .error fault t ∧ t.dealings = s.dealings := by
  cases hreported : fault.isReported with
  | true =>
      have hfail : ∃ t, fail fault env s = .error fault t := ⟨_, by rw [fail, hreported]; rfl⟩
      obtain ⟨t, hfail⟩ := hfail
      exact ⟨t, hfail, (State.inward_dealings.follows_fail fault).error hfail⟩
  | false => exact ⟨s, fail_of_unreported hreported, rfl⟩

/-- A fault that ended the rows of a run is seen after draining them, unless the browser does
not shut down. -/
theorem draining_shows (given : Provided)
    (hrows : rows settings p directives env t = .error cause u) :
    ∃ s', draining settings given p directives env t = .error (shown given env u cause) s' := by
  obtain ⟨v, hfail, hkept⟩ := fail_passes cause env u
  have hcarried : (rows settings p directives).rescue fail env t = .error cause v :=
    Act.rescue_error.mpr ⟨cause, u, hrows, hfail⟩
  have hjam : jam? given env v = jam? given env u := by rw [jam?, jam?, Browser.jam?_congr hkept]
  have hreleased : ∃ w, ((rows settings p directives).rescue fail).andAlways (release given) env t =
      .error (shown given env u cause) w := by
    obtain ⟨w, hrelease⟩ := release_eq given env v
    rw [hjam] at hrelease
    rw [shown]
    cases hmessage : jam? given env u with
    | none =>
        rw [hmessage] at hrelease
        exact ⟨w, Act.andAlways_error.mpr (Or.inr (Or.inl ⟨v, hcarried, hrelease⟩))⟩
    | some message =>
        rw [hmessage] at hrelease
        exact ⟨w, Act.andAlways_error.mpr (Or.inr (Or.inr ⟨cause, v, hcarried, hrelease⟩))⟩
  obtain ⟨w, hreleased⟩ := hreleased
  exact ⟨_, Act.andAlways_error.mpr (Or.inr (Or.inl ⟨w, hreleased, recordAll_eq env _ w⟩))⟩

/-! ## Runs -/

/-- A run of which a row fails fails with the fault of that row, whatever else it has done and
however it is closed, unless the browser that it opened does not shut down: then that failure
is shown and the fault of the row is not.  Nothing is hidden while no browser is held. -/
theorem run_firstFault (hopened : Opened settings given env s directives p t)
    (hfails : FailsAt settings given env s directives directive cause) :
    ∃ u, rows settings p directives.tail env t = .error cause u ∧
      (jam? given env u = none → ∃ s', run settings given directives env s = .error cause s') ∧
      (∀ message, jam? given env u = some message →
        ∃ s', run settings given directives env s = .error (.render (.shutdown message)) s') ∧
      (given.browser = true ∨ u.handles = {} → jam? given env u = none) := by
  obtain ⟨u, hrows⟩ := hopened.failsAt_iff_rows.mp ⟨directive, hfails⟩
  obtain ⟨s', hdraining⟩ := draining_shows given hrows
  have hrun : run settings given directives env s = .error (shown given env u cause) s' :=
    hopened.run_eq.trans (Act.bind_error.mpr (Or.inl hdraining))
  rw [shown] at hrun
  refine ⟨u, hrows, fun hnone => ?_, fun message hmessage => ?_, ?_⟩
  · rw [hnone] at hrun
    exact ⟨s', hrun⟩
  · rw [hmessage] at hrun
    exact ⟨s', hrun⟩
  · rintro (hgiven | hhandles)
    · rw [jam?, if_pos hgiven]
    · rw [jam?, Browser.jam?_of_nothing hhandles, ite_self]

/-! ## A browser that does not close -/

/-- The last row of a script fails, with nothing or with something in the way of shutting down
the browser that is held then. -/
theorem twice_fails (env : Environment) (jam : Option String)
    (hopens : (opening {} {} "q").EndsIn env {} (fun _ _ => true) = true)
    (hbreaks : (do
      let p ← opening {} {} "q"
      rows {} p twiceScript.tail).BreaksIn env {} (fun cause u =>
        cause == Fault.network (.unreachable "v" "refused") && jam? {} env u == jam) = true) :
    ∃ p t directive u, Opened {} {} env {} twiceScript p t ∧
      FailsAt {} {} env {} twiceScript directive (.network (.unreachable "v" "refused")) ∧
      rows {} p twiceScript.tail env t = .error (.network (.unreachable "v" "refused")) u ∧
      jam? {} env u = jam := by
  obtain ⟨p, t, hopen, _⟩ := Act.exists_of_endsIn hopens
  obtain ⟨cause, u, hrows, hcheck⟩ := Act.exists_of_breaksIn hbreaks
  rw [Bool.and_eq_true, beq_iff_eq, beq_iff_eq] at hcheck
  obtain ⟨rfl, hjam⟩ := hcheck
  rw [Act.bind_of_ok hopen] at hrows
  have hopened : Opened {} {} env {} twiceScript p t := ⟨some 1, "q", _, rfl, hopen⟩
  obtain ⟨directive, hfails⟩ := hopened.failsAt_iff_rows.mpr ⟨u, hrows⟩
  exact ⟨p, t, directive, u, hopened, hfails, hrows, hjam⟩

/-- The fault of a row is shown if the browser closes after it.  If the browser does not close,
that is shown instead. -/
theorem twice_firstFault :
    (∃ directive s', FailsAt {} {} (echo (some "v")) {} twiceScript directive
        (.network (.unreachable "v" "refused")) ∧
      run {} {} twiceScript (echo (some "v")) {} =
        .error (.network (.unreachable "v" "refused")) s') ∧
    ∃ directive s', FailsAt {} {} faltering {} twiceScript directive
        (.network (.unreachable "v" "refused")) ∧
      run {} {} twiceScript faltering {} = .error (.render (.shutdown "browser")) s' := by
  constructor
  · obtain ⟨p, t, directive, u, hopened, hfails, hrows, hjam⟩ :=
      twice_fails (echo (some "v")) none (by decide +kernel) (by decide +kernel)
    obtain ⟨v, hrows', hshown, _⟩ := run_firstFault hopened hfails
    cases hrows.symm.trans hrows'
    obtain ⟨s', hrun⟩ := hshown hjam
    exact ⟨directive, s', hfails, hrun⟩
  · obtain ⟨p, t, directive, u, hopened, hfails, hrows, hjam⟩ :=
      twice_fails faltering (some "browser") (by decide +kernel) (by decide +kernel)
    obtain ⟨v, hrows', _, hhidden, _⟩ := run_firstFault hopened hfails
    cases hrows.symm.trans hrows'
    obtain ⟨s', hrun⟩ := hhidden "browser" hjam
    exact ⟨directive, s', hfails, hrun⟩

/-- A run can hide the reported fault of its row behind a browser that does not close. -/
theorem not_all_first_faults_shown :
    ¬ ∀ (settings : Settings) (given : Provided) (env : Environment) (s t : State)
      (directives : List Directive) (p : Path) (directive : Directive) (cause : Fault),
      Opened settings given env s directives p t →
      FailsAt settings given env s directives directive cause → cause.isReported = true →
        ∃ s', run settings given directives env s = .error cause s' := by
  intro hall
  obtain ⟨p, t, directive, _, hopened, hfails, _⟩ :=
    twice_fails faltering (some "browser") (by decide +kernel) (by decide +kernel)
  obtain ⟨s', hrun⟩ := hall _ _ _ _ _ _ _ _ _ hopened hfails rfl
  obtain ⟨fault, _, hends, hfault⟩ := Act.exists_of_breaksIn (by decide +kernel :
    (run {} {} twiceScript).BreaksIn faltering {} (fun fault _ =>
      fault == .render (.shutdown "browser")) = true)
  cases hrun.symm.trans hends
  cases eq_of_beq hfault

end Run

end Dossier
