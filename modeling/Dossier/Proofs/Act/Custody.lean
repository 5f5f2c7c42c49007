import Dossier.Proofs.Act.Dealings
import Mathlib.Logic.Function.Basic

/-!
# What is held

Some calls *give* a resource if they succeed: a session, a response, a driver, a browser
or a context of it.  What was given is held until another call *releases* it, and a call
*needs* some resources to be held.  A browser lives in its driver and a context in its
browser, and a response lives in the session.

Events are *orderly* if each call is made while all that it needs is held, if nothing is
given that is held already, and if nothing is released while something that lives in it
is held.  Along orderly events everything that is given is released once, save what is
held in the end (`Orderly.balance`).
-/

namespace Dossier

/-- What is held between two calls. -/
inductive Resource
  | session
  | response (url : String)
  | driver
  | browser
  | context
deriving DecidableEq

/-- What a resource lives in. -/
def Resource.home : Resource → Option Resource
  | .session | .driver => none
  | .response _ => some .session
  | .browser => some .driver
  | .context => some .browser

theorem Resource.home_ne_response (url : String) (r : Resource) :
    r.home ≠ some (.response url) := by
  cases r <;> simp [home]

theorem Resource.home_ne_context (r : Resource) : r.home ≠ some .context := by
  cases r <;> simp [home]

/-! ## Calls -/

/-- A resource that is given unless the browser fails. -/
def Reaction.grants (reaction : Reaction) (r : Resource) : Option Resource :=
  if reaction.failure.isNone then some r else none

/-- A resource that is given with a response. -/
def Reply.grants (reply : Reply) (r : Resource) : Option Resource :=
  match reply.outcome with
  | .ok _ => some r
  | .error _ => none

namespace Event

/-- What a call gives that is made after those in a trace. -/
def gives (env : Environment) (before : Trace) (e : Event) : Option Resource :=
  match e with
  | .sessionOpened => some .session
  | .requested url _ _ => (env.reply (before ++ [e])).grants (.response url)
  | .driverStarted => (env.react (before ++ [e])).grants .driver
  | .browserLaunched _ => (env.react (before ++ [e])).grants .browser
  | .contextOpened => (env.react (before ++ [e])).grants .context
  | _ => none

/-- What a call releases, whether it succeeds or not. -/
def releases : Event → Option Resource
  | .sessionClosed => some .session
  | .responseClosed url => some (.response url)
  | .contextClosed => some .context
  | .browserClosed => some .browser
  | .driverStopped => some .driver
  | _ => none

/-- What a call needs. -/
def needs : Event → List Resource
  | .sessionOpened | .driverStarted => []
  | .mounted .. | .sessionClosed | .requested .. => [.session]
  | .responseClosed url => [.response url]
  | .browserLaunched _ | .driverStopped => [.driver]
  | .contextOpened | .browserClosed => [.browser, .driver]
  | .cookiesAdded _ | .pageOpened | .visited .. | .printed .. | .contextClosed =>
    [.context, .browser, .driver]

theorem releases_of_gives {env : Environment} {before : Trace} {e : Event} {r : Resource}
    (h : e.gives env before = some r) : e.releases = none := by
  cases e <;> first | rfl | cases h

theorem mem_needs_of_releases {e : Event} {r : Resource} (h : e.releases = some r) :
    r ∈ e.needs := by
  cases e <;> cases h <;> simp [needs]

end Event

/-! ## Custody -/

/-- Which resources are held. -/
abbrev Custody := Resource → Bool

namespace Custody

variable {env : Environment} {before : Trace} {held mid last : Custody} {e : Event}
  {events later : Trace}

/-- An orderly call: what it needs is held, and it gives what is not held yet, or
releases what nothing that is held lives in, or does neither. -/
inductive Step (env : Environment) (before : Trace) (held : Custody) : Event → Custody → Prop
  | use {e : Event} (needs : ∀ r ∈ e.needs, held r = true) (gives : e.gives env before = none)
      (releases : e.releases = none) : Step env before held e held
  | gain {e : Event} {r : Resource} (needs : ∀ r ∈ e.needs, held r = true)
      (gives : e.gives env before = some r) (free : held r = false) :
      Step env before held e (Function.update held r true)
  | release {e : Event} {r : Resource} (needs : ∀ r ∈ e.needs, held r = true)
      (releases : e.releases = some r)
      (empty : ∀ inner : Resource, inner.home = some r → held inner = false) :
      Step env before held e (Function.update held r false)

theorem Step.balance (h : Step env before held e mid) (r : Resource) :
    (if e.gives env before = some r then 1 else 0) + (held r).toNat =
      (if e.releases = some r then 1 else 0) + (mid r).toNat := by
  cases h with
  | use _ gives releases => simp [gives, releases]
  | @gain r' _ gives free =>
      rw [gives, Event.releases_of_gives gives]
      by_cases hr : r' = r
      · subst hr
        simp [free]
      · simp [hr, Function.update_of_ne (Ne.symm hr)]
  | @release r' needs releases _ =>
      have hgives : e.gives env before = none := by
        cases hgives : e.gives env before with
        | none => rfl
        | some _ => exact absurd ((Event.releases_of_gives hgives).symm.trans releases) nofun
      rw [hgives, releases]
      by_cases hr : r' = r
      · subst hr
        simp [needs _ (Event.mem_needs_of_releases releases)]
      · simp [hr, Function.update_of_ne (Ne.symm hr)]

/-- Events that follow a trace in an orderly way, with what is held before and after
them. -/
inductive Orderly (env : Environment) : Trace → Custody → Trace → Custody → Prop
  | nil {before : Trace} {held : Custody} : Orderly env before held [] held
  | cons {before events : Trace} {held mid last : Custody} {e : Event}
      (first : Step env before held e mid) (rest : Orderly env (before ++ [e]) mid events last) :
      Orderly env before held (e :: events) last

/-- How often a resource is given along events that follow a trace. -/
def gained (env : Environment) (r : Resource) : Trace → Trace → Nat
  | _, [] => 0
  | before, e :: rest =>
    (if e.gives env before = some r then 1 else 0) + gained env r (before ++ [e]) rest

/-- How often a resource is released along events. -/
def released (r : Resource) (events : Trace) : Nat :=
  events.countP fun e => e.releases == some r

theorem released_cons (r : Resource) (e : Event) (events : Trace) :
    released r (e :: events) = released r events + if e.releases = some r then 1 else 0 := by
  simp [released, List.countP_cons]

namespace Orderly

theorem append (h : Orderly env before held events mid)
    (h' : Orderly env (before ++ events) mid later last) :
    Orderly env before held (events ++ later) last := by
  induction h with
  | nil => simpa using h'
  | cons first _ ih => exact .cons first (ih (by simpa using h'))

theorem single (h : Step env before held e last) : Orderly env before held [e] last :=
  .cons h .nil

/-- Calls that need only what is held, and neither give nor release anything. -/
theorem of_uses (h : ∀ e ∈ events, ∀ before, Step env before held e held) :
    Orderly env before held events held := by
  induction events generalizing before with
  | nil => exact .nil
  | cons e rest ih =>
      obtain ⟨he, hrest⟩ := List.forall_mem_cons.mp h
      exact .cons (he before) (ih hrest)

/-- What is given is released once, save what is held already or in the end. -/
theorem balance (h : Orderly env before held events last) (r : Resource) :
    gained env r before events + (held r).toNat = released r events + (last r).toNat := by
  induction h with
  | nil => rfl
  | cons first _ ih =>
      have hfirst := first.balance r
      rw [gained, released_cons]
      omega

/-- What is held in the end as it was in the beginning is released as often as it is given. -/
theorem gained_eq_released (h : Orderly env before held events last) {r : Resource}
    (hsame : held r = last r) : gained env r before events = released r events := by
  have hbalance := h.balance r
  rw [hsame] at hbalance
  omega

/-- What no call releases stays held. -/
theorem kept (h : Orderly env before held events last) {r : Resource} (hheld : held r = true)
    (hevents : ∀ e ∈ events, e.releases ≠ some r) : last r = true := by
  induction h with
  | nil => exact hheld
  | cons first _ ih =>
      obtain ⟨he, hrest⟩ := List.forall_mem_cons.mp hevents
      refine ih ?_ hrest
      cases first with
      | use => exact hheld
      | gain => rw [Function.update_apply, hheld, ite_self]
      | release _ releases _ =>
          rw [Function.update_of_ne (by rintro rfl; exact he releases)]
          exact hheld

end Orderly

end Custody

/-! ## States -/

/-- What is held of a browser and its driver, with or without a session. -/
def Handles.custody (handles : Handles) (session : Bool) : Custody
  | .session => session
  | .driver => handles.driver
  | .browser => handles.browser
  | .response _ | .context => false

/-- A browser is held with its driver or not at all. -/
def Handles.Paired (handles : Handles) : Prop := handles.browser = handles.driver

instance (handles : Handles) : Decidable handles.Paired :=
  inferInstanceAs (Decidable (handles.browser = handles.driver))

open Custody (Orderly Step)

/-- The calls between two states are orderly, and all of them are allowed. -/
def State.Manages (env : Environment) (allowed : Event → Prop) (held last : Custody)
    (s s' : State) : Prop :=
  ∃ added, s'.trace = s.trace ++ added ∧ Orderly env s.trace held added last ∧
    ∀ e ∈ added, allowed e

namespace State.Manages

variable {env : Environment} {allowed : Event → Prop} {held mid last : Custody} {s t u : State}
  {e : Event}

theorem of_trace (h : t.trace = s.trace) : State.Manages env allowed held held s t :=
  ⟨[], by rw [h, List.append_nil], .nil, nofun⟩

theorem trans (h : State.Manages env allowed held mid s t)
    (h' : State.Manages env allowed mid last t u) : State.Manages env allowed held last s u := by
  obtain ⟨added, ht, horderly, hadded⟩ := h
  obtain ⟨more, hu, horderly', hmore⟩ := h'
  rw [ht] at horderly'
  exact ⟨added ++ more, by rw [hu, ht, List.append_assoc], horderly.append horderly',
    List.forall_mem_append.mpr ⟨hadded, hmore⟩⟩

/-- One orderly call. -/
theorem single (htrace : t.trace = s.trace ++ [e]) (he : allowed e)
    (hstep : Step env s.trace held e last) : State.Manages env allowed held last s t :=
  ⟨[e], htrace, .single hstep, by simpa using he⟩

theorem mono {allowed' : Event → Prop} (h : State.Manages env allowed held last s t)
    (hallowed : ∀ e, allowed e → allowed' e) : State.Manages env allowed' held last s t := by
  obtain ⟨added, htrace, horderly, hadded⟩ := h
  exact ⟨added, htrace, horderly, fun e he => hallowed e (hadded e he)⟩

end State.Manages

end Dossier
