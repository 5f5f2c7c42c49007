import Dossier.Proofs.Act.Dealings
import Dossier.Proofs.Act.Disk

/-!
# Which faults pass unreported

An act *leaks* a fault if it fails with it although it is not reported, and it *reports* if
it leaks none.  Along the ways acts are put together a leak is the leak of a part
(`leaks_bind`, `leaks_andAlways`, `leaks_rescue`).

Calls on the store fail with faults of the system and calls on the browser with faults of the
browser, so that naming the task or the page makes them report (`Disk.during_reports`,
`Browser.naming_reports`), as long as a path does not hold the character that none may hold.
-/

namespace Dossier

open Act (FailsWith)

variable {α β : Type} {env : Environment} {s : State} {fault : Fault}

/-- A call of the system fails. -/
def Fault.IsSystem (fault : Fault) : Prop := ∃ cause, fault = .system cause

/-- A call on the browser fails. -/
def Fault.IsBrowser (fault : Fault) : Prop := ∃ message, fault = .browser message

theorem Fault.not_browser_host (cause : Host.Fault) : ¬ (Fault.host cause).IsBrowser :=
  fun ⟨_, h⟩ => by cases h

theorem Fault.not_browser_system (cause : SystemFault) : ¬ (Fault.system cause).IsBrowser :=
  fun ⟨_, h⟩ => by cases h

theorem Fault.not_browser_nul : ¬ Fault.nul.IsBrowser := fun ⟨_, h⟩ => by cases h

namespace Act

/-- An act ends well. -/
def Succeeds (act : Act α) (env : Environment) (s : State) : Prop := ∃ a s', act env s = .ok a s'

/-- An act fails with a fault that is not reported. -/
def Leaks (act : Act α) (env : Environment) (s : State) (fault : Fault) : Prop :=
  fault.isReported = false ∧ ∃ s', act env s = .error fault s'

/-- An act whose faults are all reported. -/
abbrev Reports (act : Act α) : Prop := FailsWith (fun fault => fault.isReported = true) act

theorem Reports.not_leaks {act : Act α} (h : Reports act) : ¬ Leaks act env s fault := by
  rintro ⟨hfault, s', hact⟩
  rw [h env s fault s' hact] at hfault
  cases hfault

theorem FailsWith.of_leaks {P : Fault → Prop} {act : Act α} (h : FailsWith P act)
    (hleaks : Leaks act env s fault) : P fault :=
  let ⟨_, s', hact⟩ := hleaks
  h env s fault s' hact

theorem Succeeds.not_leaks {act : Act α} (h : Succeeds act env s) : ¬ Leaks act env s fault := by
  obtain ⟨a, s', hok⟩ := h
  rintro ⟨_, _, herror⟩
  cases hok.symm.trans herror

/-! ## Leaks of what is put together -/

theorem leaks_pure {a : α} : ¬ Leaks (pure a : Act α) env s fault := by
  rintro ⟨_, _, h⟩
  cases h

theorem leaks_of_error {act : Act α} {f : Fault} {t : State} (h : act env s = .error f t) :
    Leaks act env s fault ↔ fault.isReported = false ∧ fault = f := by
  rw [Leaks, h]
  simp only [EStateM.Result.error.injEq, exists_and_left, exists_eq', and_true, eq_comm]

/-- An act that fails with a fault that is not reported leaks it and no other. -/
theorem leaks_of_unreported {act : Act α} {f : Fault} {t : State} (h : act env s = .error f t)
    (hf : f.isReported = false) : Leaks act env s fault ↔ fault = f := by
  rw [leaks_of_error h]
  exact ⟨And.right, fun he => ⟨he ▸ hf, he⟩⟩

theorem Reports.ofExcept {ε : Type} {name : ε → Fault} (h : ∀ e, (name e).isReported = true)
    (x : Except ε α) : Reports (ofExcept name x) := FailsWith.ofExcept h x

theorem leaks_ofExcept {ε : Type} {name : ε → Fault} {x : Except ε α} :
    Leaks (ofExcept name x) env s fault ↔
      fault.isReported = false ∧ ∃ e, x = .error e ∧ fault = name e := by
  rw [Leaks]
  simp only [ofExcept_error]
  grind

theorem leaks_bind {act : Act α} {next : α → Act β} :
    Leaks (act >>= next) env s fault ↔
      Leaks act env s fault ∨ ∃ a t, act env s = .ok a t ∧ Leaks (next a) env t fault := by
  simp only [Leaks, bind_error]
  grind

/-- What comes after an act that cannot fail is what leaks. -/
theorem leaks_bind_of_ok {act : Act α} {next : α → Act β} {a : α} {t : State}
    (h : act env s = .ok a t) :
    Leaks (act >>= next) env s fault ↔ Leaks (next a) env t fault := by
  rw [Leaks, bind_of_ok h]
  rfl

/-- What comes after an act that fails leaks no more than the act. -/
theorem leaks_bind_of_error {act : Act α} {next : α → Act β} {f : Fault} {t : State}
    (h : act env s = .error f t) :
    Leaks (act >>= next) env s fault ↔ fault.isReported = false ∧ fault = f :=
  leaks_of_error (bind_error.mpr (Or.inl h))

/-- If an act reports, what comes after it is what leaks. -/
theorem Reports.leaks_bind {act : Act α} {next : α → Act β} (h : Reports act) :
    Leaks (act >>= next) env s fault ↔
      ∃ a t, act env s = .ok a t ∧ Leaks (next a) env t fault := by
  rw [Act.leaks_bind]
  exact or_iff_right h.not_leaks

theorem Reports.leaks_then {act : Act Unit} {next : Unit → Act β} (h : Reports act) :
    Leaks (act >>= next) env s fault ↔
      ∃ t, act env s = .ok () t ∧ Leaks (next ()) env t fault := by
  rw [h.leaks_bind]
  exact ⟨fun ⟨_, t, hnext⟩ => ⟨t, hnext⟩, fun ⟨t, hnext⟩ => ⟨(), t, hnext⟩⟩

/-- If what comes after an act reports, it is the act that leaks. -/
theorem leaks_bind_of_reports {act : Act α} {next : α → Act β} (h : ∀ a, Reports (next a)) :
    Leaks (act >>= next) env s fault ↔ Leaks act env s fault := by
  rw [leaks_bind]
  exact or_iff_left fun ⟨a, _, _, hnext⟩ => (h a).not_leaks hnext

/-- A leak of the first act is only seen if the second one succeeds. -/
theorem leaks_andAlways {act : Act α} {after : Act Unit} :
    Leaks (act.andAlways after) env s fault ↔
      Leaks after env (act.final env s) fault ∨
        Leaks act env s fault ∧ Succeeds after env (act.final env s) := by
  simp only [Leaks, Succeeds, andAlways_error]
  cases hact : act env s with
  | ok a t => rw [final_of_ok hact]; grind
  | error f t => rw [final_of_error hact]; grind

theorem leaks_rescue {act : Act α} {handler : Fault → Act α} :
    Leaks (act.rescue handler) env s fault ↔
      ∃ f t, act env s = .error f t ∧ Leaks (handler f) env t fault := by
  simp only [Leaks, rescue_error]
  grind

/-- Waiting for a reaction never fails. -/
theorem browse_never {P : Fault → Prop} (e : Event) : FailsWith P (browse e) :=
  (FailsWith.modify _).bind fun _ => FailsWith.environment.bind fun _ => FailsWith.get.bind
    fun _ => (FailsWith.modify _).bind fun _ => .pure _

end Act

open Act (Leaks Reports Succeeds)

/-! ## The store -/

namespace Disk

variable {p : Path}

theorem during_reports {task : StorageTask} {act : Act α} (h : FailsWith Fault.IsSystem act) :
    Reports (during task act) :=
  h.mapFault fun _ ⟨_, hcause⟩ => hcause ▸ rfl

theorem checkPath_system (hnul : p.holdsNul = false) : FailsWith Fault.IsSystem (checkPath p) := by
  rw [checkPath, hnul]
  exact .pure ()

theorem look_system (p : Path) (question : Store → Location → Path → Except Errno α) :
    FailsWith Fault.IsSystem (look p question) :=
  FailsWith.environment.bind fun _ => FailsWith.get.bind fun _ => .ofExcept (fun _ => ⟨_, rfl⟩) _

theorem size_system (hnul : p.holdsNul = false) : FailsWith Fault.IsSystem (size p) :=
  (checkPath_system hnul).bind fun _ => look_system p _

theorem changeUntil_system (hnul : p.holdsNul = false)
    {call : Store → Location → Path → Store × Option Fault}
    (hcall : ∀ store here f, (call store here p).2 = some f → f.IsSystem) :
    FailsWith Fault.IsSystem (changeUntil p call) := by
  intro env s fault s' h
  rw [changeUntil_eq, hnul] at h
  cases hf : (call s.store env.here p).2 with
  | none =>
      simp only [hf] at h
      cases h
  | some f =>
      simp only [hf] at h
      cases h
      exact hcall _ _ _ hf

theorem ensureDirectories_system (hnul : p.holdsNul = false) :
    FailsWith Fault.IsSystem (ensureDirectories p) := by
  refine changeUntil_system hnul fun store here f hf => ?_
  obtain ⟨_, _, rfl⟩ := Option.map_eq_some_iff.mp hf
  exact ⟨_, rfl⟩

/-- A directory is not made along a path with the character that none may hold. -/
theorem during_ensureDirectories_of_nul (task : StorageTask) (hnul : p.holdsNul = true)
    (env : Environment) (s : State) :
    during task (ensureDirectories p) env s = .error .nul s :=
  Act.mapFault_error.mpr ⟨.nul, by rw [ensureDirectories, changeUntil_eq, hnul]; rfl, rfl⟩

theorem ensureParent_reports {file : Path} (hnul : file.parent.holdsNul = false) :
    Reports (ensureParent file) :=
  during_reports (ensureDirectories_system hnul)

/-- What can be asked for has a size. -/
theorem size_of_hasEntry (h : s.store.hasEntry env.here p = .ok true) :
    Succeeds (size p) env s := by
  rw [Store.hasEntry, Store.ask] at h
  split at h
  · cases h
  · rename_i hnul
    cases hstat : s.store.stat env.here p with
    | error e =>
        simp only [hstat] at h
        split at h <;> cases h
    | ok found =>
        refine ⟨found.2.size, s, size_ok.mpr ⟨by simpa using hnul, ?_, rfl⟩⟩
        rw [Store.sizeAt, hstat]
        rfl

theorem leaks_change (hnul : p.holdsNul = false)
    {call : Store → Location → Path → Except Errno Store} :
    Leaks (change p call) env s fault ↔
      ∃ e, call s.store env.here p = .error e ∧ fault = refused e p := by
  have hchange := change_eq p call env s
  rw [hnul] at hchange
  cases hcalled : call s.store env.here p with
  | ok store =>
      rw [hcalled] at hchange
      have hsucceeds : Succeeds (change p call) env s := ⟨(), _, hchange⟩
      exact iff_of_false hsucceeds.not_leaks nofun
  | error e =>
      rw [hcalled] at hchange
      simp [Act.leaks_of_unreported hchange rfl]

/-- What is left unless there is nothing is left by a refused call. -/
theorem leaks_unlinkIfThere (hnul : p.holdsNul = false) :
    Leaks (unlinkIfThere p) env s fault ↔
      ∃ e, s.store.unlink env.here p = .error e ∧ e ≠ .noEntry ∧ fault = refused e p := by
  have hunlink := change_eq p Store.unlink env s
  rw [hnul] at hunlink
  cases hleft : s.store.unlink env.here p with
  | ok store =>
      rw [hleft] at hunlink
      have hsucceeds : Succeeds (unlinkIfThere p) env s :=
        ⟨(), _, Act.rescue_ok.mpr (Or.inl hunlink)⟩
      exact iff_of_false hsucceeds.not_leaks nofun
  | error e =>
      rw [hleft] at hunlink
      by_cases hnone : e = .noEntry
      · subst hnone
        have hsucceeds : Succeeds (unlinkIfThere p) env s :=
          ⟨(), s, Act.rescue_ok.mpr (Or.inr ⟨_, s, hunlink, rfl⟩)⟩
        exact iff_of_false hsucceeds.not_leaks (by simp)
      · have herror : unlinkIfThere p env s = .error (refused e p) s := by
          refine Act.rescue_error.mpr ⟨_, s, hunlink, ?_⟩
          cases e
          case noEntry => exact absurd rfl hnone
          all_goals rfl
        simp [Act.leaks_of_unreported herror rfl, hnone]

end Disk

/-! ## The browser -/

namespace Browser

theorem naming_reports {cause : String → RenderFault} {act : Act α}
    (h : FailsWith Fault.IsBrowser act) : Reports (act.mapFault (asRendering cause)) :=
  h.mapFault fun _ ⟨_, hmessage⟩ => hmessage ▸ rfl

/-- Naming the page leaves only the leaks that are no faults of the browser. -/
theorem leaks_naming {cause : String → RenderFault} {act : Act α} :
    Leaks (act.mapFault (asRendering cause)) env s fault ↔
      Leaks act env s fault ∧ ¬ fault.IsBrowser := by
  simp only [Leaks, Act.mapFault_error]
  constructor
  · rintro ⟨hfault, s', f, hact, rfl⟩
    cases f
    case browser => cases hfault
    all_goals exact ⟨⟨hfault, s', hact⟩, by rintro ⟨_, h⟩; cases h⟩
  · rintro ⟨⟨hfault, s', hact⟩, hnot⟩
    refine ⟨hfault, s', fault, hact, ?_⟩
    cases fault
    case browser message => exact absurd ⟨message, rfl⟩ hnot
    all_goals rfl

theorem settle_browser (reaction : Reaction) :
    FailsWith Fault.IsBrowser (Act.settle reaction) := by
  rw [Act.settle]
  split
  · exact .throw ⟨_, rfl⟩
  · exact .pure ()

theorem call_browser (e : Event) : FailsWith Fault.IsBrowser (call e) :=
  (Act.browse_never e).bind settle_browser

theorem leaks_call {e : Event} :
    Leaks (call e) env s fault ↔
      ∃ message, (env.react (s.trace ++ [e])).failure = some message ∧
        fault = .browser message := by
  have hcall := call_eq e env s
  cases hfailure : (env.react (s.trace ++ [e])).failure with
  | none =>
      rw [hfailure] at hcall
      have hsucceeds : Succeeds (call e) env s := ⟨(), _, hcall⟩
      exact iff_of_false hsucceeds.not_leaks nofun
  | some message =>
      rw [hfailure] at hcall
      simp [Act.leaks_of_unreported hcall rfl]

theorem succeeds_call {e : Event} :
    Succeeds (call e) env s ↔ (env.react (s.trace ++ [e])).failure = none := by
  rw [Succeeds, call_eq]
  cases (env.react (s.trace ++ [e])).failure with
  | none => simp
  | some message => simp

theorem close_reports : Reports close := by
  refine FailsWith.get.bind fun s => (FailsWith.modify _).bind fun _ => naming_reports ?_
  refine .andAlways ?_ ?_
  · split
    · exact call_browser _
    · exact .pure ()
  · split
    · exact call_browser _
    · exact .pure ()

theorem ensureOpen_reports (settings : Settings) : Reports (ensureOpen settings) := by
  have hlaunch : FailsWith Fault.IsBrowser (launch settings) :=
    (call_browser _).bind fun _ => (FailsWith.modify _).bind fun _ =>
      (call_browser _).bind fun _ => .modify _
  have hrescued : Reports ((launch settings).rescue abandon) := by
    refine hlaunch.rescue fun f ⟨message, hmessage⟩ => ?_
    rw [hmessage]
    exact close_reports.bind fun _ => .throw rfl
  have hnoted : Reports (do Act.note .startingBrowser; (launch settings).rescue abandon) :=
    (FailsWith.modify _).bind fun _ => hrescued
  refine FailsWith.get.bind fun s => ?_
  split
  · exact .pure ()
  · refine FailsWith.environment.bind fun env => ?_
    split
    · have hmissing : Reports (throw (.render .missing) : Act PUnit) := .throw rfl
      exact hmissing.bind fun _ => hnoted
    · exact hnoted

end Browser

end Dossier
