import Dossier.Proofs.Act.Ending
import Dossier.Disk

/-!
# Calls on the store, as acts

What the acts on the store do, all at once: a path that no path may be is
refused, a call that succeeds changes the store and nothing else, and a call
that is refused is a fault.  Making directories and removing a tree change the
store even when they fail.
-/

namespace Dossier.Disk

variable {env : Environment} {s s' : State} {p : Path} {fault : Fault}

/-! ## The acts as functions -/

theorem checkPath_eq (p : Path) (env : Environment) (s : State) :
    checkPath p env s = if p.holdsNul then .error .nul s else .ok () s := by
  rw [checkPath]
  split <;> rfl

theorem look_eq {α : Type} (p : Path) (question : Store → Location → Path → Except Errno α)
    (env : Environment) (s : State) :
    look p question env s = match question s.store env.here p with
      | .ok a => .ok a s
      | .error e => .error (refused e p) s := by
  show Act.ofExcept (refused · p) (question s.store env.here p) env s = _
  cases question s.store env.here p <;> rfl

theorem change_eq (p : Path) (call : Store → Location → Path → Except Errno Store)
    (env : Environment) (s : State) :
    change p call env s =
      if p.holdsNul then .error .nul s
      else match call s.store env.here p with
        | .ok store => .ok () { s with store := store }
        | .error e => .error (refused e p) s := by
  show EStateM.bind (checkPath p env) _ s = _
  rw [EStateM.bind, checkPath_eq]
  by_cases h : p.holdsNul = true
  · simp only [if_pos h]
  · simp only [if_neg h]
    show EStateM.bind (look p call env) _ s = _
    rw [EStateM.bind, look_eq]
    cases call s.store env.here p <;> rfl

theorem changeUntil_eq (p : Path) (call : Store → Location → Path → Store × Option Fault)
    (env : Environment) (s : State) :
    changeUntil p call env s =
      if p.holdsNul then .error .nul s
      else match (call s.store env.here p).2 with
        | none => .ok () { s with store := (call s.store env.here p).1 }
        | some fault => .error fault { s with store := (call s.store env.here p).1 } := by
  show EStateM.bind (checkPath p env) _ s = _
  rw [EStateM.bind, checkPath_eq]
  by_cases h : p.holdsNul = true
  · simp only [if_pos h]
  · simp only [if_neg h]
    show failIf (call s.store env.here p).2 env { s with store := (call s.store env.here p).1 } = _
    cases (call s.store env.here p).2 <;> rfl

/-- What is changed until a refusal is changed however the act ends. -/
theorem final_changeUntil (p : Path) (call : Store → Location → Path → Store × Option Fault)
    (env : Environment) (s : State) :
    ((changeUntil p call).final env s).store =
      if p.holdsNul then s.store else (call s.store env.here p).1 := by
  rw [Act.final, changeUntil_eq]
  by_cases h : p.holdsNul = true
  · simp only [if_pos h]
  · simp only [if_neg h]
    cases (call s.store env.here p).2 <;> rfl

theorem create_eq (p : Path) (content : Content) (env : Environment) (s : State) :
    create p content env s =
      if p.holdsNul then .error .nul s
      else match s.store.placeToWrite env.here p with
        | .ok l => .ok l { s with store := s.store.put l (.file content) }
        | .error e => .error (refused e p) s := by
  show EStateM.bind (checkPath p env) _ s = _
  rw [EStateM.bind, checkPath_eq]
  by_cases h : p.holdsNul = true
  · simp only [if_pos h]
  · simp only [if_neg h]
    show EStateM.bind (look p Store.placeToWrite env) _ s = _
    rw [EStateM.bind, look_eq]
    cases s.store.placeToWrite env.here p <;> rfl

/-- A change of the store that is refused changes nothing. -/
theorem change_error {p : Path} {call : Store → Location → Path → Except Errno Store}
    (h : change p call env s = .error fault s') : s' = s := by
  rw [change_eq] at h
  split at h
  · cases h
    rfl
  · split at h <;> cases h
    rfl

/-- Nor does a file that cannot be opened. -/
theorem create_error {content : Content} (h : create p content env s = .error fault s') :
    s' = s := by
  rw [create_eq] at h
  split at h
  · cases h
    rfl
  · split at h <;> cases h
    rfl

/-! ## Ending well -/

theorem checkPath_ok {u : Unit} :
    checkPath p env s = .ok u s' ↔ p.holdsNul = false ∧ s' = s := by
  rw [checkPath_eq]
  grind

theorem look_ok {α : Type} {question : Store → Location → Path → Except Errno α} {a : α} :
    look p question env s = .ok a s' ↔ question s.store env.here p = .ok a ∧ s' = s := by
  rw [look_eq]
  cases question s.store env.here p <;> grind

theorem size_ok {n : Nat} :
    size p env s = .ok n s' ↔
      p.holdsNul = false ∧ s.store.sizeAt env.here p = .ok n ∧ s' = s := by
  rw [size, Act.bind_ok]
  constructor
  · rintro ⟨_, t, hcheck, hlook⟩
    obtain ⟨hnul, rfl⟩ := checkPath_ok.mp hcheck
    exact ⟨hnul, look_ok.mp hlook⟩
  · rintro ⟨hnul, hsize, rfl⟩
    exact ⟨(), s', checkPath_ok.mpr ⟨hnul, rfl⟩, look_ok.mpr ⟨hsize, rfl⟩⟩

theorem change_ok {call : Store → Location → Path → Except Errno Store} {u : Unit} :
    change p call env s = .ok u s' ↔
      p.holdsNul = false ∧ ∃ t, call s.store env.here p = .ok t ∧ s' = { s with store := t } := by
  rw [change_eq]
  cases call s.store env.here p <;> grind

theorem create_ok {content : Content} {l : Location} :
    create p content env s = .ok l s' ↔
      p.holdsNul = false ∧ s.store.placeToWrite env.here p = .ok l ∧
        s' = { s with store := s.store.put l (.file content) } := by
  rw [create_eq]
  cases s.store.placeToWrite env.here p <;> grind

theorem changeUntil_ok {call : Store → Location → Path → Store × Option Fault} {u : Unit} :
    changeUntil p call env s = .ok u s' ↔
      p.holdsNul = false ∧
        ∃ t, call s.store env.here p = (t, none) ∧ s' = { s with store := t } := by
  rw [changeUntil_eq]
  obtain ⟨t, fault⟩ := call s.store env.here p
  cases fault <;> grind

theorem ensureDirectories_ok {u : Unit} :
    ensureDirectories p env s = .ok u s' ↔
      p.holdsNul = false ∧
        ∃ t, s.store.ensureDirectories env.here p = (t, none) ∧ s' = { s with store := t } := by
  rw [ensureDirectories, changeUntil_ok]
  simp [Prod.ext_iff]

theorem removeTree_ok {u : Unit} :
    removeTree p env s = .ok u s' ↔
      p.holdsNul = false ∧
        ∃ t, s.store.removeTree env.here p = (t, none) ∧ s' = { s with store := t } := by
  rw [removeTree, changeUntil_ok]
  simp [Prod.ext_iff]

theorem during_ok {α : Type} {task : StorageTask} {act : Act α} {a : α} :
    during task act env s = .ok a s' ↔ act env s = .ok a s' :=
  Act.mapFault_ok

end Dossier.Disk
