import Dossier.Act

/-!
# How acts end

An act that is put together from others ends well only if its parts do
(`bind_ok`, `andAlways_ok`), and its fault is the fault of one of them
(`bind_error`, `andAlways_error`).

An act *follows* a relation if the state after it is related to the state
before it, whether it fails or not, and it *keeps* a part of the state if that
part is the same.  An act *fails with* a property if all its faults have it.
What is put together from acts that do, does so too.
-/

namespace Dossier.Act

variable {α β γ : Type} {env : Environment} {s s' : State} {fault : Fault}

/-! ## Ending well -/

theorem bind_ok {act : Act α} {next : α → Act β} {b : β} :
    (act >>= next) env s = .ok b s' ↔ ∃ a t, act env s = .ok a t ∧ next a env t = .ok b s' := by
  show EStateM.bind (act env) (fun a => next a env) s = _ ↔ _
  rw [EStateM.bind]
  cases act env s <;> grind

theorem pure_ok {a b : α} : (pure a : Act α) env s = .ok b s' ↔ a = b ∧ s = s' := by
  show EStateM.Result.ok a s = .ok b s' ↔ _
  simp

theorem throw_ok {a : α} : ¬ (throw fault : Act α) env s = .ok a s' := fun h => nomatch h

theorem get_ok {a : State} : (get : Act State) env s = .ok a s' ↔ a = s ∧ s' = s := by
  show EStateM.Result.ok s s = .ok a s' ↔ _
  simp [eq_comm]

theorem modify_ok {f : State → State} {u : Unit} :
    (modify f : Act Unit) env s = .ok u s' ↔ s' = f s := by
  show EStateM.Result.ok () (f s) = .ok u s' ↔ _
  simp [eq_comm]

theorem ofExcept_ok {ε : Type} {name : ε → Fault} {x : Except ε α} {a : α} :
    ofExcept name x env s = .ok a s' ↔ x = .ok a ∧ s' = s := by
  cases x with
  | ok b =>
      rw [ofExcept, pure_ok]
      simp [eq_comm]
  | error e => simpa [ofExcept] using throw_ok

theorem mapFault_ok {rename : Fault → Fault} {act : Act α} {a : α} :
    act.mapFault rename env s = .ok a s' ↔ act env s = .ok a s' := by
  rw [mapFault]
  cases act env s <;> simp

theorem andAlways_ok {act : Act α} {after : Act Unit} {a : α} :
    act.andAlways after env s = .ok a s' ↔ ∃ t, act env s = .ok a t ∧ after env t = .ok () s' := by
  rw [andAlways]
  cases act env s <;> grind

theorem rescue_ok {act : Act α} {handler : Fault → Act α} {a : α} :
    act.rescue handler env s = .ok a s' ↔
      act env s = .ok a s' ∨ ∃ f t, act env s = .error f t ∧ handler f env t = .ok a s' := by
  rw [rescue]
  cases act env s <;> grind

theorem bind_of_ok {act : Act α} {next : α → Act β} {a : α} (h : act env s = .ok a s') :
    (act >>= next) env s = next a env s' := by
  show EStateM.bind (act env) (fun a => next a env) s = _
  rw [EStateM.bind, h]

/-- A note changes nothing but the notes. -/
theorem bind_note (n : Note) (next : Unit → Act β) :
    (note n >>= next) env s = next () env { s with notes := s.notes ++ [n] } :=
  bind_of_ok (modify_ok.mpr rfl)

/-! ## Failing -/

theorem bind_error {act : Act α} {next : α → Act β} :
    (act >>= next) env s = .error fault s' ↔
      act env s = .error fault s' ∨
        ∃ a t, act env s = .ok a t ∧ next a env t = .error fault s' := by
  show EStateM.bind (act env) (fun a => next a env) s = _ ↔ _
  rw [EStateM.bind]
  cases act env s <;> grind

theorem throw_error {f : Fault} :
    (throw f : Act α) env s = .error fault s' ↔ f = fault ∧ s' = s := by
  show EStateM.Result.error f s = .error fault s' ↔ _
  simp [eq_comm]

theorem ofExcept_error {ε : Type} {name : ε → Fault} {x : Except ε α} :
    ofExcept name x env s = .error fault s' ↔ ∃ e, x = .error e ∧ fault = name e ∧ s' = s := by
  cases x with
  | ok b =>
      have h : ¬ (pure b : Act α) env s = .error fault s' := fun h => nomatch h
      simpa [ofExcept] using h
  | error e =>
      rw [ofExcept, throw_error]
      simp [eq_comm]

theorem mapFault_error {rename : Fault → Fault} {act : Act α} :
    act.mapFault rename env s = .error fault s' ↔
      ∃ f, act env s = .error f s' ∧ rename f = fault := by
  rw [mapFault]
  cases act env s with
  | ok b t => simp
  | error f t =>
      simp only [EStateM.Result.error.injEq]
      constructor
      · rintro ⟨rfl, rfl⟩
        exact ⟨f, ⟨rfl, rfl⟩, rfl⟩
      · rintro ⟨g, ⟨rfl, rfl⟩, rfl⟩
        exact ⟨rfl, rfl⟩

theorem andAlways_error {act : Act α} {after : Act Unit} :
    act.andAlways after env s = .error fault s' ↔
      (∃ a t, act env s = .ok a t ∧ after env t = .error fault s') ∨
        (∃ t, act env s = .error fault t ∧ after env t = .ok () s') ∨
          ∃ f t, act env s = .error f t ∧ after env t = .error fault s' := by
  rw [andAlways]
  cases act env s <;> grind

theorem rescue_error {act : Act α} {handler : Fault → Act α} :
    act.rescue handler env s = .error fault s' ↔
      ∃ f t, act env s = .error f t ∧ handler f env t = .error fault s' := by
  rw [rescue]
  cases act env s <;> grind

/-! ## Checking a run -/

/-- An act ends well, with a value and in a state that pass a check. -/
def EndsIn (act : Act α) (env : Environment) (s : State) (check : α → State → Bool) : Bool :=
  match act env s with
  | .ok a s' => check a s'
  | .error _ _ => false

/-- An act fails, with a fault and in a state that pass a check. -/
def BreaksIn (act : Act α) (env : Environment) (s : State) (check : Fault → State → Bool) : Bool :=
  match act env s with
  | .ok _ _ => false
  | .error fault s' => check fault s'

theorem exists_of_endsIn {act : Act α} {check : α → State → Bool}
    (h : act.EndsIn env s check = true) : ∃ a s', act env s = .ok a s' ∧ check a s' = true := by
  rw [EndsIn] at h
  cases hact : act env s with
  | ok a t => exact ⟨a, t, rfl, by rwa [hact] at h⟩
  | error f t => rw [hact] at h; cases h

theorem exists_of_breaksIn {act : Act α} {check : Fault → State → Bool}
    (h : act.BreaksIn env s check = true) :
    ∃ f s', act env s = .error f s' ∧ check f s' = true := by
  rw [BreaksIn] at h
  cases hact : act env s with
  | ok a t => rw [hact] at h; cases h
  | error f t => exact ⟨f, t, rfl, by rwa [hact] at h⟩

/-- A result that is checked as an option is that result. -/
theorem ok_of_toOption {ε : Type} {x : Except ε α} {a : α} (h : x.toOption = some a) :
    x = .ok a := by
  cases x with
  | ok b => rw [Option.some.inj h]
  | error e => cases h

/-! ## Following a relation -/

/-- The state an act ends in, whether it fails or not. -/
def final (act : Act α) (env : Environment) (s : State) : State :=
  match act env s with
  | .ok _ s => s
  | .error _ s => s

theorem final_of_ok {act : Act α} {a : α} (h : act env s = .ok a s') : act.final env s = s' := by
  rw [final, h]

theorem final_of_error {act : Act α} (h : act env s = .error fault s') :
    act.final env s = s' := by
  rw [final, h]

theorem final_bind {act : Act α} {next : α → Act β} {a : α} (h : act env s = .ok a s') :
    (act >>= next).final env s = (next a).final env s' := by
  rw [final, bind_of_ok h, ← final]

theorem final_bind_of_error {act : Act α} {next : α → Act β} (h : act env s = .error fault s') :
    (act >>= next).final env s = s' := final_of_error (bind_error.mpr (Or.inl h))

theorem final_mapFault (rename : Fault → Fault) (act : Act α) :
    (act.mapFault rename).final env s = act.final env s := by
  simp only [final, mapFault]
  cases act env s <;> rfl

theorem final_andAlways (act : Act α) (after : Act Unit) :
    (act.andAlways after).final env s = after.final env (act.final env s) := by
  simp only [final, andAlways]
  cases act env s with
  | ok a t => cases h : after env t <;> simp only [h]
  | error f t => cases h : after env t <;> simp only [h]

/-- A relation that acts can follow one after the other. -/
structure Chained (R : State → State → Prop) : Prop where
  refl : ∀ s, R s s
  trans : ∀ {s t u}, R s t → R t u → R s u

/-- An act that leads along a relation, whether it fails or not. -/
def Follows (env : Environment) (R : State → State → Prop) (act : Act α) : Prop :=
  ∀ s, R s (act.final env s)

namespace Follows

variable {R : State → State → Prop}

theorem ok {act : Act α} (h : Follows env R act) {a : α} (hact : act env s = .ok a s') :
    R s s' := final_of_ok hact ▸ h s

theorem error {act : Act α} (h : Follows env R act) (hact : act env s = .error fault s') :
    R s s' := final_of_error hact ▸ h s

theorem of_endings {act : Act α} (hok : ∀ s a s', act env s = .ok a s' → R s s')
    (herror : ∀ s f s', act env s = .error f s' → R s s') : Follows env R act := by
  intro s
  cases h : act env s with
  | ok a t => rw [final_of_ok h]; exact hok s a t h
  | error f t => rw [final_of_error h]; exact herror s f t h

theorem pure (hR : Chained R) (a : α) : Follows env R (pure a : Act α) := hR.refl

theorem throw (hR : Chained R) (f : Fault) : Follows env R (throw f : Act α) := hR.refl

theorem get (hR : Chained R) : Follows env R (get : Act State) := hR.refl

theorem environment (hR : Chained R) : Follows env R Act.environment := hR.refl

theorem modify {f : State → State} (h : ∀ s, R s (f s)) :
    Follows env R (modify f : Act Unit) := h

theorem ofExcept (hR : Chained R) {ε : Type} (name : ε → Fault) (x : Except ε α) :
    Follows env R (Act.ofExcept name x) := by
  cases x with
  | ok a => exact pure hR a
  | error e => exact throw hR (name e)

/-- What comes next need only follow the relation for values that there can be. -/
theorem bind_of_ok (hR : Chained R) {act : Act α} {next : α → Act β} (hact : Follows env R act)
    (hnext : ∀ s a t, act env s = .ok a t → Follows env R (next a)) :
    Follows env R (act >>= next) := by
  refine of_endings (fun s b s' h => ?_) fun s f s' h => ?_
  · obtain ⟨a, t, ha, hb⟩ := bind_ok.mp h
    exact hR.trans (hact.ok ha) ((hnext s a t ha).ok hb)
  · rcases bind_error.mp h with ha | ⟨a, t, ha, hb⟩
    · exact hact.error ha
    · exact hR.trans (hact.ok ha) ((hnext s a t ha).error hb)

theorem bind (hR : Chained R) {act : Act α} {next : α → Act β} (hact : Follows env R act)
    (hnext : ∀ a, Follows env R (next a)) : Follows env R (act >>= next) :=
  bind_of_ok hR hact fun _ a _ _ => hnext a

theorem mapFault {act : Act α} (hact : Follows env R act) (rename : Fault → Fault) :
    Follows env R (act.mapFault rename) := by
  refine of_endings (fun s b s' h => hact.ok (mapFault_ok.mp h)) fun s f s' h => ?_
  obtain ⟨g, hg, _⟩ := mapFault_error.mp h
  exact hact.error hg

theorem andAlways (hR : Chained R) {act : Act α} {after : Act Unit} (hact : Follows env R act)
    (hafter : Follows env R after) : Follows env R (act.andAlways after) := by
  refine of_endings (fun s b s' h => ?_) fun s f s' h => ?_
  · obtain ⟨t, ha, hb⟩ := andAlways_ok.mp h
    exact hR.trans (hact.ok ha) (hafter.ok hb)
  · rcases andAlways_error.mp h with ⟨a, t, ha, hb⟩ | ⟨t, ha, hb⟩ | ⟨g, t, ha, hb⟩
    · exact hR.trans (hact.ok ha) (hafter.error hb)
    · exact hR.trans (hact.error ha) (hafter.ok hb)
    · exact hR.trans (hact.error ha) (hafter.error hb)

theorem rescue (hR : Chained R) {act : Act α} {handler : Fault → Act α}
    (hact : Follows env R act) (hhandler : ∀ f, Follows env R (handler f)) :
    Follows env R (act.rescue handler) := by
  refine of_endings (fun s b s' h => ?_) fun s f s' h => ?_
  · rcases rescue_ok.mp h with ha | ⟨g, t, ha, hb⟩
    · exact hact.ok ha
    · exact hR.trans (hact.error ha) ((hhandler g).ok hb)
  · obtain ⟨g, t, ha, hb⟩ := rescue_error.mp h
    exact hR.trans (hact.error ha) ((hhandler g).error hb)

theorem ite {c : Prop} [Decidable c] {act other : Act α} (hact : Follows env R act)
    (hother : Follows env R other) : Follows env R (if c then act else other) := by
  split
  · exact hact
  · exact hother

end Follows

/-- An act after which a part of the state is the same, whether it fails or
not. -/
def Keeps (part : State → γ) (act : Act α) : Prop :=
  ∀ env, Follows env (fun s s' => part s' = part s) act

theorem Keeps.ok {part : State → γ} {act : Act α} (h : Keeps part act) {a : α}
    (hact : act env s = .ok a s') : part s' = part s := (h env).ok hact

/-- A part that is kept afterwards is as the act leaves it. -/
theorem Keeps.final_andAlways {part : State → γ} {after : Act Unit} (h : Keeps part after)
    (act : Act α) : part ((act.andAlways after).final env s) = part (act.final env s) := by
  rw [Act.final_andAlways]
  exact h env _

/-- A part that what comes next keeps is as the act leaves it. -/
theorem Keeps.final_bind {part : State → γ} {act : Act α} {next : α → Act β}
    (h : ∀ a, Keeps part (next a)) :
    part ((act >>= next).final env s) = part (act.final env s) := by
  cases hact : act env s with
  | ok a t =>
      rw [Act.final_bind hact, final_of_ok hact]
      exact h a env t
  | error f t => rw [final_bind_of_error hact, final_of_error hact]

theorem Keeps.final_rescue {part : State → γ} {handler : Fault → Act α}
    (h : ∀ f, Keeps part (handler f)) (act : Act α) :
    part ((act.rescue handler).final env s) = part (act.final env s) := by
  cases hact : act env s with
  | ok a t =>
      rw [final_of_ok hact, final_of_ok (rescue_ok.mpr (Or.inl hact))]
  | error f t =>
      rw [final_of_error hact, final, rescue, hact]
      exact h f env t

/-- That a part is the same can be followed. -/
theorem Chained.part (part : State → γ) : Chained fun s s' => part s' = part s where
  refl _ := rfl
  trans h h' := h'.trans h

/-! ## Faults with a property -/

/-- An act whose faults all have a property. -/
def FailsWith (P : Fault → Prop) (act : Act α) : Prop :=
  ∀ env s fault s', act env s = .error fault s' → P fault

namespace FailsWith

variable {P Q : Fault → Prop}

theorem pure (a : α) : FailsWith P (pure a : Act α) := fun _ _ _ _ h => nomatch h

theorem get : FailsWith P (get : Act State) := fun _ _ _ _ h => nomatch h

theorem environment : FailsWith P Act.environment := fun _ _ _ _ h => nomatch h

theorem modify (f : State → State) : FailsWith P (modify f : Act Unit) :=
  fun _ _ _ _ h => nomatch h

theorem throw {f : Fault} (hf : P f) : FailsWith P (throw f : Act α) := fun _ _ _ _ h =>
  (throw_error.mp h).1 ▸ hf

theorem ofExcept {ε : Type} {name : ε → Fault} (hname : ∀ e, P (name e)) (x : Except ε α) :
    FailsWith P (Act.ofExcept name x) := by
  intro env s f s' h
  obtain ⟨e, _, rfl, _⟩ := ofExcept_error.mp h
  exact hname e

theorem bind {act : Act α} {next : α → Act β} (hact : FailsWith P act)
    (hnext : ∀ a, FailsWith P (next a)) : FailsWith P (act >>= next) := by
  intro env s f s' h
  rcases bind_error.mp h with ha | ⟨a, t, _, hb⟩
  · exact hact env s f s' ha
  · exact hnext a env t f s' hb

theorem mapFault {act : Act α} {rename : Fault → Fault} (hact : FailsWith Q act)
    (hrename : ∀ f, Q f → P (rename f)) : FailsWith P (act.mapFault rename) := by
  intro env s f s' h
  obtain ⟨g, hg, rfl⟩ := mapFault_error.mp h
  exact hrename g (hact env s g s' hg)

theorem andAlways {act : Act α} {after : Act Unit} (hact : FailsWith P act)
    (hafter : FailsWith P after) : FailsWith P (act.andAlways after) := by
  intro env s f s' h
  rcases andAlways_error.mp h with ⟨a, t, _, hb⟩ | ⟨t, ha, _⟩ | ⟨g, t, _, hb⟩
  · exact hafter env t f s' hb
  · exact hact env s f t ha
  · exact hafter env t f s' hb

/-- A fault without the property is that of the act itself. -/
theorem error_of_andAlways {act : Act α} {after : Act Unit} (hafter : FailsWith P after)
    (hfault : ¬ P fault) (h : act.andAlways after env s = .error fault s') :
    ∃ t, act env s = .error fault t ∧ after env t = .ok () s' := by
  rcases andAlways_error.mp h with ⟨_, t, _, hb⟩ | hact | ⟨_, t, _, hb⟩
  · exact absurd (hafter env t fault s' hb) hfault
  · exact hact
  · exact absurd (hafter env t fault s' hb) hfault

theorem rescue {act : Act α} {handler : Fault → Act α} (hact : FailsWith Q act)
    (hhandler : ∀ f, Q f → FailsWith P (handler f)) : FailsWith P (act.rescue handler) := by
  intro env s f s' h
  obtain ⟨g, t, hg, hb⟩ := rescue_error.mp h
  exact hhandler g (hact env s g t hg) env t f s' hb

end FailsWith

end Dossier.Act
