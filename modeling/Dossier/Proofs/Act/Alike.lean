import Dossier.Proofs.Act.Dealings

/-!
# Acts that run alike

Two states *match* up to a relation between reports if they have the same store and the
same dealings, and reports that are related; their notes may be any.  Two acts run
*alike* if from states that match they either both end well, with values that are
related, or both fail with the same fault, and are left in states that match either way.

What is put together from acts that run alike runs alike (`Alike.bind` and the lemmas
beside it).  No act that a run is made of reads notes, and none but those that account
for something reads the report, so all others run like themselves, whatever the relation
between the reports is.
-/

namespace Dossier

/-- The states show the same, but for notes and up to a relation between reports. -/
structure State.Matches (Q : Report → Report → Prop) (s t : State) : Prop where
  store : t.store = s.store
  clock : t.clock = s.clock
  trace : t.trace = s.trace
  handles : t.handles = s.handles
  cookies : t.cookies = s.cookies
  report : Q s.report t.report

namespace Act

variable {α β γ δ : Type} {env : Environment} {Q : Report → Report → Prop}

/-- Two endings: values that are related or the same fault, in states that match. -/
inductive EndAlike (Q : Report → Report → Prop) (V : α → β → Prop) :
    EStateM.Result Fault State α → EStateM.Result Fault State β → Prop
  | ok {a : α} {b : β} {s t : State} (values : V a b) (states : s.Matches Q t) :
      EndAlike Q V (.ok a s) (.ok b t)
  | error {fault : Fault} {s t : State} (states : s.Matches Q t) :
      EndAlike Q V (.error fault s) (.error fault t)

/-- Two acts that end alike from states that match. -/
def Alike (env : Environment) (Q : Report → Report → Prop) (V : α → β → Prop) (act : Act α)
    (act' : Act β) : Prop :=
  ∀ s t : State, s.Matches Q t → EndAlike Q V (act env s) (act' env t)

namespace Alike

variable {V : α → β → Prop} {W : γ → δ → Prop}

/-! ## Combinators -/

theorem pure {a : α} {b : β} (h : V a b) : Alike env Q V (pure a) (pure b) :=
  fun _ _ hst => .ok h hst

theorem throw (fault : Fault) :
    Alike env Q V (throw fault : Act α) (throw fault : Act β) := fun _ _ hst => .error hst

theorem get : Alike env Q (State.Matches Q) (get : Act State) (get : Act State) :=
  fun _ _ hst => .ok hst hst

theorem environment : Alike env Q (· = ·) Act.environment Act.environment :=
  fun _ _ hst => .ok rfl hst

theorem modify {f g : State → State}
    (h : ∀ s t : State, s.Matches Q t → (f s).Matches Q (g t)) :
    Alike env Q (· = ·) (modify f : Act Unit) (modify g : Act Unit) :=
  fun s t hst => .ok rfl (h s t hst)

theorem ofExcept {ε : Type} (name : ε → Fault) (x : Except ε α) :
    Alike env Q (· = ·) (Act.ofExcept name x) (Act.ofExcept name x) := by
  cases x with
  | ok a => exact pure rfl
  | error e => exact throw (name e)

theorem endings {act : Act α} {act' : Act β} (h : Alike env Q V act act') {s t : State}
    (hst : s.Matches Q t) :
    (∃ a b s' t', act env s = .ok a s' ∧ act' env t = .ok b t' ∧ V a b ∧ s'.Matches Q t') ∨
      ∃ fault s' t', act env s = .error fault s' ∧ act' env t = .error fault t' ∧
        s'.Matches Q t' := by
  have hends := h s t hst
  cases hact : act env s <;> cases hact' : act' env t <;> rw [hact, hact'] at hends <;>
    cases hends
  · exact Or.inl ⟨_, _, _, _, rfl, rfl, by assumption, by assumption⟩
  · exact Or.inr ⟨_, _, _, rfl, rfl, by assumption⟩

theorem bind {act : Act α} {act' : Act β} {next : α → Act γ} {next' : β → Act δ}
    (hact : Alike env Q V act act') (hnext : ∀ a b, V a b → Alike env Q W (next a) (next' b)) :
    Alike env Q W (act >>= next) (act' >>= next') := by
  intro s t hst
  rcases hact.endings hst with ⟨a, b, s', t', ha, hb, hV, hst'⟩ | ⟨fault, s', t', ha, hb, hst'⟩
  · rw [bind_of_ok ha, bind_of_ok hb]
    exact hnext a b hV s' t' hst'
  · rw [bind_error.mpr (Or.inl ha), bind_error.mpr (Or.inl hb)]
    exact .error hst'

/-- Acts with the same values can go on from one value. -/
theorem bind_eq {act act' : Act α} {next : α → Act γ} {next' : α → Act δ}
    (hact : Alike env Q (· = ·) act act') (hnext : ∀ a, Alike env Q W (next a) (next' a)) :
    Alike env Q W (act >>= next) (act' >>= next') :=
  hact.bind fun a _ h => h ▸ hnext a

/-- What ends well and is not seen to do anything may come first. -/
theorem skip {act : Act γ} {next : γ → Act α} {act' : Act β}
    (hact : ∀ s t : State, s.Matches Q t → ∃ c s', act env s = .ok c s' ∧ s'.Matches Q t)
    (hnext : ∀ c, Alike env Q V (next c) act') : Alike env Q V (act >>= next) act' := by
  intro s t hst
  obtain ⟨c, s', hc, hst'⟩ := hact s t hst
  rw [bind_of_ok hc]
  exact hnext c s' t hst'

theorem mapFault {act : Act α} {act' : Act β} (h : Alike env Q V act act')
    (rename : Fault → Fault) : Alike env Q V (act.mapFault rename) (act'.mapFault rename) := by
  intro s t hst
  rcases h.endings hst with ⟨a, b, s', t', ha, hb, hV, hst'⟩ | ⟨fault, s', t', ha, hb, hst'⟩
  · rw [mapFault_ok.mpr ha, mapFault_ok.mpr hb]
    exact .ok hV hst'
  · rw [mapFault_error.mpr ⟨fault, ha, rfl⟩, mapFault_error.mpr ⟨fault, hb, rfl⟩]
    exact .error hst'

theorem andAlways {act : Act α} {act' : Act β} {after after' : Act Unit}
    (h : Alike env Q V act act') (hafter : Alike env Q (· = ·) after after') :
    Alike env Q V (act.andAlways after) (act'.andAlways after') := by
  intro s t hst
  rw [Act.andAlways, Act.andAlways]
  rcases h.endings hst with ⟨a, b, s', t', ha, hb, hV, hst'⟩ | ⟨fault, s', t', ha, hb, hst'⟩
  · rw [ha, hb]
    dsimp only
    rcases hafter.endings hst' with ⟨_, _, _, _, hc, hd, _, hlast⟩ | ⟨_, _, _, hc, hd, hlast⟩
    · rw [hc, hd]
      exact .ok hV hlast
    · rw [hc, hd]
      exact .error hlast
  · rw [ha, hb]
    dsimp only
    rcases hafter.endings hst' with ⟨_, _, _, _, hc, hd, _, hlast⟩ | ⟨_, _, _, hc, hd, hlast⟩
    · rw [hc, hd]
      exact .error hlast
    · rw [hc, hd]
      exact .error hlast

theorem rescue {act : Act α} {act' : Act β} {handler : Fault → Act α} {handler' : Fault → Act β}
    (h : Alike env Q V act act')
    (hhandler : ∀ fault, Alike env Q V (handler fault) (handler' fault)) :
    Alike env Q V (act.rescue handler) (act'.rescue handler') := by
  intro s t hst
  rw [Act.rescue, Act.rescue]
  rcases h.endings hst with ⟨a, b, s', t', ha, hb, hV, hst'⟩ | ⟨fault, s', t', ha, hb, hst'⟩
  · rw [ha, hb]
    exact .ok hV hst'
  · rw [ha, hb]
    exact hhandler fault s' t' hst'

theorem ite {c : Prop} [Decidable c] {act other : Act α} {act' other' : Act β}
    (hact : Alike env Q V act act') (hother : Alike env Q V other other') :
    Alike env Q V (if c then act else other) (if c then act' else other') := by
  split
  · exact hact
  · exact hother

end Alike

/-! ## Notes, events and time -/

/-- Notes are not compared. -/
theorem alike_note (n n' : Note) : Alike env Q (· = ·) (note n) (note n') :=
  .modify fun _ _ h => { h with }

theorem alike_record (e : Event) : Alike env Q (· = ·) (record e) (record e) :=
  .modify fun _ _ h => { h with trace := congrArg (· ++ [e]) h.trace }

theorem alike_wait (seconds : Float) : Alike env Q (· = ·) (wait seconds) (wait seconds) :=
  .modify fun _ _ h => { h with clock := congrArg (· + seconds) h.clock }

theorem alike_request (e : Event) : Alike env Q (· = ·) (request e) (request e) :=
  (alike_record e).bind_eq fun _ => Alike.environment.bind_eq fun env' =>
    Alike.get.bind fun s t h => by
      rw [h.trace]
      exact (alike_wait _).bind_eq fun _ => .pure rfl

theorem alike_browse (e : Event) : Alike env Q (· = ·) (browse e) (browse e) :=
  (alike_record e).bind_eq fun _ => Alike.environment.bind_eq fun env' =>
    Alike.get.bind fun s t h => by
      rw [h.trace]
      exact (alike_wait _).bind_eq fun _ => .pure rfl

theorem alike_settle (reaction : Reaction) :
    Alike env Q (· = ·) (settle reaction) (settle reaction) := by
  unfold settle
  split
  · exact .throw _
  · exact .pure rfl

theorem alike_account {change : Report → Report}
    (h : ∀ r r', Q r r' → Q (change r) (change r')) :
    Alike env Q (· = ·) (account change) (account change) :=
  .modify fun _ _ hst => { hst with report := h _ _ hst.report }

end Act

open Act (Alike)

variable {env : Environment} {Q : Report → Report → Prop} {settings : Settings}

/-! ## The store -/

namespace Disk

theorem alike_checkPath (p : Path) : Alike env Q (· = ·) (checkPath p) (checkPath p) := by
  unfold checkPath
  split
  · exact .throw _
  · exact .pure rfl

theorem alike_look {α : Type} (p : Path) (question : Store → Location → Path → Except Errno α) :
    Alike env Q (· = ·) (look p question) (look p question) :=
  Alike.environment.bind_eq fun _ => Alike.get.bind fun s t h => by
    rw [h.store]
    exact .ofExcept _ _

theorem alike_size (p : Path) : Alike env Q (· = ·) (size p) (size p) :=
  (alike_checkPath p).bind_eq fun _ => alike_look p _

theorem alike_change (p : Path) (call : Store → Location → Path → Except Errno Store) :
    Alike env Q (· = ·) (change p call) (change p call) :=
  (alike_checkPath p).bind_eq fun _ => (alike_look p call).bind_eq fun _ =>
    .modify fun _ _ h => { h with store := rfl }

theorem alike_writeAt (place : Location) (content : Content) :
    Alike env Q (· = ·) (writeAt place content) (writeAt place content) :=
  .modify fun _ _ h => { h with store := by rw [h.store] }

theorem alike_create (p : Path) (content : Content) :
    Alike env Q (· = ·) (create p content) (create p content) :=
  (alike_checkPath p).bind_eq fun _ => (alike_look p _).bind_eq fun _ =>
    (alike_writeAt _ _).bind_eq fun _ => .pure rfl

theorem alike_failIf : ∀ fault? : Option Fault,
    Alike env Q (· = ·) (failIf fault?) (failIf fault?)
  | none => .pure rfl
  | some fault => .throw fault

theorem alike_changeUntil (p : Path) (call : Store → Location → Path → Store × Option Fault) :
    Alike env Q (· = ·) (changeUntil p call) (changeUntil p call) := by
  refine (alike_checkPath p).bind_eq fun _ => Alike.environment.bind_eq fun env' =>
    Alike.get.bind fun s t h => ?_
  rw [h.store]
  have hset : Alike env Q (· = ·)
      (set { s with store := (call s.store env'.here p).1 } : Act PUnit)
      (set { t with store := (call s.store env'.here p).1 } : Act PUnit) :=
    fun _ _ _ => .ok rfl { h with store := rfl }
  refine hset.bind_eq fun _ => ?_
  cases (call s.store env'.here p).2 with
  | none => exact .pure rfl
  | some fault => exact .throw fault

theorem alike_during {α : Type} {task : StorageTask} {act : Act α}
    (h : Alike env Q (· = ·) act act) : Alike env Q (· = ·) (during task act) (during task act) :=
  h.mapFault _

theorem alike_unlinkIfThere (p : Path) :
    Alike env Q (· = ·) (unlinkIfThere p) (unlinkIfThere p) := by
  refine (alike_change p _).rescue fun fault => ?_
  split
  · exact .pure rfl
  · exact .throw _

theorem alike_ensureParent (file : Path) :
    Alike env Q (· = ·) (ensureParent file) (ensureParent file) :=
  alike_during (alike_changeUntil _ _)

end Disk

/-! ## The browser -/

namespace Browser

theorem alike_call (e : Event) : Alike env Q (· = ·) (call e) (call e) :=
  (Act.alike_browse e).bind_eq Act.alike_settle

theorem alike_shutDown (held : Handles) :
    Alike env Q (· = ·) (shutDown held) (shutDown held) :=
  Alike.andAlways (.ite (alike_call _) (.pure rfl)) (.ite (alike_call _) (.pure rfl))

theorem alike_close : Alike env Q (· = ·) close close :=
  have hhold : Alike env Q (· = ·) (hold fun _ => {}) (hold fun _ => {}) :=
    .modify fun _ _ h => { h with handles := rfl }
  Alike.get.bind fun s t h => by
    rw [h.handles]
    exact hhold.bind_eq fun _ => (alike_shutDown _).mapFault _

end Browser

/-! ## Saving -/

namespace Saving

theorem alike_text (content : String) (file : Path) :
    Alike env Q (· = ·) (text content file) (text content file) :=
  (Disk.alike_ensureParent file).bind_eq fun _ =>
    (Disk.alike_during (Disk.alike_change _ _)).bind_eq fun _ => .pure rfl

theorem alike_receive (url : String) (file : Path) (response : Response) :
    Alike env Q (· = ·) (receive url file response) (receive url file response) := by
  have hbody : Alike env Q (· = ·) (writeBody url file response) (writeBody url file response) :=
    (Disk.alike_change _ _).bind_eq fun _ => by
      cases response.broken with
      | none => exact .pure rfl
      | some fault => exact .throw _
  have hdiscard : ∀ fault, Alike env Q (· = ·) (discard file fault) (discard file fault) := by
    intro fault
    unfold discard
    split
    · exact (Disk.alike_unlinkIfThere file).bind_eq fun _ => .throw _
    · exact (Disk.alike_unlinkIfThere file).bind_eq fun _ => .throw _
    · exact .throw _
  exact (Alike.ite (.pure rfl) (Act.alike_note _ _)).bind_eq fun _ =>
    (hbody.rescue hdiscard).bind_eq fun _ => .pure rfl

theorem alike_file (url : String) (file : Path) (cookies : Cookies) (timeout : Timeout) :
    Alike env Q (· = ·) (Saving.file url file cookies timeout)
      (Saving.file url file cookies timeout) := by
  have hrequest : Alike env Q (· = ·) (request url cookies timeout) (request url cookies timeout) :=
    (Act.alike_request _).bind_eq fun _ => .ofExcept _ _
  exact (Disk.alike_ensureParent file).bind_eq fun _ => hrequest.bind_eq fun response =>
    (alike_receive url file response).andAlways (Act.alike_record _)

end Saving

/-! ## Verdicts -/

namespace Verdict

theorem alike_clear (output directory : Path) :
    Alike env Q (· = ·) (clear output directory) (clear output directory) :=
  Disk.alike_during (.ite (Disk.alike_change _ _) (Disk.alike_changeUntil _ _))

theorem alike_smallSize? (output : Path) (destination : String) :
    Alike env Q (· = ·) (smallSize? settings output destination)
      (smallSize? settings output destination) := by
  unfold smallSize?
  split
  · exact .ite ((Disk.alike_size _).bind_eq fun _ => .pure rfl) (.pure rfl)
  · exact .pure rfl

theorem alike_onPresent (output : Path) (destination : String) :
    Alike env Q (· = ·) (onPresent settings output destination)
      (onPresent settings output destination) := by
  refine (alike_smallSize? output destination).bind_eq fun small => ?_
  cases small with
  | none => exact (Act.alike_note _ _).bind_eq fun _ => .pure rfl
  | some size =>
      exact (Act.alike_note _ _).bind_eq fun _ => (alike_clear _ _).bind_eq fun _ => .pure rfl

theorem alike_reach (output : Path) (destination : String) :
    Alike env Q (· = ·) (reach settings output destination)
      (reach settings output destination) := by
  unfold reach
  split
  · exact .ite (.pure rfl) ((Act.alike_note _ _).bind_eq fun _ => .pure rfl)
  · exact (Disk.alike_look _ _).bind_eq fun _ => .ite (alike_onPresent _ _) (.pure rfl)

end Verdict

/-! ## Packing -/

namespace Packing

theorem alike_filesOf (directory : Path) :
    Alike env Q (· = ·) (filesOf directory) (filesOf directory) := by
  refine (Disk.alike_look directory _).bind_eq fun place => Alike.get.bind fun s t h => ?_
  rw [h.store]
  cases place with
  | none => exact .pure rfl
  | some l =>
      dsimp only
      split
      · exact .throw _
      · exact .pure rfl

theorem alike_addAll (directory : Path) (place : Location) :
    ∀ (made : List Archive.Member) (files : List (Location × Content)),
      Alike env Q (· = ·) (addAll directory place made files) (addAll directory place made files)
  | _, [] => .pure rfl
  | _, _ :: rest => Alike.environment.bind_eq fun _ => (Disk.alike_failIf _).bind_eq fun _ =>
      (Disk.alike_writeAt _ _).bind_eq fun _ => alike_addAll directory place _ rest

theorem alike_pack (directory : Path) :
    Alike env Q (· = ·) (pack directory) (pack directory) :=
  (Disk.alike_during ((alike_filesOf directory).bind_eq fun _ =>
    (Disk.alike_create _ _).bind_eq fun _ => alike_addAll directory _ _ _)).bind_eq fun _ =>
      (Act.alike_note _ _).bind_eq fun _ => .pure rfl

end Packing

end Dossier
