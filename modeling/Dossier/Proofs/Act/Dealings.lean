import Dossier.Proofs.Act.Inward

/-!
# What acts have to do with the network and the browser

The *dealings* of a program are all that the network and the browser see of it: the
trace, the clock, the handles on a browser and the cookies in force.  Acts on the
store, notes and accounts keep them.

Other acts make calls.  An act *calls* events, in a given order, if it adds all of
them to the trace when it ends well and the first of them, as far as it came, when it
fails.  An act only *tends* the session and the browser if the events it adds are none
but upkeep: they open or close the session, the driver or the browser.
-/

namespace Dossier

/-- What the network and the browser see of a program. -/
structure Dealings where
  trace : Trace
  clock : Float
  handles : Handles
  cookies : Cookies

/-- The dealings of a state. -/
def State.dealings (s : State) : Dealings := ⟨s.trace, s.clock, s.handles, s.cookies⟩

theorem State.trace_of_dealings {s t : State} (h : t.dealings = s.dealings) :
    t.trace = s.trace := congrArg Dealings.trace h

theorem State.cookies_of_dealings {s t : State} (h : t.dealings = s.dealings) :
    t.cookies = s.cookies := congrArg Dealings.cookies h

/-- A call that opens or closes the session, the driver or the browser. -/
def Event.isUpkeep : Event → Bool
  | .sessionOpened | .mounted .. | .sessionClosed => true
  | .driverStarted | .browserLaunched _ | .browserClosed | .driverStopped => true
  | _ => false

open Act (Chained Follows Keeps)

variable {α β : Type} {env : Environment} {s s' : State}

/-! ## Acts without calls -/

/-- What a run does by itself keeps its dealings. -/
theorem State.inward_dealings : Act.Inward fun s s' : State => s'.dealings = s.dealings where
  toChained := .part State.dealings
  note _ _ := rfl
  report _ _ _ _ := rfl
  store _ _ := rfl

namespace Disk

theorem deals_change (p : Path) (call : Store → Location → Path → Except Errno Store) :
    Keeps State.dealings (change p call) := fun _ => State.inward_dealings.follows_change p call

theorem deals_ensureParent (file : Path) : Keeps State.dealings (ensureParent file) := fun _ =>
  (State.inward_dealings.follows_changeUntil _ _).mapFault _

theorem deals_unlinkIfThere (file : Path) : Keeps State.dealings (unlinkIfThere file) := fun env =>
  (Chained.part _).follows_unlinkIfThere (deals_change _ _ env)

end Disk

theorem Verdict.deals_reach (settings : Settings) (output : Path) (destination : String) :
    Keeps State.dealings (reach settings output destination) := fun _ =>
  State.inward_dealings.follows_reach output destination

namespace Saving

theorem deals_text (content : String) (file : Path) : Keeps State.dealings (text content file) :=
  fun env => .bind (.part _) (Disk.deals_ensureParent _ env) fun _ =>
    .bind (.part _) ((Disk.deals_change _ _ env).mapFault _) fun _ => .pure (.part _) _

theorem deals_keepOutput (file : Path) (reaction : Reaction) :
    Keeps State.dealings (keepOutput file reaction) := by
  intro env
  unfold keepOutput
  split
  · exact Disk.deals_change _ _ env
  · exact .pure (.part _) _

theorem deals_receive (url : String) (file : Path) (response : Response) :
    Keeps State.dealings (receive url file response) := by
  intro env
  have hbody : Follows env _ (writeBody url file response) :=
    .bind (.part State.dealings) (Disk.deals_change _ _ env) fun _ => by
      cases response.broken with
      | none => exact .pure (.part _) _
      | some fault => exact .throw (.part _) _
  refine .bind (.part _) (.ite (.pure (.part _) _) (.modify fun _ => rfl)) fun _ =>
    .bind (.part _) (.rescue (.part _) hbody fun fault => ?_) fun _ => .pure (.part _) _
  unfold discard
  split
  · exact .bind (.part _) (Disk.deals_unlinkIfThere file env) fun _ => .throw (.part _) _
  · exact .bind (.part _) (Disk.deals_unlinkIfThere file env) fun _ => .throw (.part _) _
  · exact .throw (.part _) _

end Saving

/-! ## Calls in their order -/

namespace Act

/-- An act adds events to the trace, all of them if it ends well and the first of
them if it fails. -/
def Calls (env : Environment) (events : Trace) (act : Act α) : Prop := ∀ s,
  match act env s with
  | .ok _ s' => s'.trace = s.trace ++ events
  | .error _ s' => ∃ made, made <+: events ∧ s'.trace = s.trace ++ made

namespace Calls

variable {events later : Trace}

theorem ok {act : Act α} (h : Calls env events act) {a : α} (hact : act env s = .ok a s') :
    s'.trace = s.trace ++ events := by
  have := h s
  rwa [hact] at this

theorem error {act : Act α} (h : Calls env events act) {fault : Fault}
    (hact : act env s = .error fault s') :
    ∃ made, made <+: events ∧ s'.trace = s.trace ++ made := by
  have := h s
  rwa [hact] at this

/-- However the act ends, it has made the first calls. -/
theorem final {act : Act α} (h : Calls env events act) (s : State) :
    ∃ made, made <+: events ∧ (act.final env s).trace = s.trace ++ made := by
  cases hact : act env s with
  | ok a t => exact ⟨events, List.prefix_refl _, by rw [final_of_ok hact, h.ok hact]⟩
  | error f t => rw [final_of_error hact]; exact h.error hact

theorem of_endings {act : Act α}
    (hok : ∀ s a s', act env s = .ok a s' → s'.trace = s.trace ++ events)
    (herror : ∀ s f s', act env s = .error f s' →
      ∃ made, made <+: events ∧ s'.trace = s.trace ++ made) : Calls env events act := by
  intro s
  cases h : act env s with
  | ok a t => exact hok s a t h
  | error f t => exact herror s f t h

/-- An act that keeps its dealings makes no calls. -/
theorem of_keeps {act : Act α} (h : Keeps State.dealings act) : Calls env [] act := by
  have htrace : ∀ {s t : State}, t.dealings = s.dealings → t.trace = s.trace ++ [] := fun ht => by
    rw [List.append_nil, State.trace_of_dealings ht]
  exact of_endings (fun _ _ _ hact => htrace ((h env).ok hact))
    fun _ _ _ hact => ⟨[], List.prefix_refl _, htrace ((h env).error hact)⟩

theorem bind {act : Act α} {next : α → Act β} (hact : Calls env events act)
    (hnext : ∀ a, Calls env later (next a)) : Calls env (events ++ later) (act >>= next) := by
  refine of_endings (fun s b s' h => ?_) fun s f s' h => ?_
  · obtain ⟨a, t, ha, hb⟩ := bind_ok.mp h
    rw [(hnext a).ok hb, hact.ok ha, List.append_assoc]
  · rcases bind_error.mp h with ha | ⟨a, t, ha, hb⟩
    · obtain ⟨made, hmade, htrace⟩ := hact.error ha
      exact ⟨made, hmade.trans (List.prefix_append _ _), htrace⟩
    · obtain ⟨made, hmade, htrace⟩ := (hnext a).error hb
      exact ⟨events ++ made, (List.prefix_append_right_inj _).mpr hmade,
        by rw [htrace, hact.ok ha, List.append_assoc]⟩

theorem pure (a : α) : Calls env [] (pure a : Act α) := of_keeps fun _ => .pure (.part _) a

theorem throw (fault : Fault) : Calls env events (throw fault : Act α) := fun s =>
  ⟨[], List.nil_prefix, (List.append_nil s.trace).symm⟩

theorem ofExcept {ε : Type} (name : ε → Fault) (x : Except ε α) :
    Calls env [] (Act.ofExcept name x) := of_keeps fun _ => .ofExcept (.part _) name x

end Calls

theorem calls_record (e : Event) : Calls env [e] (record e) := fun _ => rfl

theorem calls_request (e : Event) : Calls env [e] (request e) := fun _ => rfl

theorem calls_browse (e : Event) : Calls env [e] (browse e) := fun _ => rfl

theorem calls_settle (reaction : Reaction) : Calls env [] (settle reaction) := by
  unfold settle
  split
  · exact .throw _
  · exact .pure _

/-- An event that is recorded however an act without calls ends. -/
theorem Calls.andAlways_record {act : Act α} (h : Calls env [] act) (e : Event) :
    Calls env [e] (act.andAlways (record e)) := by
  refine .of_endings (fun s a s' hact => ?_) fun s f s' hact => ?_
  · obtain ⟨t, ha, hrecord⟩ := andAlways_ok.mp hact
    rw [modify_ok.mp hrecord, h.ok ha, List.append_nil]
  · rcases andAlways_error.mp hact with ⟨_, t, _, hrecord⟩ | ⟨t, ha, hrecord⟩ | ⟨_, t, _, hrecord⟩
    · cases hrecord
    · obtain ⟨made, hmade, htrace⟩ := h.error ha
      obtain rfl := List.prefix_nil.mp hmade
      exact ⟨[e], List.prefix_refl _, by rw [modify_ok.mp hrecord, htrace, List.append_nil]⟩
    · cases hrecord

end Act

/-- A call on the browser fails as the reaction to it says. -/
theorem Browser.call_eq (e : Event) (env : Environment) (s : State) :
    call e env s =
      match (env.react (s.trace ++ [e])).failure with
      | some message => .error (.browser message) { s with
          trace := s.trace ++ [e], clock := s.clock + (env.react (s.trace ++ [e])).takes }
      | none => .ok () { s with
          trace := s.trace ++ [e], clock := s.clock + (env.react (s.trace ++ [e])).takes } := by
  show Act.settle (env.react (s.trace ++ [e])) env _ = _
  rw [Act.settle]
  cases (env.react (s.trace ++ [e])).failure <;> rfl

/-- A request is answered with a response or fails. -/
theorem Saving.request_eq (url : String) (cookies : Cookies) (timeout : Timeout) (env : Environment)
    (s : State) : ∃ clock, request url cookies timeout env s =
      match (env.reply (s.trace ++ [.requested url (cookieHeaders cookies) timeout])).outcome with
      | .ok response => .ok response { s with
          trace := s.trace ++ [.requested url (cookieHeaders cookies) timeout], clock := clock }
      | .error fault => .error (unanswered url fault) { s with
          trace := s.trace ++ [.requested url (cookieHeaders cookies) timeout],
          clock := clock } := by
  refine ⟨s.clock + (env.reply (s.trace ++
    [.requested url (cookieHeaders cookies) timeout])).takes, ?_⟩
  show Act.ofExcept (unanswered url) (env.reply _).outcome env _ = _
  cases (env.reply (s.trace ++ [.requested url (cookieHeaders cookies) timeout])).outcome <;> rfl

theorem Browser.calls_call (e : Event) : Act.Calls env [e] (Browser.call e) :=
  .bind (Act.calls_browse e) fun reaction => Act.calls_settle reaction

/-- A call on the browser is made whether it succeeds or not. -/
theorem Browser.trace_call (e : Event) (env : Environment) (s : State) :
    ((call e).final env s).trace = s.trace ++ [e] := by
  rw [Act.final, call_eq]
  cases (env.react (s.trace ++ [e])).failure <;> rfl

/-! ## Upkeep -/

/-- Only upkeep lies between the traces of two states. -/
def State.Tends (s s' : State) : Prop :=
  ∃ added, s'.trace = s.trace ++ added ∧ ∀ e ∈ added, e.isUpkeep = true

namespace State.Tends

theorem of_trace (h : s'.trace = s.trace) : State.Tends s s' :=
  ⟨[], by rw [h, List.append_nil], nofun⟩

theorem chained : Chained State.Tends where
  refl _ := of_trace rfl
  trans := by
    rintro s t u ⟨added, ht, hadded⟩ ⟨more, hu, hmore⟩
    refine ⟨added ++ more, by rw [hu, ht, List.append_assoc], ?_⟩
    exact List.forall_mem_append.mpr ⟨hadded, hmore⟩

end State.Tends

open State (Tends)

theorem Act.Keeps.tends {act : Act α} (h : Keeps State.dealings act) : Follows env Tends act :=
  fun s => .of_trace (State.trace_of_dealings (h env s))

theorem Act.Calls.tends {act : Act α} {events : Trace} (h : Act.Calls env events act)
    (hevents : ∀ e ∈ events, e.isUpkeep = true) : Follows env Tends act := by
  intro s
  obtain ⟨made, hmade, htrace⟩ := h.final s
  exact ⟨made, htrace, fun e he => hevents e (hmade.subset he)⟩

namespace Browser

theorem tends_call {e : Event} (h : e.isUpkeep = true) : Follows env Tends (call e) :=
  (calls_call e).tends (by simpa using h)

theorem tends_hold (change : Handles → Handles) : Follows env Tends (hold change) :=
  .modify fun _ => .of_trace rfl

theorem tends_close : Follows env Tends close := by
  refine .bind Tends.chained (.get Tends.chained) fun _ => .bind Tends.chained (tends_hold _)
    fun _ => Follows.mapFault (.andAlways Tends.chained ?_ ?_) _
  · exact .ite (tends_call rfl) (.pure Tends.chained _)
  · exact .ite (tends_call rfl) (.pure Tends.chained _)

theorem tends_ensureOpen (settings : Settings) : Follows env Tends (ensureOpen settings) := by
  have hlaunch : Follows env Tends (launch settings) :=
    .bind Tends.chained (tends_call rfl) fun _ => .bind Tends.chained (tends_hold _) fun _ =>
      .bind Tends.chained (tends_call rfl) fun _ => tends_hold _
  have habandon : ∀ fault, Follows env Tends (abandon fault) := by
    intro fault
    unfold abandon
    split
    · exact .bind Tends.chained tends_close fun _ => .throw Tends.chained _
    · exact .throw Tends.chained _
  have hstart : Follows env Tends (do
      Act.note .startingBrowser
      (launch settings).rescue abandon) :=
    .bind Tends.chained (.modify fun _ => .of_trace rfl) fun _ =>
      .rescue Tends.chained hlaunch habandon
  refine .bind Tends.chained (.get Tends.chained) fun s => .ite (.pure Tends.chained _) ?_
  refine .bind Tends.chained (.environment Tends.chained) fun _ => .ite ?_ hstart
  exact .bind Tends.chained (.throw Tends.chained _) fun _ => hstart

end Browser

end Dossier
