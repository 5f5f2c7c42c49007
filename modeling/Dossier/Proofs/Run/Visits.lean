import Dossier.Proofs.Run.Containment
import Dossier.Proofs.Run.Errands
import Mathlib.Data.List.Induction

/-!
# The rows that a run comes to

A run comes to its rows one after the other, up to the first that fails.  Each of these
*visits* has the state before the row and the state after it, and adds to the trace what
lies between.  Apart from these events a run only opens and closes its session, the
driver and the browser (`run_trace`).

The cookies in force are those of the last row of cookies before a row, if there is
one.  So every errand of a run is run with them (`run_cookies`).
-/

namespace Dossier.Run

open Script (Directive Source Action)
open Act (Chained Follows Keeps)
open State (Tends)

variable {settings : Settings} {given : Provided} {env : Environment} {s s' t : State} {p : Path}
  {directives : List Directive}

/-! ## Visits -/

/-- A row that a run comes to, with the states before and after it. -/
structure Visit where
  directive : Directive
  before : State
  after : State

/-- What the row adds to the trace. -/
def Visit.events (v : Visit) : Trace := v.after.trace.drop v.before.trace.length

/-- The rows that are come to, up to the first that fails. -/
def visits (settings : Settings) (p : Path) (env : Environment) :
    List Directive → State → List Visit
  | [], _ => []
  | directive :: rest, s =>
    match row settings p directive env s with
    | .ok _ t => ⟨directive, s, t⟩ :: visits settings p env rest t
    | .error _ t => [⟨directive, s, t⟩]

/-- The rows that a run comes to, if it opens. -/
def reached (settings : Settings) (given : Provided) (env : Environment) (s : State) :
    List Directive → List Visit
  | ⟨_, .archiveName name⟩ :: rest =>
    match opening settings given name env s with
    | .ok output t => visits settings output env rest t
    | .error _ _ => []
  | _ => []

theorem visits_of_ok {directive : Directive} {rest : List Directive} {u : Unit}
    (h : row settings p directive env s = .ok u t) :
    visits settings p env (directive :: rest) s =
      ⟨directive, s, t⟩ :: visits settings p env rest t := by
  rw [visits, h]

theorem visits_of_error {directive : Directive} {rest : List Directive} {fault : Fault}
    (h : row settings p directive env s = .error fault t) :
    visits settings p env (directive :: rest) s = [⟨directive, s, t⟩] := by
  rw [visits, h]

/-- The rows that are come to are the first ones. -/
theorem visits_directives (directives : List Directive) (s : State) :
    (visits settings p env directives s).map Visit.directive <+: directives := by
  induction directives generalizing s with
  | nil => exact List.prefix_refl _
  | cons directive rest ih =>
      cases hrow : row settings p directive env s with
      | ok u t =>
          rw [visits_of_ok hrow]
          exact (List.prefix_cons_inj _).mpr (ih t)
      | error fault t =>
          rw [visits_of_error hrow]
          exact (List.prefix_cons_inj _).mpr List.nil_prefix

/-! ## Traces -/

/-- The events of a visit are what its row adds to the trace. -/
theorem Visit.errand (v : Visit)
    (h : (row settings p v.directive).final env v.before = v.after) :
    v.after.trace = v.before.trace ++ v.events ∧
      Errand settings env v.before.trace v.before.cookies v.directive.action v.events := by
  obtain ⟨added, htrace, herrand⟩ := @row_errand env v.before settings p v.directive
  have hadded : v.events = added := by
    rw [Visit.events, ← h, htrace, List.drop_left]
  rw [hadded, ← h, htrace]
  exact ⟨rfl, herrand⟩

/-- Rows add the events of the visits to the trace. -/
theorem rows_trace (directives : List Directive) (s : State) :
    ((rows settings p directives).final env s).trace =
      s.trace ++ (visits settings p env directives s).flatMap Visit.events := by
  induction directives generalizing s with
  | nil => exact (List.append_nil _).symm
  | cons directive rest ih =>
      cases hrow : row settings p directive env s with
      | ok u t =>
          obtain ⟨htrace, _⟩ := Visit.errand ⟨directive, s, t⟩ (Act.final_of_ok hrow)
          rw [visits_of_ok hrow, List.flatMap_cons, ← List.append_assoc, ← htrace, rows,
            Act.final_bind hrow, ih]
      | error fault t =>
          obtain ⟨htrace, _⟩ := Visit.errand ⟨directive, s, t⟩ (Act.final_of_error hrow)
          rw [visits_of_error hrow, List.flatMap_cons, List.flatMap_nil, List.append_nil, ← htrace,
            rows, Act.final_bind_of_error hrow]

/-- A visit among visits: the rows before it are carried out and add their events, and it
is there that the row starts. -/
theorem visits_split {earlier later : List Visit} {v : Visit}
    (h : visits settings p env directives s = earlier ++ v :: later) :
    rows settings p (earlier.map Visit.directive) env s = .ok () v.before ∧
      (row settings p v.directive).final env v.before = v.after ∧
      v.before.trace = s.trace ++ earlier.flatMap Visit.events := by
  induction earlier generalizing directives s with
  | nil =>
      cases directives with
      | nil => cases h
      | cons directive rest =>
          cases hrow : row settings p directive env s with
          | ok u t =>
              rw [visits_of_ok hrow] at h
              cases h
              exact ⟨rfl, Act.final_of_ok hrow, (List.append_nil _).symm⟩
          | error fault t =>
              rw [visits_of_error hrow] at h
              cases h
              exact ⟨rfl, Act.final_of_error hrow, (List.append_nil _).symm⟩
  | cons first earlier ih =>
      cases directives with
      | nil => cases h
      | cons directive rest =>
          cases hrow : row settings p directive env s with
          | ok u t =>
              rw [visits_of_ok hrow, List.cons_append] at h
              obtain ⟨rfl, hrest⟩ := List.cons.inj h
              obtain ⟨hrows, hafter, hbefore⟩ := ih hrest
              obtain ⟨htrace, _⟩ := Visit.errand ⟨directive, s, t⟩ (Act.final_of_ok hrow)
              refine ⟨Act.bind_ok.mpr ⟨u, t, hrow, hrows⟩, hafter, ?_⟩
              rw [hbefore, List.flatMap_cons, ← List.append_assoc, ← htrace]
          | error fault t =>
              rw [visits_of_error hrow, List.cons_append] at h
              cases earlier <;> cases (List.cons.inj h).2

/-! ## Upkeep -/

theorem sessionOf_upkeep (given : Provided) :
    (∀ e ∈ (sessionOf given).events, e.isUpkeep = true) ∧
      ∀ e ∈ (sessionOf given).connector.close.events, e.isUpkeep = true := by
  rw [sessionOf]
  split <;> decide

theorem tends_recordAll {events : Trace} (h : ∀ e ∈ events, e.isUpkeep = true) :
    Follows env Tends (recordAll events) := by
  induction events with
  | nil => exact .pure Tends.chained ()
  | cons e rest ih =>
      obtain ⟨he, hrest⟩ := List.forall_mem_cons.mp h
      have hrecord : Follows env Tends (Act.record e) :=
        (Act.calls_record e).tends (by simpa using he)
      exact .bind Tends.chained hrecord fun _ => ih hrest

theorem deals_prepare (name : String) : Keeps State.dealings (prepare settings name) := fun _ =>
  State.inward_dealings.follows_prepare name

/-- A run opens with nothing but upkeep. -/
theorem tends_opening (name : String) : Follows env Tends (opening settings given name) :=
  .bind Tends.chained (.modify fun _ => .of_trace rfl) fun _ =>
    .bind Tends.chained (.modify fun _ => .of_trace rfl) fun _ =>
      .bind Tends.chained (deals_prepare name).tends fun _ =>
        .bind Tends.chained (tends_recordAll (sessionOf_upkeep given).1) fun _ =>
          .pure Tends.chained _

/-- What a run does after its rows is upkeep. -/
theorem tends_draining (p : Path) (directives : List Directive) (s : State) :
    Tends ((rows settings p directives).final env s)
      ((draining settings given p directives).final env s) := by
  have hclose : Follows env Tends (if given.browser then pure () else Browser.close) :=
    .ite (.pure Tends.chained ()) Browser.tends_close
  have hfail : (((rows settings p directives).rescue fail).final env s).dealings =
      ((rows settings p directives).final env s).dealings :=
    Keeps.final_rescue (fun fault _ => State.inward_dealings.follows_fail fault) _
  rw [draining, Act.final_andAlways, Act.final_andAlways]
  exact Tends.chained.trans (.of_trace (State.trace_of_dealings hfail)) (Tends.chained.trans
    (hclose _) (tends_recordAll (sessionOf_upkeep given).2 _))

/-! ## Runs -/

/-- The visits of a run are those from where it has opened. -/
theorem reached_split {earlier later : List Visit} {v : Visit}
    (h : reached settings given env s directives = earlier ++ v :: later) :
    ∃ output t, opening settings given (Script.archiveName directives) env s = .ok output t ∧
      visits settings output env directives.tail t = earlier ++ v :: later := by
  have hnone : ([] : List Visit) ≠ earlier ++ v :: later := by simp
  unfold reached at h
  split at h
  · split at h
    · exact ⟨_, _, by assumption, h⟩
    · exact absurd h hnone
  · exact absurd h hnone

/-- A trace goes on from another one with the events of visits, and apart from them with
nothing but upkeep. -/
structure Spans (start last : Trace) (visits : List Visit) (opened closed : Trace) : Prop where
  upkeep : ∀ e ∈ opened ++ closed, e.isUpkeep = true
  whole : last = start ++ opened ++ visits.flatMap Visit.events ++ closed
  before : ∀ earlier v later, visits = earlier ++ v :: later →
    v.before.trace = start ++ opened ++ earlier.flatMap Visit.events

/-- The trace of a run spans the visits of its rows. -/
theorem run_trace (settings : Settings) (given : Provided) (env : Environment) (s : State)
    (directives : List Directive) :
    ∃ opened closed, Spans s.trace ((run settings given directives).final env s).trace
      (reached settings given env s directives) opened closed := by
  have hidle : reached settings given env s directives = [] →
      Tends s ((run settings given directives).final env s) →
      ∃ opened closed, Spans s.trace ((run settings given directives).final env s).trace
        (reached settings given env s directives) opened closed := by
    rintro hnone ⟨opened, htrace, hopened⟩
    refine ⟨opened, [], by simpa using hopened, by simp [hnone, htrace], ?_⟩
    intro earlier v later h
    rw [hnone] at h
    simp at h
  match directives with
  | [] => exact hidle rfl (.of_trace rfl)
  | ⟨_, .cookies _⟩ :: _ => exact hidle rfl (.of_trace rfl)
  | ⟨_, .save _ _⟩ :: _ => exact hidle rfl (.of_trace rfl)
  | ⟨line, .archiveName name⟩ :: rest =>
      have htends := @tends_opening settings given env name s
      cases hopen : opening settings given name env s with
      | error fault t =>
          refine hidle (by rw [reached, hopen]) ?_
          rw [run_phases, Act.final_bind_of_error hopen, ← Act.final_of_error hopen]
          exact htends
      | ok output t =>
          rw [Act.final_of_ok hopen] at htends
          obtain ⟨opened, ht, hopened⟩ := htends
          have hreached : reached settings given env s (⟨line, .archiveName name⟩ :: rest) =
              visits settings output env rest t := by rw [reached, hopen]
          have hcomplete : Keeps State.dealings (complete output) := fun _ =>
            State.inward_dealings.follows_complete output
          have hlast : ((run settings given (⟨line, .archiveName name⟩ :: rest)).final env s).trace
              = ((draining settings given output rest).final env t).trace := by
            rw [run_phases, Act.final_bind hopen]
            exact State.trace_of_dealings (Keeps.final_bind fun _ => hcomplete)
          obtain ⟨closed, hclosed, hupkeep⟩ := @tends_draining settings given env output rest t
          refine ⟨opened, closed, List.forall_mem_append.mpr ⟨hopened, hupkeep⟩, ?_, ?_⟩
          · rw [hlast, hclosed, rows_trace, ht, hreached]
          · intro earlier v later h
            rw [hreached] at h
            rw [(visits_split h).2.2, ht]

/-! ## Cookies in force -/

/-- A directive that sets no cookies. -/
def SetsNone (directive : Directive) : Prop := ∀ blob, directive.action ≠ .cookies blob

/-- The cookies in force after directives: those of the last row of cookies, or none if
there is no such row. -/
inductive InForce : List Directive → Cookies → Prop
  | unset {directives : List Directive} (none : ∀ directive ∈ directives, SetsNone directive) :
      InForce directives {}
  | set {earlier later : List Directive} {line : Option Int} {blob : String} {cookies : Cookies}
      (decoded : Cookies.decode blob = .ok cookies)
      (last : ∀ directive ∈ later, SetsNone directive) :
      InForce (earlier ++ ⟨line, .cookies blob⟩ :: later) cookies

/-- The cookies in force are found again in the header that is sent for them. -/
theorem InForce.header {cookies : Cookies} (h : InForce directives cookies) :
    Cookies.parse cookies.header = cookies := by
  cases h with
  | unset _ => decide
  | set decoded _ => exact Cookies.header_of_decoded decoded

/-- Cookies stay in force after a directive that sets none. -/
theorem InForce.snoc {cookies : Cookies} (h : InForce directives cookies) {directive : Directive}
    (hnone : SetsNone directive) : InForce (directives ++ [directive]) cookies := by
  have hlast : ∀ d ∈ [directive], SetsNone d := by simpa using hnone
  cases h with
  | unset none => exact .unset (List.forall_mem_append.mpr ⟨none, hlast⟩)
  | set decoded last =>
      rw [List.append_assoc, List.cons_append]
      exact .set decoded (List.forall_mem_append.mpr ⟨last, hlast⟩)

theorem cookies_fetch (source : Source) (file : Path) :
    Keeps State.cookies (fetch settings source file) := fun env s =>
  congrArg Accounts.cookies ((Act.Busy.accounts env).follows_fetch settings source file s)

/-- A row that saves leaves the cookies in force. -/
theorem cookies_save (output : Path) (source : Source) (d : String) :
    Keeps State.cookies (save settings output source d) := by
  have hdeals : ∀ {α : Type} {act : Act α}, Keeps State.dealings act → Keeps State.cookies act :=
    fun h env s => State.cookies_of_dealings (h env s)
  intro env
  cases hout : settings.leavesOut source with
  | true =>
      rw [save_of_leftOut hout]
      exact .bind (.part _) (.modify fun _ => rfl) fun _ => .modify fun _ => rfl
  | false =>
      rw [save_of_wanted hout]
      refine .bind (.part _) (hdeals (Verdict.deals_reach settings output d) env) fun decision =>
        .ite ?_ (.modify fun _ => rfl)
      exact .bind (.part _) (hdeals (deals_announce decision.verdict d) env) fun _ =>
        .bind (.part _) (cookies_fetch source _ env) fun _ =>
          .bind (.part _) (.modify fun _ => rfl) fun _ => .modify fun _ => rfl

/-- A row changes the cookies in force only if it sets cookies. -/
theorem row_cookies {line : Option Int} {action : Action} {u : Unit}
    (h : row settings p ⟨line, action⟩ env s = .ok u s') :
    (SetsNone ⟨line, action⟩ ∧ s'.cookies = s.cookies) ∨
      ∃ blob, action = .cookies blob ∧ Cookies.decode blob = .ok s'.cookies := by
  cases action with
  | archiveName name => exact absurd h Act.throw_ok
  | cookies blob =>
      obtain ⟨cookies, t, hread, hafter⟩ := Act.bind_ok.mp h
      obtain ⟨_, t', hset, hnote⟩ := Act.bind_ok.mp hafter
      obtain ⟨hdecode, rfl⟩ := Act.ofExcept_ok.mp hread
      obtain rfl := Act.modify_ok.mp hset
      obtain rfl := Act.modify_ok.mp hnote
      exact Or.inr ⟨blob, rfl, hdecode⟩
  | save source d => exact Or.inl ⟨nofun, (cookies_save p source d).ok h⟩

/-- Where rows are carried out, the cookies in force are those of the last row of
cookies. -/
theorem rows_inForce {directives : List Directive} (hs : s.cookies = {})
    (h : rows settings p directives env s = .ok () s') : InForce directives s'.cookies := by
  induction directives using List.reverseRecOn generalizing s' with
  | nil =>
      obtain ⟨_, rfl⟩ := Act.pure_ok.mp h
      exact hs ▸ .unset nofun
  | append_singleton earlier directive ih =>
      rw [rows_append] at h
      obtain ⟨_, t, hearlier, hlast⟩ := Act.bind_ok.mp h
      obtain ⟨_, t', hrow, hdone⟩ := Act.bind_ok.mp hlast
      obtain ⟨_, rfl⟩ := Act.pure_ok.mp hdone
      obtain ⟨line, action⟩ := directive
      rcases row_cookies hrow with ⟨hnone, hsame⟩ | ⟨blob, rfl, hdecode⟩
      · rw [hsame]
        exact (ih hearlier).snoc hnone
      · exact .set hdecode nofun

theorem cookies_opening {name : String} {output : Path}
    (h : opening settings given name env s = .ok output t) : t.cookies = {} := by
  obtain ⟨_, t₁, hstart, h₁⟩ := Act.bind_ok.mp h
  obtain ⟨_, t₂, hnote, h₂⟩ := Act.bind_ok.mp h₁
  obtain ⟨_, t₃, hprepare, h₃⟩ := Act.bind_ok.mp h₂
  obtain ⟨_, t₄, hrecorded, hreturn⟩ := Act.bind_ok.mp h₃
  obtain ⟨_, rfl⟩ := Act.pure_ok.mp hreturn
  have hkeep : t₄.cookies = t₃.cookies :=
    congrArg Accounts.cookies (State.holdings_inj ((keeps_recordAll _).ok hrecorded)).2
  rw [hkeep, State.cookies_of_dealings ((deals_prepare name).ok hprepare),
    Act.modify_ok.mp hnote, Act.modify_ok.mp hstart]

/-- What a row calls on the network and on the browser is the errand of its action, with
the cookies of the last row of cookies before it and no others. -/
theorem run_cookies (settings : Settings) (given : Provided) (env : Environment) (s : State)
    (directives : List Directive) :
    (reached settings given env s directives).map Visit.directive <+: directives.tail ∧
    ∃ opened closed, Spans s.trace ((run settings given directives).final env s).trace
        (reached settings given env s directives) opened closed ∧
      ∀ earlier v later, reached settings given env s directives = earlier ++ v :: later →
        ∃ cookies, InForce (earlier.map Visit.directive) cookies ∧
          Cookies.parse cookies.header = cookies ∧
          Errand settings env (s.trace ++ opened ++ earlier.flatMap Visit.events) cookies
            v.directive.action v.events := by
  refine ⟨?_, ?_⟩
  · unfold reached
    split
    · split
      · exact visits_directives _ _
      · exact List.nil_prefix
    · exact List.nil_prefix
  obtain ⟨opened, closed, hspans⟩ := run_trace settings given env s directives
  refine ⟨opened, closed, hspans, fun earlier v later h => ?_⟩
  obtain ⟨output, t, hopen, hvisits⟩ := reached_split h
  obtain ⟨hrows, hafter, _⟩ := visits_split hvisits
  have hforce := rows_inForce (cookies_opening hopen) hrows
  refine ⟨v.before.cookies, hforce, hforce.header, ?_⟩
  rw [← hspans.before earlier v later h]
  exact (v.errand hafter).2

end Dossier.Run
