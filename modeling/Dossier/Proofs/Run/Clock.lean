import Dossier.Proofs.Act.Inward

/-!
# The clock of a run

Time passes only while a request is answered or the browser reacts.  Whatever a
run does once it has started, the start it reports stays the same and its clock
passes by such waits: what follows *later* states is all a run is put together
from.  An environment is *steady* from a reading of the clock on if the time
since then can be told after any waits.  Without waits the time can be told if the
clock reads a finite number at all (`Duration.between_self`).
-/

namespace Dossier

open Script (Directive Source)
open Act (Chained Busy Follows)

/-! ## Telling the time -/

namespace Duration

open Float.Model (UnpackedFloat Format)

/-- A finite number less itself is zero. -/
theorem sub_self {x : UnpackedFloat} (h : x.isFinite = true) :
    ∃ sign, UnpackedFloat.sub Format.binary64 x x = .zero sign := by
  cases x with
  | infinity sign => cases h
  | notANumber => cases h
  | zero sign => cases sign <;> exact ⟨_, rfl⟩
  | finite sign mantissa exponent pos =>
      refine ⟨.positive, ?_⟩
      have hnormal : UnpackedFloat.sub Format.binary64 (.finite sign mantissa exponent pos)
          (.finite sign mantissa exponent pos) =
            UnpackedFloat.normalize Format.binary64 (_ - _) (min exponent exponent) .positive := rfl
      rw [hnormal, Int.sub_self]
      rfl

/-- No time passes from a reading of the clock to itself. -/
theorem between_self {clock : Float} (h : clock.isFinite = true) :
    between clock clock = .ok 0 := by
  obtain ⟨sign, hself⟩ := @sub_self clock.toModel.unpack h
  have hsub : clock - clock = Float.ofModel (Float.Model.pack (.zero sign)) :=
    congrArg (fun difference => Float.ofModel (Float.Model.pack difference)) hself
  have hread : ∃ negative, Binary64.ofFloat? (Float.ofModel (Float.Model.pack (.zero sign))) =
      some ⟨negative, 0, Binary64.minExponent⟩ := by
    cases sign
    · exact ⟨true, by decide +kernel⟩
    · exact ⟨false, by decide +kernel⟩
  obtain ⟨negative, hread⟩ := hread
  have hzero : Binary64.truncate ⟨negative, 0, Binary64.minExponent⟩ = 0 := by
    cases negative <;> decide +kernel
  rw [between, hsub, hread]
  exact congrArg Except.ok hzero

end Duration

/-! ## Waits -/

/-- The clock passes from one reading to another while answers come in. -/
inductive Environment.Passes (env : Environment) : Float → Float → Prop
  | refl (clock : Float) : env.Passes clock clock
  | reply {start clock : Float} (before : env.Passes start clock) (trace : Trace) :
      env.Passes start (clock + (env.reply trace).takes)
  | react {start clock : Float} (before : env.Passes start clock) (trace : Trace) :
      env.Passes start (clock + (env.react trace).takes)

theorem Environment.Passes.trans {env : Environment} {a b c : Float} (h : env.Passes a b)
    (h' : env.Passes b c) : env.Passes a c := by
  induction h' with
  | refl => exact h
  | reply _ trace ih => exact .reply ih trace
  | react _ trace ih => exact .react ih trace

/-- The time since a reading of the clock can always be told. -/
def Environment.Steady (env : Environment) (start : Float) : Prop :=
  ∀ now, env.Passes start now → ∃ seconds, Duration.between start now = .ok seconds

/-- The clock of a state passes to that of another one, and the start that is
reported stays the same. -/
def Environment.Later (env : Environment) (s s' : State) : Prop :=
  s'.report.startTime = s.report.startTime ∧ env.Passes s.clock s'.clock

variable {env : Environment}

theorem Environment.later_of_same {s s' : State}
    (hstart : s'.report.startTime = s.report.startTime) (hclock : s'.clock = s.clock) :
    env.Later s s' := ⟨hstart, hclock ▸ .refl _⟩

theorem Environment.chained_later (env : Environment) : Chained env.Later where
  refl _ := Environment.later_of_same rfl rfl
  trans h h' := ⟨h'.1.trans h.1, h.2.trans h'.2⟩

theorem Environment.busy_later (env : Environment) : Busy env env.Later where
  toChained := env.chained_later
  note _ _ _ _ := Environment.later_of_same rfl rfl
  record _ _ := Environment.later_of_same rfl rfl
  reply _ trace := ⟨rfl, .reply (.refl _) trace⟩
  react _ trace := ⟨rfl, .react (.refl _) trace⟩
  hold _ _ := Environment.later_of_same rfl rfl
  store _ _ := Environment.later_of_same rfl rfl

theorem Environment.inward_later (env : Environment) : Act.Inward env.Later where
  toChained := env.chained_later
  note _ _ := Environment.later_of_same rfl rfl
  report _ _ _ _ := Environment.later_of_same rfl rfl
  store _ _ := Environment.later_of_same rfl rfl

/-! ## Rows -/

variable {settings : Settings}

theorem later_note (n : Note) : Follows env env.Later (Act.note n) :=
  env.inward_later.follows_note n

/-- A change of the report that keeps its start. -/
theorem later_account {change : Report → Report}
    (h : ∀ report : Report, (change report).startTime = report.startTime) :
    Follows env env.Later (Act.account change) :=
  .modify fun s => Environment.later_of_same (h s.report) rfl

namespace Run

theorem later_setCookies (line : Option Int) (blob : String) :
    Follows env env.Later (setCookies line blob) :=
  .bind env.chained_later (.ofExcept env.chained_later _ _) fun _ =>
    .bind env.chained_later (.modify fun _ => Environment.later_of_same rfl rfl) fun _ =>
      later_note _

theorem later_skip (category destination : String) :
    Follows env env.Later (skip category destination) :=
  later_account fun _ => rfl

theorem later_acquire (file : Path) (source : Source) (destination : String) :
    Follows env env.Later (acquire settings file source destination) :=
  .bind env.chained_later (env.busy_later.follows_fetch settings source _) fun _ =>
    .bind env.chained_later (later_account fun _ => rfl) fun _ => later_note _

theorem later_saveIfWanted (output : Path) (source : Source) (destination : String) :
    Follows env env.Later (saveIfWanted settings output source destination) := by
  have hannounce : ∀ verdict : Verdict, Follows env env.Later (announce verdict destination) :=
    fun _ => .ite (later_account fun _ => rfl) (.pure env.chained_later _)
  exact .bind env.chained_later (env.inward_later.follows_reach _ _) fun decision =>
    .ite (.bind env.chained_later (hannounce decision.verdict) fun _ => later_acquire _ _ _)
      (later_skip _ _)

theorem later_save (output : Path) (source : Source) (destination : String) :
    Follows env env.Later (save settings output source destination) := by
  unfold save
  split
  · exact .bind env.chained_later (later_note _) fun _ => later_skip _ _
  · exact later_saveIfWanted _ _ _

theorem later_row (output : Path) (directive : Directive) :
    Follows env env.Later (row settings output directive) := by
  unfold row
  split
  · exact .throw env.chained_later _
  · exact later_setCookies _ _
  · exact later_save _ _ _

theorem later_rows (output : Path) : ∀ directives : List Directive,
    Follows env env.Later (rows settings output directives)
  | [] => .pure env.chained_later _
  | _ :: rest => .bind env.chained_later (later_row _ _) fun _ => later_rows output rest

/-! ## Runs -/

variable {given : Provided}

theorem later_recordAll : ∀ events : Trace, Follows env env.Later (recordAll events)
  | [] => .pure env.chained_later _
  | e :: rest => .bind env.chained_later (env.busy_later.follows_record e) fun _ =>
      later_recordAll rest

theorem later_drain (output : Path) (directives : List Directive) :
    Follows env env.Later (drain settings given output directives) :=
  .bind env.chained_later (later_recordAll _) fun _ =>
    .andAlways env.chained_later
      (.andAlways env.chained_later
        (.rescue env.chained_later (later_rows output directives) env.inward_later.follows_fail)
        (.ite (.pure env.chained_later _) env.busy_later.follows_close))
      (later_recordAll _)

end Run

end Dossier
