import Dossier.Proofs.Number.Binary64
import Dossier.Settings

/-!
# What a setting is in the end

A setting can be read by its name, and so can what overrides and the environment give for it
(`get?`).  To override is, at each setting, to take what is given or else what was there.  So
overrides that are given one after the other act as one, their compound (`foldl_revise`), which
gives for each setting what was given last (`get?_compound`).

Overrides that give nothing leave the settings that were there, and not a copy of them
(`revise?_eq_none_iff`).
-/

namespace Dossier

/-! ## Settings by name -/

/-- The names of the settings. -/
inductive Setting
  | subject
  | threshold
  | skipPages
  | outputRoot
  | navigationTimeout
  | requestTimeout
  | headless
  | pageFormat

/-- What can be given for a setting. -/
abbrev Setting.Content : Setting → Type
  | .subject => String
  | .threshold => Int
  | .skipPages => Bool
  | .outputRoot => Path
  | .navigationTimeout => Int
  | .requestTimeout => Timeout
  | .headless => Bool
  | .pageFormat => String

variable {s : Settings} {given : Variables}

namespace Settings

/-- What a setting is.  Only of a subject and of a threshold there may be none. -/
def get? (s : Settings) : (x : Setting) → Option x.Content
  | .subject => s.subject
  | .threshold => s.threshold
  | .skipPages => some s.skipPages
  | .outputRoot => some s.outputRoot
  | .navigationTimeout => some s.navigationTimeout
  | .requestTimeout => some s.requestTimeout
  | .headless => some s.headless
  | .pageFormat => some s.pageFormat

/-- Settings are no more than what they are by name. -/
theorem get?_injective : Function.Injective get? := by
  intro s t heq
  have hsame := congrFun heq
  obtain ⟨⟩ := s
  obtain ⟨⟩ := t
  simp only [mk.injEq]
  exact ⟨hsame .subject, hsame .threshold, Option.some.inj (hsame .skipPages),
    Option.some.inj (hsame .outputRoot), Option.some.inj (hsame .navigationTimeout),
    Option.some.inj (hsame .requestTimeout), Option.some.inj (hsame .headless),
    Option.some.inj (hsame .pageFormat)⟩

end Settings

namespace Overrides

/-- What overrides give for a setting, if anything. -/
def get? (o : Overrides) : (x : Setting) → Option x.Content
  | .subject => o.subject
  | .threshold => o.threshold
  | .skipPages => o.skipPages
  | .outputRoot => o.outputRoot
  | .navigationTimeout => o.navigationTimeout
  | .requestTimeout => o.requestTimeout
  | .headless => o.headless
  | .pageFormat => o.pageFormat

/-- Of two overrides as one the second wins where it gives anything. -/
theorem get?_andThen (o p : Overrides) (x : Setting) :
    (o.andThen p).get? x = (p.get? x).or (o.get? x) := by
  cases x <;> rfl

theorem isEmpty_iff {o : Overrides} : o.isEmpty = true ↔ ∀ x, o.get? x = none := by
  simp only [isEmpty, Bool.and_eq_true, Option.isNone_iff_eq_none]
  constructor
  · rintro ⟨⟨⟨⟨⟨⟨⟨_, _⟩, _⟩, _⟩, _⟩, _⟩, _⟩, _⟩ x
    cases x <;> assumption
  · intro hnone
    exact ⟨⟨⟨⟨⟨⟨⟨hnone .subject, hnone .threshold⟩, hnone .skipPages⟩, hnone .outputRoot⟩,
      hnone .navigationTimeout⟩, hnone .requestTimeout⟩, hnone .headless⟩, hnone .pageFormat⟩

/-- Overrides one after the other as one. -/
def compound : List Overrides → Overrides
  | [] => {}
  | o :: rest => o.andThen (compound rest)

/-- What the compound of overrides gives for a setting is what is given for it last. -/
theorem get?_compound (os : List Overrides) (x : Setting) :
    (compound os).get? x = (os.filterMap (get? · x)).getLast? := by
  induction os with
  | nil => cases x <;> rfl
  | cons o rest ih =>
      rw [compound, get?_andThen, ih, List.filterMap_cons]
      cases o.get? x with
      | none => exact Option.or_none
      | some content => rw [List.getLast?_cons, Option.or_some]

end Overrides

/-! ## Overriding -/

namespace Settings

theorem get?_override (s : Settings) (o : Overrides) (x : Setting) :
    (s.override o).get? x = (o.get? x).or (s.get? x) := by
  cases x with
  | subject => rfl
  | threshold => rfl
  | skipPages => exact Option.or_some.symm
  | outputRoot => exact Option.or_some.symm
  | navigationTimeout => exact Option.or_some.symm
  | requestTimeout => exact Option.or_some.symm
  | headless => exact Option.or_some.symm
  | pageFormat => exact Option.or_some.symm

/-- The settings that are there after overrides: new ones, or those that were there. -/
def revise (s : Settings) (o : Overrides) : Settings := (s.revise? o).getD s

/-- There are new settings unless nothing is given. -/
theorem revise?_eq_none_iff {o : Overrides} : s.revise? o = none ↔ ∀ x, o.get? x = none := by
  rw [← Overrides.isEmpty_iff, revise?]
  cases o.isEmpty <;> simp

/-- Settings that are left where they are are what the overrides would have made of them. -/
theorem revise_eq (s : Settings) (o : Overrides) : s.revise o = s.override o := by
  cases hempty : o.isEmpty with
  | false => rw [revise, revise?, hempty]; rfl
  | true =>
      rw [revise, revise?, hempty]
      refine get?_injective (funext fun x => ?_)
      rw [get?_override, Overrides.isEmpty_iff.mp hempty x, Option.none_or]
      rfl

theorem get?_revise (s : Settings) (o : Overrides) (x : Setting) :
    (s.revise o).get? x = (o.get? x).or (s.get? x) := by
  rw [revise_eq, get?_override]

/-- Two overrides one after the other act as one. -/
theorem revise_revise (s : Settings) (o p : Overrides) :
    (s.revise o).revise p = s.revise (o.andThen p) := by
  refine get?_injective (funext fun x => ?_)
  simp only [get?_revise, Overrides.get?_andThen, Option.or_assoc]

/-- Overrides one after the other act as their compound. -/
theorem foldl_revise (s : Settings) (os : List Overrides) :
    os.foldl revise s = s.revise (.compound os) := by
  induction os generalizing s with
  | nil => rfl
  | cons o rest ih => rw [List.foldl_cons, ih, revise_revise, Overrides.compound]

end Settings

/-! ## The environment -/

namespace Variables

/-- What a text says of a flag.  An empty one says nothing. -/
def saysYes? (text : String) : Option Bool :=
  if text = "" then none
  else some (yesWords.contains (String.ofList (text.toList.map Char.toLower)))

/-- What the environment gives for a setting, if anything. -/
def get? (given : Variables) : (x : Setting) → Option x.Content
  | .outputRoot => given.outputDirectory.map Path.ofString
  | .requestTimeout => (given.httpTimeout.bind Reading.float?).map Timeout.real
  | .headless => given.headless.bind saysYes?
  | _ => none

theorem flag_eq (text : Option String) (default : Bool) :
    flag text default = (text.bind saysYes?).getD default := by
  cases text with
  | none => rfl
  | some text =>
      rw [flag, Option.bind_some, saysYes?]
      split <;> rfl

/-- The timeout that is read where none is given. -/
theorem float?_standard : Reading.float? "120" = some (Binary64.nearest false 120 1) := rfl

theorem settings_ok (h : given.settings = .ok s) :
    ∃ timeout, Reading.float? (given.httpTimeout.getD "120") = some timeout ∧
      s = { outputRoot := Path.ofString (given.outputDirectory.getD "output")
            requestTimeout := .real timeout
            headless := flag given.headless true } := by
  rw [settings] at h
  cases hread : Reading.float? (given.httpTimeout.getD "120") with
  | none =>
      rw [hread] at h
      cases h
  | some timeout =>
      rw [hread] at h
      cases h
      exact ⟨timeout, rfl, rfl⟩

end Variables

/-- The number of seconds of a timeout, if that is finite. -/
def Timeout.seconds? : Timeout → Option ℚ
  | .whole n => some n
  | .real x => (Binary64.ofFloat? x).map Binary64.value

namespace Settings

/-- The settings of an environment that gives nothing.  The timeout is the standard one, but as a
float. -/
def initial : Settings := { standard with requestTimeout := .real (Binary64.nearest false 120 1) }

theorem seconds?_initial :
    initial.requestTimeout.seconds? = standard.requestTimeout.seconds? := by
  have hparts : Binary64.ofFloat? (Binary64.nearest false 120 1) =
      some ⟨false, 120 * 2 ^ 46, -46⟩ := by decide +kernel
  rw [initial, Timeout.seconds?, hparts]
  norm_num [Binary64.value, standard, Timeout.seconds?]

/-- The settings of an environment are what it gives, or else the initial ones. -/
theorem get?_of_accepted (accepted : given.settings = .ok s) (x : Setting) :
    s.get? x = (given.get? x).or (initial.get? x) := by
  obtain ⟨timeout, hread, rfl⟩ := Variables.settings_ok accepted
  cases x with
  | subject => rfl
  | threshold => rfl
  | skipPages => rfl
  | navigationTimeout => rfl
  | pageFormat => rfl
  | outputRoot =>
      rw [get?, Variables.get?]
      cases given.outputDirectory <;> rfl
  | requestTimeout =>
      rw [get?, Variables.get?]
      cases htext : given.httpTimeout with
      | none =>
          rw [htext, Option.getD_none, Variables.float?_standard] at hread
          rw [← Option.some.inj hread]
          rfl
      | some text =>
          rw [htext, Option.getD_some] at hread
          rw [Option.bind_some, hread]
          rfl
  | headless =>
      rw [get?, Variables.flag_eq]
      exact Option.or_some.symm

/-- Overrides of the settings of an environment, one after the other.  In the end each setting is
what was given for it last, or else what the environment gives, or else the initial one, and that
is the standard one.  Two overrides act as one, in which what the second gives wins.  Settings are
left where they are if and only if nothing is given. -/
theorem revised_lastGiven (accepted : given.settings = .ok s) :
    (∀ (os : List Overrides) (x : Setting), (os.foldl revise s).get? x =
      ((os.filterMap (·.get? x)).getLast?.or (given.get? x)).or (initial.get? x)) ∧
    ((∀ x, x ≠ .requestTimeout → initial.get? x = standard.get? x) ∧
      initial.requestTimeout.seconds? = standard.requestTimeout.seconds?) ∧
    (∀ (t : Settings) (o p : Overrides), (t.revise o).revise p = t.revise (o.andThen p) ∧
      (t.revise? (o.andThen p) = none ↔ t.revise? o = none ∧ (t.revise o).revise? p = none) ∧
      ∀ x, (o.andThen p).get? x = (p.get? x).or (o.get? x)) ∧
    ∀ (t : Settings) (o : Overrides), t.revise? o = none ↔ ∀ x, o.get? x = none := by
  refine ⟨fun os x => ?_, ⟨fun x hx => ?_, seconds?_initial⟩, fun t o p => ⟨revise_revise t o p, ?_,
    Overrides.get?_andThen o p⟩, fun _ _ => revise?_eq_none_iff⟩
  · rw [foldl_revise, get?_revise, Overrides.get?_compound, get?_of_accepted accepted,
      Option.or_assoc]
  · cases x with
    | requestTimeout => exact absurd rfl hx
    | _ => rfl
  · simp only [revise?_eq_none_iff, Overrides.get?_andThen, Option.or_eq_none_iff, forall_and]
    exact and_comm

/-- An environment that gives all it can. -/
def lavish : Variables :=
  { outputDirectory := some "/data/out", httpTimeout := some "30", headless := some "No" }

/-- The second overrides take back what the first give, and the last give nothing. -/
def wavering : List Overrides :=
  [{ subject := some "a", skipPages := some true, requestTimeout := some (.whole 5) },
   { subject := some "", skipPages := some false, threshold := some 0 }, {}]

theorem wavering_lastGiven : ∃ s, lavish.settings = .ok s ∧
    (wavering.foldl revise s).get? .subject = some "" ∧
    (wavering.foldl revise s).get? .threshold = some (0 : Int) ∧
    (wavering.foldl revise s).get? .skipPages = some false ∧
    (wavering.foldl revise s).get? .outputRoot = some (Path.ofString "/data/out") ∧
    (wavering.foldl revise s).get? .requestTimeout = some (Timeout.whole 5) ∧
    (wavering.foldl revise s).get? .headless = some false ∧
    (wavering.foldl revise s).get? .pageFormat = some "A4" ∧
    s.revise? {} = none ∧ s.revise? { threshold := some 0 } ≠ none := by
  have haccepted : ∃ s, lavish.settings = .ok s := ⟨_, rfl⟩
  obtain ⟨s, hs⟩ := haccepted
  obtain ⟨hlast, _, _, hsame⟩ := revised_lastGiven hs
  refine ⟨s, hs, hlast wavering .subject, hlast wavering .threshold, hlast wavering .skipPages,
    hlast wavering .outputRoot, hlast wavering .requestTimeout, hlast wavering .headless,
    hlast wavering .pageFormat, (hsame s {}).mpr fun x => ?_, fun hnone => ?_⟩
  · cases x <;> rfl
  · cases (hsame s _).mp hnone .threshold

end Settings

end Dossier
