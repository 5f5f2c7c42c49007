import Dossier.Proofs.Run.Loss

/-!
# Responses that are fetched again from scratch

Responses that are too small are cleared with all that lies *beside* them: in
their directory, or they alone in the output directory itself.  If every row
that may clear a directory comes before the other rows that save there, no row
removes what a row before it has left, and a run ends as asked for
(`run_fromScratch`).

A row first sweeps away what its destination clears, if it does, and then saves
if its place is free (`Turn.sweeps`).  From this follows what a row adds to what
the rows after it do (`Redone.step`), and by induction what all rows do
(`Turns.redone`).
-/

namespace Dossier

open Script (Source Action Directive)

/-- Responses that are too small lie at a destination. -/
def Settings.Stale (settings : Settings) (output : Location) (store : Store) (d : String) : Prop :=
  ∃ e, store.get? (Run.place output d) = some e ∧ settings.TooSmall d e

/-- A destination has a location cleared. -/
def Settings.Clears (settings : Settings) (output : Location) (store : Store) (d : String)
    (l : Location) : Prop :=
  settings.Stale output store d ∧ Run.Beside output d l

/-- Responses come before all else that is saved to their directory. -/
def Script.ResponsesFirst (ds : List String) : Prop :=
  ds.Pairwise fun earlier d => Verdict.isResponses d = true → Destination.directory d ≠ [] →
    ¬ Destination.directory d <+: Destination.segments earlier

instance (ds : List String) : Decidable (Script.ResponsesFirst ds) :=
  inferInstanceAs (Decidable (ds.Pairwise _))

namespace Run

variable {settings : Settings} {env : Environment} {s s' t : State} {output l : Location}
  {ds : List String} {d e : String} {source : Source} {c : Content}

/-! ## The turn of a row that saves -/

/-- What is cleared for a destination depends on what lies at its place. -/
theorem clears_congr {store store' : Store}
    (h : store'.get? (place output d) = store.get? (place output d)) (l : Location) :
    settings.Clears output store' d l ↔ settings.Clears output store d l := by
  rw [Settings.Clears, Settings.Clears, Settings.Stale, Settings.Stale, h]

/-- A row sweeps away what its destination clears, and saves if its place is free
then. -/
theorem Turn.sweeps (hwanted : settings.leavesOut source = false)
    (h : Turn settings env output s s' (.save source d)) :
    ∃ v : Store.View, (∀ l, settings.Clears output s.store d l → v l = none) ∧
      (∀ l, ¬ settings.Clears output s.store d l → v l = s.store.get? l) ∧
      (place output d).Short ∧
      ((s'.store.get? = v ∧ ∃ e, v (place output d) = some e) ∨
        ∃ data, v (place output d) = none ∧
          s'.store.get? = v.saved (place output d) (.plain data)) := by
  cases h with
  | leftOut out _ _ =>
      rw [hwanted] at out
      cases out
  | @present _ _ found _ there short large store _ =>
      have hkept : ¬ settings.Stale output s.store d := by
        rintro ⟨e, he, hsmall⟩
        obtain rfl : found = e := Option.some.inj (there.symm.trans he)
        exact large hsmall
      exact ⟨s.store.get?, fun l hl => absurd hl.1 hkept, fun _ _ => rfl, short,
        Or.inl ⟨by rw [store], found, there⟩⟩
  | fetched _ free _ _ short _ view _ =>
      have hkept : ¬ settings.Stale output s.store d := by
        rintro ⟨e, he, _⟩
        rw [free] at he
        cases he
      exact ⟨s.store.get?, fun l hl => absurd hl.1 hkept, fun _ _ => rfl, short,
        Or.inr ⟨_, free, view⟩⟩
  | @refetched _ _ found _ _ there small _ short _ view _ =>
      have hstale : settings.Stale output s.store d := ⟨found, there, small⟩
      exact ⟨Store.View.emptied s.store.get? output (place output d),
        fun l hl => emptied_of_beside hl.2,
        fun l hl => emptied_of_not_beside fun hbeside => hl ⟨hstale, hbeside⟩, short,
        Or.inr ⟨_, emptied_of_beside (beside_place output d), view⟩⟩

section Save

variable (hwanted : settings.leavesOut source = false)
  (h : Turn settings env output s s' (.save source d))
include hwanted h

/-- A file is there after the turn. -/
theorem Turn.file (hs : s.store.Tree) (hdir : s.store.get? (place output d) ≠ some .directory) :
    (place output d).Short ∧ ∃ c, s'.store.get? (place output d) = some (.file c) := by
  obtain ⟨v, hcleared, hkept, hshort, hend⟩ := h.sweeps hwanted
  refine ⟨hshort, ?_⟩
  rcases hend with ⟨hview, found, hthere⟩ | ⟨data, _, hview⟩
  · have hclear : ¬ settings.Clears output s.store d (place output d) := fun hclear => by
      rw [hcleared _ hclear] at hthere
      cases hthere
    rw [hkept _ hclear] at hthere
    rcases hs.directory_or_file hthere with rfl | ⟨c, rfl⟩
    · exact absurd hthere hdir
    · exact ⟨c, by rw [hview, hkept _ hclear, hthere]⟩
  · exact ⟨.plain data, by rw [hview, Store.View.saved, if_pos rfl]⟩

/-- A file that is not cleared is kept. -/
theorem Turn.keeps (hfile : s.store.get? l = some (.file c))
    (hclear : ¬ settings.Clears output s.store d l) : s'.store.get? l = some (.file c) := by
  obtain ⟨v, _, hkept, _, hend⟩ := h.sweeps hwanted
  rw [← hkept l hclear] at hfile
  rcases hend with ⟨hview, _⟩ | ⟨data, hfree, hview⟩
  · rw [hview, hfile]
  · have hne : l ≠ place output d := by
      rintro rfl
      rw [hfree] at hfile
      cases hfile
    rw [hview, Store.View.saved, if_neg hne, Store.View.opened_of_some hfile]

/-- A file that is there after the turn was there before, and not cleared, or it
lies at the destination. -/
theorem Turn.before (hfile : s'.store.get? l = some (.file c)) :
    (s.store.get? l = some (.file c) ∧ ¬ settings.Clears output s.store d l) ∨
      l = place output d := by
  obtain ⟨v, hcleared, hkept, _, hend⟩ := h.sweeps hwanted
  have hthere : v l = some (.file c) ∨ l = place output d := by
    rcases hend with ⟨hview, _⟩ | ⟨data, _, hview⟩
    · exact Or.inl (by rw [← hview, hfile])
    · by_cases hne : l = place output d
      · exact Or.inr hne
      · rw [hview, Store.View.saved, if_neg hne, Store.View.opened_eq_file_iff] at hfile
        exact Or.inl hfile
  refine hthere.imp_left fun hv => ?_
  have hclear : ¬ settings.Clears output s.store d l := fun hclear => by
    rw [hcleared l hclear] at hv
    cases hv
  exact ⟨by rw [← hkept l hclear, hv], hclear⟩

/-- The place of another destination is as it was, unless it is cleared. -/
theorem Turn.other (hfree : Script.PrefixFree ds) (hd : d ∈ ds) (he : e ∈ ds) (hne : e ≠ d) :
    (settings.Clears output s.store d (place output e) ∧ s'.store.get? (place output e) = none) ∨
      (¬ settings.Clears output s.store d (place output e) ∧
        s'.store.get? (place output e) = s.store.get? (place output e)) := by
  obtain ⟨v, hcleared, hkept, _, hend⟩ := h.sweeps hwanted
  have hv : s'.store.get? (place output e) = v (place output e) := by
    rcases hend with ⟨hview, _⟩ | ⟨data, _, hview⟩
    · rw [hview]
    · rw [hview, saved_other hfree hd he hne]
  rw [hv]
  by_cases hclear : settings.Clears output s.store d (place output e)
  · exact Or.inl ⟨hclear, hcleared _ hclear⟩
  · exact Or.inr ⟨hclear, hkept _ hclear⟩

/-- What another destination clears after the turn it cleared before. -/
theorem Turn.clears_before (hfree : Script.PrefixFree ds) (hd : d ∈ ds) (he : e ∈ ds) (hne : e ≠ d)
    (hclear : settings.Clears output s'.store e l) : settings.Clears output s.store e l := by
  rcases h.other hwanted hfree hd he hne with ⟨_, hnone⟩ | ⟨_, hsame⟩
  · obtain ⟨⟨_, hthere, _⟩, _⟩ := hclear
    rw [hnone] at hthere
    cases hthere
  · exact (clears_congr hsame l).mp hclear

/-- What another destination cleared before the turn it clears after it, or it
is cleared in the turn. -/
theorem Turn.clears_after (hfree : Script.PrefixFree ds) (hd : d ∈ ds) (he : e ∈ ds) (hne : e ≠ d)
    (hclear : settings.Clears output s.store e l) :
    settings.Clears output s'.store e l ∨ settings.Clears output s.store d l := by
  rcases h.other hwanted hfree hd he hne with ⟨hcleared, _⟩ | ⟨_, hsame⟩
  · exact Or.inr ⟨hcleared.1, hcleared.2.trans hfree hd he hne hclear.2⟩
  · exact Or.inl ((clears_congr hsame l).mpr hclear)

/-- A destination that was free, or had stale responses, is reported as fetched. -/
theorem Turn.fetches
    (hfetch : s.store.get? (place output d) = none ∨ settings.Stale output s.store d) :
    d ∈ s'.report.fetched := by
  cases h with
  | leftOut out _ _ =>
      rw [hwanted] at out
      cases out
  | @present _ _ found _ there _ large _ _ =>
      rcases hfetch with hnone | ⟨e, he, hsmall⟩
      · rw [there] at hnone
        cases hnone
      · obtain rfl : found = e := Option.some.inj (there.symm.trans he)
        exact absurd hsmall large
  | fetched _ _ _ _ _ _ _ accounts =>
      rw [show s'.report = _ from congrArg Accounts.report accounts]
      exact Array.mem_push_self
  | refetched _ _ _ _ _ _ _ accounts =>
      rw [show s'.report = _ from congrArg Accounts.report accounts]
      exact Array.mem_push_self

end Save

/-- What is reported as fetched stays so. -/
theorem Turn.fetched_mono {action : Action} (h : Turn settings env output s s' action)
    (hd : d ∈ s.report.fetched) : d ∈ s'.report.fetched := by
  have hreport : ∀ {report : Report}, s'.accounts.report = report → d ∈ report.fetched →
      d ∈ s'.report.fetched := fun hsame hmem => by rwa [← hsame] at hmem
  cases h with
  | cookies _ _ accounts => exact hreport (congrArg Accounts.report accounts) hd
  | leftOut _ _ accounts => exact hreport (congrArg Accounts.report accounts) hd
  | present _ _ _ _ _ accounts => exact hreport (congrArg Accounts.report accounts) hd
  | fetched _ _ _ _ _ _ _ accounts =>
      exact hreport (congrArg Accounts.report accounts) (Array.mem_push_of_mem _ hd)
  | refetched _ _ _ _ _ _ _ accounts =>
      exact hreport (congrArg Accounts.report accounts) (Array.mem_push_of_mem _ hd)

/-! ## Rows one after the other -/

/-- What rows that save to some destinations have done: the files they left, and
what was fetched. -/
structure Redone (settings : Settings) (output : Location) (ds : List String) (s s' : State) :
    Prop where
  /-- Every destination is a file. -/
  file : ∀ d ∈ ds, (place output d).Short ∧ ∃ c, s'.store.get? (place output d) = some (.file c)
  /-- A file that no destination has cleared is kept. -/
  kept : ∀ l c, s.store.get? l = some (.file c) →
    (∀ d ∈ ds, ¬ settings.Clears output s.store d l) → s'.store.get? l = some (.file c)
  /-- A file that was not there before lies at a destination, and so does one that
  a destination has cleared. -/
  before : ∀ l c, s'.store.get? l = some (.file c) →
    (s.store.get? l = some (.file c) ∧ ∀ d ∈ ds, ¬ settings.Clears output s.store d l) ∨
      ∃ d ∈ ds, l = place output d
  /-- A destination that was free is fetched, and so is one that is cleared. -/
  fetched : ∀ e ∈ ds, (s.store.get? (place output e) = none ∨
    ∃ d ∈ ds, settings.Clears output s.store d (place output e)) → e ∈ s'.report.fetched
  /-- What is reported as fetched stays so. -/
  mono : ∀ d ∈ s.report.fetched, d ∈ s'.report.fetched

theorem Redone.refl (settings : Settings) (output : Location) (s : State) :
    Redone settings output [] s s where
  file _ hd := nomatch hd
  kept _ _ hl _ := hl
  before _ _ hl := Or.inl ⟨hl, fun _ hd => nomatch hd⟩
  fetched _ he _ := nomatch he
  mono _ hd := hd

/-- Responses do not clear what rows before them save. -/
theorem not_clears_earlier {store : Store} (hne : e ≠ d)
    (hfirst : Verdict.isResponses d = true → Script.Destination.directory d ≠ [] →
      ¬ Script.Destination.directory d <+: Script.Destination.segments e) :
    ¬ settings.Clears output store d (place output e) := by
  rintro ⟨⟨_, _, _, _, hresponses, _⟩, hbeside⟩
  obtain ⟨hnil, hp⟩ := (beside_place_iff hne).mp hbeside
  exact hfirst hresponses hnil hp

/-- A row that saves, and the rows after it. -/
theorem Redone.step {rest : List String} (hwanted : settings.leavesOut source = false)
    (hturn : Turn settings env output s t (.save source d)) (hs : s.store.Tree)
    (hfree : Script.PrefixFree (d :: rest)) (hnodup : (d :: rest).Nodup)
    (hfirst : Script.ResponsesFirst (d :: rest))
    (hdir : s.store.get? (place output d) ≠ some .directory)
    (h : Redone settings output rest t s') : Redone settings output (d :: rest) s s' := by
  have hd : d ∈ d :: rest := List.mem_cons_self ..
  have hmem : ∀ {e}, e ∈ rest → e ∈ d :: rest := List.mem_cons_of_mem _
  have hne : ∀ {e}, e ∈ rest → e ≠ d := fun he heq => (List.nodup_cons.mp hnodup).1 (heq ▸ he)
  -- no later destination clears what the row leaves
  have hsaved : ∀ e ∈ rest, ∀ store, ¬ settings.Clears output store e (place output d) :=
    fun e he _ => not_clears_earlier (hne he).symm ((List.pairwise_cons.mp hfirst).1 e he)
  refine ⟨fun e he => ?_, fun l c hl hclear => ?_, fun l c hl => ?_, fun e he hfetch => ?_,
    fun e he => h.mono e (hturn.fetched_mono he)⟩
  · rcases List.mem_cons.mp he with rfl | he
    · obtain ⟨hshort, c, hc⟩ := hturn.file hwanted hs hdir
      exact ⟨hshort, c, h.kept _ c hc fun f hf => hsaved f hf _⟩
    · exact h.file e he
  · refine h.kept l c (hturn.keeps hwanted hl (hclear d hd)) fun e he hlate => ?_
    exact hclear e (hmem he) (hturn.clears_before hwanted hfree hd (hmem he) (hne he) hlate)
  · rcases h.before l c hl with ⟨ht, hlate⟩ | ⟨e, he, rfl⟩
    · rcases hturn.before hwanted ht with ⟨hbefore, hclear⟩ | rfl
      · refine Or.inl ⟨hbefore, fun e he hearly => ?_⟩
        rcases List.mem_cons.mp he with rfl | he
        · exact hclear hearly
        · exact (hturn.clears_after hwanted hfree hd (hmem he) (hne he) hearly).elim
            (hlate e he) hclear
      · exact Or.inr ⟨d, hd, rfl⟩
    · exact Or.inr ⟨e, hmem he, rfl⟩
  · rcases List.mem_cons.mp he with rfl | he
    · refine h.mono e (hturn.fetches hwanted (hfetch.imp_right ?_))
      rintro ⟨f, hf, hclear⟩
      rcases List.mem_cons.mp hf with rfl | hf
      · exact hclear.1
      · exact absurd hclear (hsaved f hf _)
    · refine h.fetched e he ?_
      rcases hturn.other hwanted hfree hd (hmem he) (hne he) with ⟨_, hnone⟩ | ⟨hkept, hsame⟩
      · exact Or.inl hnone
      · refine hfetch.imp (fun hnone => hsame.trans hnone) ?_
        rintro ⟨f, hf, hclear⟩
        rcases List.mem_cons.mp hf with rfl | hf
        · exact absurd hclear hkept
        · exact ⟨f, hf, (hturn.clears_after hwanted hfree hd (hmem hf) (hne hf)
            hclear).resolve_right hkept⟩

/-- A row of cookies does nothing to files. -/
theorem Redone.of_same (h : Redone settings output ds t s') (hstore : t.store = s.store)
    (hfetched : t.report.fetched = s.report.fetched) : Redone settings output ds s s' where
  file := h.file
  kept := hstore ▸ h.kept
  before := hstore ▸ h.before
  fetched := hstore ▸ h.fetched
  mono := hfetched ▸ h.mono

theorem leavesOut_of_pages (hskip : settings.skipPages = false) (source : Source) :
    settings.leavesOut source = false := by
  cases source with
  | page url => exact hskip
  | file url => rfl
  | text content => rfl

/-- What rows do if responses come first. -/
theorem Turns.redone {actions : List Action} (hskip : settings.skipPages = false)
    (h : Turns settings env output s actions s') (hs : s.store.Tree)
    (hfree : Script.PrefixFree (Script.destinations actions))
    (hnodup : (Script.destinations actions).Nodup)
    (hfirst : Script.ResponsesFirst (Script.destinations actions))
    (hdirs : ∀ d ∈ Script.destinations actions,
      s.store.get? (place output d) ≠ some .directory) :
    Redone settings output (Script.destinations actions) s s' := by
  induction h with
  | done => exact .refl settings output _
  | @next s t s' action rest turn _ ih =>
      cases action with
      | archiveName name => nomatch turn
      | cookies blob =>
          rw [Script.destinations_cookies] at *
          cases turn with
          | cookies _ store accounts =>
              exact (ih (store ▸ hs) hfree hnodup hfirst (store ▸ hdirs)).of_same store
                (congrArg (fun accounts => accounts.report.fetched) accounts)
      | save source d =>
          rw [Script.destinations_save] at *
          have hwanted := leavesOut_of_pages hskip source
          have hmem : ∀ {e}, e ∈ Script.destinations rest → e ∈ d :: Script.destinations rest :=
            List.mem_cons_of_mem _
          refine .step hwanted turn hs hfree hnodup hfirst (hdirs d (List.mem_cons_self ..))
            (ih (turn.tree hs) (hfree.of_subset (List.subset_cons_self ..))
              (List.nodup_cons.mp hnodup).2 (List.pairwise_cons.mp hfirst).2 fun e he => ?_)
          have hne : e ≠ d := fun heq => (List.nodup_cons.mp hnodup).1 (heq ▸ he)
          rcases turn.other hwanted hfree (List.mem_cons_self ..) (hmem he) hne with
            ⟨_, hnone⟩ | ⟨_, hsame⟩
          · rw [hnone]
            exact nofun
          · rw [hsame]
            exact hdirs e (hmem he)

/-! ## Runs -/

/-- What a run leaves that fetches from scratch what was too small. -/
structure FromScratch (settings : Settings) (env : Environment) (output : Location)
    (ds : List String) (before : Store) (report : Report) (s' : State) : Prop where
  /-- Every destination is a file and in the archive. -/
  saved : ∀ d ∈ ds, (∃ c, s'.store.get? (place output d) = some (.file c)) ∧
    Archived env output report s' d
  /-- A directory whose responses were too small holds just the destinations in it. -/
  cleared : ∀ d ∈ ds, settings.Stale output before d → Script.Destination.directory d ≠ [] →
    ∀ l, output ++ Script.Destination.directory d <+: l →
      l ≠ output ++ Script.Destination.directory d →
        ((∃ c, s'.store.get? l = some (.file c)) ↔ ∃ e ∈ ds, l = place output e)
  /-- They are reported as fetched. -/
  fetched : ∀ d ∈ ds, settings.Stale output before d → Script.Destination.directory d ≠ [] →
    ∀ e ∈ ds, Script.Destination.directory d <+: Script.Destination.segments e →
      e ∈ report.fetched
  /-- Other files of the output directory are as they were. -/
  kept : ∀ l c, output <+: l → before.get? l = some (.file c) →
    (∀ d ∈ ds, settings.Stale output before d → ¬ Beside output d l) →
      s'.store.get? l = some (.file c)

/-- A run that completes fetches from scratch what was too small, if responses
come before all else that is saved to their directory and the output directory is not the
root, where the archive would lie in it. -/
theorem run_fromScratch (given : Provided) {report : Report} {text : String}
    {directives : List Directive} (hparse : Script.parse text = .ok directives)
    (hds : ds = Script.destinations (directives.map Directive.action))
    (hnodup : ds.Nodup) (hfree : Script.PrefixFree ds) (hfirst : Script.ResponsesFirst ds)
    (hsubject : settings.subject = none) (hskip : settings.skipPages = false)
    (hs : s.store.Tree) (hhere : ".." ∉ env.here) (hout : output = outputOf settings env directives)
    (hroot : output ≠ []) (hdirs : ∀ d ∈ ds, s.store.get? (place output d) ≠ some .directory)
    (hrun : run settings given directives env s = .ok report s') :
    FromScratch settings env output ds s.store report s' := by
  obtain ⟨t, t', hbegun, _, hturns, htree, hpacked⟩ :=
    run_completed hparse hsubject hs hhere hout hrun
  obtain ⟨line, name, rest, rfl, _, _⟩ := Script.parse_shape hparse
  rw [List.map_cons, Script.destinations_archiveName] at hds
  have hredone : Redone settings output ds t t' := by
    subst hds
    exact hturns.redone hskip hbegun.opens.tree hfree hnodup hfirst fun d hd => by
      rw [hbegun.at_place]
      exact hdirs d hd
  have hstale : ∀ d, settings.Stale output t.store d ↔ settings.Stale output s.store d := by
    intro d
    rw [Settings.Stale, Settings.Stale, hbegun.at_place]
  have hfile : ∀ d ∈ ds, _ := fun d hd =>
    hpacked.file htree (hredone.file d hd).1 (hredone.file d hd).2
  refine ⟨hfile, fun d hd hsmall hnil l hp hl => ⟨?_, ?_⟩, fun d hd hsmall hnil e he hp => ?_,
    fun l c hl hc hclear => ?_⟩
  · rintro ⟨c, hc⟩
    rw [hpacked.view, if_neg (Packing.ne_archivePlace_of_below env hbegun.plain hnil hp hl)] at hc
    refine (hredone.before l c hc).resolve_left fun h => h.2 d hd ⟨(hstale d).mpr hsmall, ?_⟩
    rw [Beside, if_neg hnil]
    exact hp
  · rintro ⟨e, he, rfl⟩
    exact (hfile e he).1
  · rw [hpacked.fetched]
    refine hredone.fetched e he (Or.inr ⟨d, hd, (hstale d).mpr hsmall, ?_⟩)
    rw [Beside, if_neg hnil]
    exact (List.prefix_append_right_inj output).mpr hp
  · have hkept := hredone.kept l c
      (by rw [hbegun.opens.view, Store.View.opened_of_some hc])
      fun d hd h => hclear d hd ((hstale d).mp h.1) h.2
    have hother : l ≠ Packing.archivePlace env output := fun harchive =>
      Packing.archivePlace_not_below env hbegun.plain hroot (harchive ▸ hl)
    rw [hpacked.view, if_neg hother, hkept]

/-! ## Answers that are fetched again -/

/-- A script that saves the responses first, and then an essay. -/
def answersText : String :=
  "zip-name q\nsave-text y as a/responses.pdf\nsave-text x as a/essay.txt"

def answersScript : List Directive :=
  [⟨some 1, .archiveName "q"⟩, ⟨some 2, .save (.text "y") "a/responses.pdf"⟩,
    ⟨some 3, .save (.text "x") "a/essay.txt"⟩]

theorem answersText_parses : Script.parse answersText = .ok answersScript :=
  Script.parse_of_toOption (by decide +kernel)

/-- Responses of one byte are there, with a draft beside them and a file above. -/
def oldAnswers : State :=
  { store := ⟨[(["output"], .directory), (["output", "q"], .directory),
      (["output", "q", "top.txt"], .file (.plain [116])),
      (["output", "q", "a"], .directory),
      (["output", "q", "a", "draft.txt"], .file (.plain [100])),
      (["output", "q", "a", "responses.pdf"], .file (.plain [115]))]⟩ }

/-- The draft is gone, and the file above is kept. -/
theorem answers_fromScratch :
    ∃ report s', run fromFiveBytes {} answersScript {} oldAnswers = .ok report s' ∧
      FromScratch fromFiveBytes {} ["output", "q"] ["a/responses.pdf", "a/essay.txt"]
        oldAnswers.store report s' := by
  have hends :
      (run fromFiveBytes {} answersScript).EndsIn {} oldAnswers (fun _ _ => true) = true := by
    decide +kernel
  obtain ⟨report, s', hrun, _⟩ := Act.exists_of_endsIn hends
  exact ⟨report, s', hrun, run_fromScratch {} answersText_parses rfl (by decide +kernel)
    (by decide +kernel) (by decide +kernel) rfl rfl (by decide +kernel) (by decide)
    (by decide +kernel) nofun (by decide +kernel) hrun⟩

/-! ## A run at the root -/

/-- A script without rows that saves to the output root itself. -/
def inPlaceText : String := "zip-name ."

def inPlaceScript : List Directive := [⟨some 1, .archiveName "."⟩]

theorem inPlaceText_parses : Script.parse inPlaceText = .ok inPlaceScript :=
  Script.parse_of_toOption (by decide +kernel)

/-- The output root is the root of the store. -/
def fromRoot : Settings := { fromFiveBytes with outputRoot := Path.ofString "/" }

/-- What lies at the place of the archive of the root. -/
def rootArchive : State := { store := ⟨[([".zip"], .file (.plain [90]))]⟩ }

/-- At the root the archive is itself a file of the output directory, and what was there is not
kept. -/
theorem not_all_fromScratch : ¬ ∀ (settings : Settings) (given : Provided) (env : Environment)
    (s s' : State) (output : Location) (text : String) (directives : List Directive)
    (ds : List String) (report : Report), Script.parse text = .ok directives →
      ds = Script.destinations (directives.map Directive.action) → ds.Nodup →
      Script.PrefixFree ds → Script.ResponsesFirst ds → settings.subject = none →
      settings.skipPages = false → s.store.Tree → ".." ∉ env.here →
      output = outputOf settings env directives →
      (∀ d ∈ ds, s.store.get? (place output d) ≠ some .directory) →
      run settings given directives env s = .ok report s' →
        FromScratch settings env output ds s.store report s' := by
  intro h
  obtain ⟨report, s', hrun, hcheck⟩ := Act.exists_of_endsIn (by decide +kernel :
    (run fromRoot {} inPlaceScript).EndsIn {} rootArchive (fun _ s' =>
      s'.store.get? [".zip"] != some (.file (.plain [90]))) = true)
  have hscratch := h fromRoot {} {} rootArchive s' [] inPlaceText inPlaceScript [] report
    inPlaceText_parses rfl (by decide) (by decide) (by decide) rfl rfl (by decide +kernel)
    (by decide) (by decide +kernel) nofun hrun
  have hkept := hscratch.kept [".zip"] (.plain [90]) List.nil_prefix (by decide +kernel) nofun
  exact absurd hkept (bne_iff_ne.mp hcheck)

end Run

end Dossier
