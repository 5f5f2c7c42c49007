import Dossier.Proofs.Run.Whole

/-!
# What a run loses

A row that clears the directory of responses that are too small removes what
earlier rows of the same run have saved there or left in place.  These rows are
not carried out again, yet the report still counts them.

Which destinations are lost in this way can be read off the notes of the run.
A destination is *kept* by them if it was saved or was there already, and its
directory, or one above it, was not cleared after that.  Of the destinations
that the report of a completed run counts, those that are kept are files of the
output directory and entries of the archive at the end, and the others are not
(`counted_iff_kept`).  Not all of them need be (`not_all_counted_are_files`).
-/

namespace Dossier

open Script (Action)

/-- The report counts a destination as fetched, or as there already. -/
def Report.Counts (r : Report) (destination : String) : Prop :=
  destination ∈ r.fetched ∨ (⟨"already_present", destination⟩ : Skip) ∈ r.skips

instance (r : Report) (destination : String) : Decidable (r.Counts destination) :=
  inferInstanceAs (Decidable (_ ∨ _))

namespace Run

/-- Whether a destination is kept after a note, given whether it was before. -/
def keptAfter (output : Location) (destination : String) (kept : Bool) : Note → Bool
  | .saved d _ | .alreadyPresent d => kept || d == destination
  | .refetching _ _ directory =>
    kept && !(directory != Location.path output &&
      directory.parts.isPrefixOf (place output destination))
  | _ => kept

/-- Whether notes keep a destination. -/
def keptBy (output : Location) (notes : List Note) (destination : String) : Bool :=
  notes.foldl (keptAfter output destination) false

variable {settings : Settings} {given : Provided} {env : Environment} {s s' : State}
  {output : Location} {report : Report} {ds : List String} {log : List Note} {d e : String}

/-! ## Notes -/

theorem keptBy_append (output : Location) (log notes : List Note) (e : String) :
    keptBy output (log ++ notes) e = notes.foldl (keptAfter output e) (keptBy output log e) :=
  List.foldl_append

theorem keptBy_present (output : Location) (log : List Note) (d e : String) :
    keptBy output (log ++ [.alreadyPresent d]) e = (keptBy output log e || d == e) :=
  keptBy_append ..

theorem keptBy_saved (output : Location) (log : List Note) (d e : String) (n : Nat) :
    keptBy output (log ++ [.saved d n]) e = (keptBy output log e || d == e) :=
  keptBy_append ..

/-- A destination is no longer kept once a directory above it is cleared. -/
theorem keptBy_refetched (output : Location) (log : List Note) (d e : String) (size n : Nat) :
    keptBy output (log ++ [.refetching d size (Location.path (place output d).dropLast),
        .saved d n]) e =
      ((keptBy output log e && !decide (Script.Destination.directory d ≠ [] ∧
        Script.Destination.directory d <+: Script.Destination.segments e)) || d == e) := by
  have hroot : (Location.path (place output d).dropLast != Location.path output) =
      !decide (Script.Destination.directory d = []) := by
    rw [Bool.eq_iff_iff]
    simp [Location.path, dropLast_place]
  have hbelow : (place output d).dropLast.isPrefixOf (place output e) =
      decide (Script.Destination.directory d <+: Script.Destination.segments e) := by
    rw [Bool.eq_iff_iff, List.isPrefixOf_iff_prefix, decide_eq_true_iff, dropLast_place, place,
      List.prefix_append_right_inj]
  rw [keptBy_append]
  show ((keptBy output log e && !(_ && _)) || d == e) = _
  rw [hroot]
  show ((keptBy output log e && !(_ && (place output d).dropLast.isPrefixOf _)) || d == e) = _
  rw [hbelow]
  by_cases hnil : Script.Destination.directory d = [] <;> simp [hnil]

/-! ## The tally of a run -/

/-- What the notes of a run say so far about the destinations that its report
counts: those kept are files, and the others are gone, for they lay in a
directory that was cleared. -/
structure Tally (output : Location) (ds : List String) (log : List Note) (s : State) : Prop where
  tree : s.store.Tree
  /-- No directory lies at a destination. -/
  free : ∀ d ∈ ds, s.store.get? (place output d) ≠ some .directory
  counted : ∀ d, s.report.Counts d → d ∈ ds
  kept : ∀ d, s.report.Counts d → keptBy output log d = true →
    (place output d).Short ∧ ∃ c, s.store.get? (place output d) = some (.file c)
  gone : ∀ d, s.report.Counts d → keptBy output log d = false →
    s.store.get? (place output d) = none ∧ ∃ e ∈ ds, Script.Destination.directory e ≠ [] ∧
      Script.Destination.directory e <+: Script.Destination.segments d

theorem counts_withFetch {r : Report} {n : Int} :
    (r.withFetch d n).Counts e ↔ r.Counts e ∨ d = e := by
  simp only [Report.Counts, Report.withFetch, Array.mem_push]
  grind

theorem counts_withRefetch {r : Report} : (r.withRefetch d).Counts e ↔ r.Counts e := Iff.rfl

theorem counts_withSkip_present {r : Report} :
    (r.withSkip "already_present" d).Counts e ↔ r.Counts e ∨ d = e := by
  simp only [Report.Counts, Report.withSkip, Array.mem_push, Skip.mk.injEq]
  grind

theorem counts_withSkip_disabled {r : Report} :
    (r.withSkip "pdf_disabled" d).Counts e ↔ r.Counts e := by
  simp [Report.Counts, Report.withSkip]

/-- A tally depends on the store and the report only. -/
theorem Tally.of_same (h : Tally output ds log s) (hstore : s'.store = s.store)
    (hreport : ∀ d, s'.report.Counts d ↔ s.report.Counts d) : Tally output ds log s' where
  tree := hstore ▸ h.tree
  free := hstore ▸ h.free
  counted d hd := h.counted d ((hreport d).mp hd)
  kept d hd := hstore ▸ h.kept d ((hreport d).mp hd)
  gone d hd := hstore ▸ h.gone d ((hreport d).mp hd)

/-- A destination is counted and a file now, and of the others some were
cleared and the rest is as it was. -/
theorem Tally.step {log' : List Note} (cleared : String → Prop) [DecidablePred cleared]
    (h : Tally output ds log s) (hd : d ∈ ds) (htree : s'.store.Tree)
    (hcounts : ∀ e, s'.report.Counts e ↔ s.report.Counts e ∨ d = e)
    (hshort : (place output d).Short) (hfile : ∃ c, s'.store.get? (place output d) = some (.file c))
    (hother : ∀ e ∈ ds, e ≠ d → s'.store.get? (place output e) =
      if cleared e then none else s.store.get? (place output e))
    (hlog : ∀ e, keptBy output log' e = ((keptBy output log e && !decide (cleared e)) || d == e))
    (hcleared : ∀ e, cleared e → ∃ f ∈ ds, Script.Destination.directory f ≠ [] ∧
      Script.Destination.directory f <+: Script.Destination.segments e) :
    Tally output ds log' s' where
  tree := htree
  free e he := by
    by_cases hne : e = d
    · obtain ⟨c, hc⟩ := hfile
      simp [hne, hc]
    · rw [hother e he hne]
      split
      · simp
      · exact h.free e he
  counted e he := by
    cases (hcounts e).mp he with
    | inl hold => exact h.counted e hold
    | inr hnew => exact hnew ▸ hd
  kept e he hkept := by
    by_cases hne : e = d
    · exact hne ▸ ⟨hshort, hfile⟩
    · have hold : s.report.Counts e := ((hcounts e).mp he).resolve_right (Ne.symm hne)
      have hdb : (d == e) = false := by simpa using Ne.symm hne
      rw [hlog, hdb, Bool.or_false, Bool.and_eq_true, Bool.not_eq_true', decide_eq_false_iff_not]
        at hkept
      rw [hother e (h.counted e hold) hne, if_neg hkept.2]
      exact h.kept e hold hkept.1
  gone e he hgone := by
    rw [hlog, Bool.or_eq_false_iff] at hgone
    have hne : e ≠ d := fun heq => by simp [heq] at hgone
    have hold : s.report.Counts e := ((hcounts e).mp he).resolve_right (Ne.symm hne)
    rw [hother e (h.counted e hold) hne]
    by_cases hc : cleared e
    · rw [if_pos hc]
      exact ⟨rfl, hcleared e hc⟩
    · rw [if_neg hc]
      refine h.gone e hold ?_
      simpa [hc] using hgone.1

/-- A destination is counted and a file now, and the others are as they were. -/
theorem Tally.add {log' : List Note} (h : Tally output ds log s) (hd : d ∈ ds)
    (htree : s'.store.Tree) (hcounts : ∀ e, s'.report.Counts e ↔ s.report.Counts e ∨ d = e)
    (hshort : (place output d).Short) (hfile : ∃ c, s'.store.get? (place output d) = some (.file c))
    (hother : ∀ e ∈ ds, e ≠ d → s'.store.get? (place output e) = s.store.get? (place output e))
    (hlog : ∀ e, keptBy output log' e = (keptBy output log e || d == e)) :
    Tally output ds log' s' := by
  refine h.step (fun _ => False) hd htree hcounts hshort hfile ?_ ?_ fun _ hc => hc.elim
  · intro e he hne
    rw [hother e he hne, if_neg id]
  · intro e
    rw [hlog]
    simp

/-- A turn is added to the tally. -/
theorem Turn.tally {action : Action} (hfree : Script.PrefixFree ds) (h : Tally output ds log s)
    (haction : ∀ d ∈ Script.destinations [action], d ∈ ds)
    (hturn : Turn settings env output s s' action) :
    ∃ notes, s'.ledger = s.ledger ++ notes ∧ Tally output ds (log ++ notes) s' := by
  cases hturn with
  | cookies _ store accounts =>
      refine ⟨[], ?_, ?_⟩
      · rw [List.append_nil]
        exact congrArg Accounts.ledger accounts
      · rw [List.append_nil]
        have hreport : s'.report = s.report := congrArg Accounts.report accounts
        exact h.of_same store fun d => by rw [hreport]
  | @leftOut _ d _ store accounts =>
      refine ⟨[], ?_, ?_⟩
      · rw [List.append_nil]
        exact congrArg Accounts.ledger accounts
      · rw [List.append_nil]
        have hreport : s'.report = s.report.withSkip "pdf_disabled" d :=
          congrArg Accounts.report accounts
        exact h.of_same store fun e => by rw [hreport, counts_withSkip_disabled]
  | @present _ d e _ there short _ store accounts =>
      have hd : d ∈ ds := haction d (List.mem_singleton_self d)
      have hreport : s'.report = s.report.withSkip "already_present" d :=
        congrArg Accounts.report accounts
      refine ⟨_, congrArg Accounts.ledger accounts, ?_⟩
      refine h.add hd (store ▸ h.tree) (fun e => by rw [hreport, counts_withSkip_present]) short ?_
        (fun e _ _ => by rw [store]) (keptBy_present output log d)
      rw [store]
      rcases h.tree.directory_or_file there with rfl | ⟨c, rfl⟩
      · exact absurd there (h.free d hd)
      · exact ⟨c, there⟩
  | @fetched _ d data _ free _ _ short tree view accounts =>
      have hd : d ∈ ds := haction d (List.mem_singleton_self d)
      have hreport : s'.report = s.report.withFetch d data.length :=
        congrArg Accounts.report accounts
      refine ⟨_, congrArg Accounts.ledger accounts, ?_⟩
      refine h.add hd tree (fun e => by rw [hreport, counts_withFetch]) short ?_ ?_
        fun e => keptBy_saved output log d e data.length
      · exact ⟨.plain data, by rw [view, Store.View.saved, if_pos rfl]⟩
      · intro e he hne
        rw [view, saved_other hfree hd he hne]
  | @refetched _ d e data _ _ _ _ short tree view accounts =>
      have hd : d ∈ ds := haction d (List.mem_singleton_self d)
      have hreport : s'.report = (s.report.withRefetch d).withFetch d data.length :=
        congrArg Accounts.report accounts
      refine ⟨_, congrArg Accounts.ledger accounts, ?_⟩
      refine h.step (fun e => Script.Destination.directory d ≠ [] ∧
        Script.Destination.directory d <+: Script.Destination.segments e) hd tree
        (fun e => by rw [hreport, counts_withFetch, counts_withRefetch]) short ?_ ?_ ?_ ?_
      · exact ⟨.plain data, by rw [view, Store.View.saved, if_pos rfl]⟩
      · intro e he hne
        rw [view, saved_other hfree hd he hne, emptied_other hne]
      · intro e
        exact keptBy_refetched output log d e _ _
      · exact fun e hc => ⟨d, hd, hc⟩

/-- The tally of turns one after the other. -/
theorem Turns.tally {actions : List Action} (hfree : Script.PrefixFree ds)
    (hturns : Turns settings env output s actions s') :
    ∀ {log : List Note}, Tally output ds log s → (∀ d ∈ Script.destinations actions, d ∈ ds) →
      ∃ notes, s'.ledger = s.ledger ++ notes ∧ Tally output ds (log ++ notes) s' := by
  induction hturns with
  | done => exact fun h _ => ⟨[], by simp, by simpa using h⟩
  | @next s t s' action rest turn _ ih =>
      intro log h hmem
      rw [Script.destinations_cons] at hmem
      obtain ⟨first, hfirst, htally⟩ := turn.tally hfree h fun d hd =>
        hmem d (List.mem_append_left _ hd)
      obtain ⟨later, hlater, htally'⟩ := ih htally fun d hd => hmem d (List.mem_append_right _ hd)
      refine ⟨first ++ later, ?_, ?_⟩
      · rw [hlater, hfirst, List.append_assoc]
      · rwa [← List.append_assoc]

/-! ## What is lost in the end -/

/-- Nothing is counted when a run begins. -/
theorem Begun.tally {t : State} (hbegun : Begun output s t)
    (hdirs : ∀ d ∈ ds, s.store.get? (place output d) ≠ some .directory) :
    Tally output ds [] t := by
  have hnone : ∀ d, ¬ t.report.Counts d := by
    intro d hd
    rw [Report.Counts, hbegun.fetched, hbegun.skips] at hd
    simp at hd
  refine ⟨hbegun.opens.tree, fun d hd => ?_, fun d hd => absurd hd (hnone d),
    fun d hd => absurd hd (hnone d), fun d hd => absurd hd (hnone d)⟩
  rw [hbegun.at_place]
  exact hdirs d hd

/-- A file of the output directory is in the archive. -/
theorem Packed.archived {t : State} (hpacked : Packed env output t s' report)
    (htree : t.store.Tree) (hshort : (place output d).Short) {c : Content}
    (hfile : t.store.get? (place output d) = some (.file c)) :
    Archived env output report s' d := by
  refine ⟨_, _, _, hpacked.path, hpacked.stat, ?_⟩
  have hmem := Store.mem_filesBelow htree hshort.2 hfile (List.prefix_append _ _)
    (output_ne_place output d).symm
  rw [place, List.drop_left] at hmem
  exact ⟨_, List.mem_map.mpr ⟨_, hmem, rfl⟩, rfl⟩

/-- A destination that is a file is one at the end, and in the archive. -/
theorem Packed.file {t : State} (hpacked : Packed env output t s' report) (htree : t.store.Tree)
    (hshort : (place output d).Short)
    (hfile : ∃ c, t.store.get? (place output d) = some (.file c)) :
    (∃ c, s'.store.get? (place output d) = some (.file c)) ∧ Archived env output report s' d := by
  obtain ⟨c, hc⟩ := hfile
  refine ⟨?_, hpacked.archived htree hshort hc⟩
  rw [hpacked.view]
  split
  · exact ⟨_, rfl⟩
  · exact ⟨c, hc⟩

/-- The archive does not lie where a destination was lost. -/
theorem ne_archivePlace_of_lost (env : Environment) (ho : ".." ∉ output)
    (hfree : Script.PrefixFree ds) (hd : d ∈ ds) (he : e ∈ ds)
    (hne : Script.Destination.directory e ≠ [])
    (hbelow : Script.Destination.directory e <+: Script.Destination.segments d) :
    place output d ≠ Packing.archivePlace env output := by
  refine Packing.ne_archivePlace_of_below env ho hne
    ((List.prefix_append_right_inj output).mpr hbelow) fun heq => ?_
  have hsegments := List.append_cancel_left heq
  have hde := hfree d hd e he (hsegments ▸ List.dropLast_prefix _)
  subst hde
  exact Store.dropLast_ne_self (Script.Destination.segments_ne_nil d) hsegments.symm

/-- Of the destinations that the report of a completed run counts, exactly those
that its notes keep are files of the output directory and entries of the archive
at the end. -/
theorem counted_iff_kept {text : String} {directives : List Script.Directive}
    (hparse : Script.parse text = .ok directives)
    (hfree : Script.PrefixFree (Script.destinations (directives.map Script.Directive.action)))
    (hsubject : settings.subject = none) (hs : s.store.Tree) (hhere : ".." ∉ env.here)
    (hout : output = outputOf settings env directives)
    (hdirs : ∀ d ∈ Script.destinations (directives.map Script.Directive.action),
      s.store.get? (place output d) ≠ some .directory)
    (hrun : run settings given directives env s = .ok report s') :
    ∃ notes, s'.ledger = s.ledger ++ notes ∧ ∀ d, report.Counts d →
      (((∃ c, s'.store.get? (place output d) = some (.file c)) ∧
        Archived env output report s' d) ↔ keptBy output notes d = true) := by
  obtain ⟨t, t', hbegun, _, hturns, htree, hpacked⟩ :=
    run_completed hparse hsubject hs hhere hout hrun
  obtain ⟨line, name, rest, rfl, _, hlater⟩ := Script.parse_shape hparse
  obtain ⟨notes, hledger, htally⟩ := hturns.tally hfree (hbegun.tally hdirs) fun d hd => hd
  refine ⟨notes, by rw [hpacked.ledger, hledger, hbegun.ledger], fun d hd => ?_⟩
  have hd' : t'.report.Counts d := by
    rwa [Report.Counts, hpacked.fetched, hpacked.skips] at hd
  have hmem := htally.counted d hd'
  constructor
  · rintro ⟨⟨c, hc⟩, _⟩
    cases hkept : keptBy output notes d with
    | true => rfl
    | false =>
        obtain ⟨hnone, e, he, hne, hbelow⟩ := htally.gone d hd' hkept
        rw [hpacked.view, if_neg, hnone] at hc
        · cases hc
        · exact ne_archivePlace_of_lost env hbegun.plain hfree hmem he hne hbelow
  · intro hkept
    obtain ⟨hshort, hfile⟩ := htally.kept d hd' hkept
    exact hpacked.file htree hshort hfile

/-! ## An essay that is lost -/

/-- A script that saves an essay, and then the responses in the same directory. -/
def essayText : String :=
  "zip-name q\nsave-text x as a/essay.txt\nsave-text y as a/responses.pdf"

def essayScript : List Script.Directive :=
  [⟨some 1, .archiveName "q"⟩, ⟨some 2, .save (.text "x") "a/essay.txt"⟩,
    ⟨some 3, .save (.text "y") "a/responses.pdf"⟩]

/-- Responses of one byte are there already. -/
def smallResponses : State :=
  { store := ⟨[(["output"], .directory), (["output", "q"], .directory),
      (["output", "q", "a"], .directory),
      (["output", "q", "a", "responses.pdf"], .file (.plain [115]))]⟩ }

/-- Responses of fewer than five bytes are fetched again. -/
def fromFiveBytes : Settings := { threshold := some 5 }

theorem essayText_parses : Script.parse essayText = .ok essayScript :=
  Script.parse_of_toOption (by decide +kernel)

theorem essay_output : ["output", "q"] = outputOf fromFiveBytes {} essayScript := by
  decide +kernel

theorem essay_run : ∃ report s',
    run fromFiveBytes {} essayScript {} smallResponses = .ok report s' ∧
      report.Counts "a/essay.txt" ∧ report.Counts "a/responses.pdf" ∧
        s'.store.get? ["output", "q", "a", "essay.txt"] = none ∧
          keptBy ["output", "q"] s'.ledger "a/essay.txt" = false ∧
            keptBy ["output", "q"] s'.ledger "a/responses.pdf" = true := by
  have hrun : (run fromFiveBytes {} essayScript).EndsIn {} smallResponses (fun report s' =>
      decide (report.Counts "a/essay.txt" ∧ report.Counts "a/responses.pdf" ∧
        s'.store.get? ["output", "q", "a", "essay.txt"] = none ∧
          keptBy ["output", "q"] s'.ledger "a/essay.txt" = false ∧
            keptBy ["output", "q"] s'.ledger "a/responses.pdf" = true)) = true := by
    decide +kernel
  obtain ⟨report, s', hrun, hcheck⟩ := Act.exists_of_endsIn hrun
  exact ⟨report, s', hrun, of_decide_eq_true hcheck⟩

/-- The essay is lost and the responses are not. -/
theorem essay_lost : ∃ report s',
    run fromFiveBytes {} essayScript {} smallResponses = .ok report s' ∧
    ¬ ((∃ c, s'.store.get? (place ["output", "q"] "a/essay.txt") = some (.file c)) ∧
      Archived {} ["output", "q"] report s' "a/essay.txt") ∧
    ((∃ c, s'.store.get? (place ["output", "q"] "a/responses.pdf") = some (.file c)) ∧
      Archived {} ["output", "q"] report s' "a/responses.pdf") := by
  obtain ⟨report, s', hrun, hessay, hresponses, _, hlost, hkept⟩ := essay_run
  obtain ⟨notes, hledger, hiff⟩ := counted_iff_kept essayText_parses (by decide +kernel) rfl
    (by decide +kernel) (by decide) essay_output (by decide +kernel) hrun
  obtain rfl : s'.ledger = notes := hledger
  refine ⟨report, s', hrun, fun h => ?_, (hiff _ hresponses).mpr hkept⟩
  have := (hiff _ hessay).mp h
  rw [hlost] at this
  cases this

/-- It is not so that all destinations that a report counts are files of the
output directory and entries of the archive. -/
theorem not_all_counted_are_files :
    ¬ ∀ (text : String) (directives : List Script.Directive) (settings : Settings)
        (given : Provided) (env : Environment) (s s' : State) (report : Report),
      Script.parse text = .ok directives →
      Script.PrefixFree (Script.destinations (directives.map Script.Directive.action)) →
      settings.subject = none → s.store.Tree → ".." ∉ env.here →
      (∀ d ∈ Script.destinations (directives.map Script.Directive.action),
        s.store.get? (place (outputOf settings env directives) d) ≠ some .directory) →
      run settings given directives env s = .ok report s' → ∀ d, report.Counts d →
        (∃ c, s'.store.get? (place (outputOf settings env directives) d) = some (.file c)) ∧
          Archived env (outputOf settings env directives) report s' d := by
  intro hall
  obtain ⟨report, s', hrun, hessay, _, hnone, _⟩ := essay_run
  obtain ⟨⟨c, hc⟩, _⟩ := hall essayText essayScript fromFiveBytes {} {} smallResponses s' report
    essayText_parses (by decide +kernel) rfl (by decide +kernel) (by decide) (by decide +kernel)
    hrun "a/essay.txt" hessay
  have hplace : place ["output", "q"] "a/essay.txt" = ["output", "q", "a", "essay.txt"] := by
    decide +kernel
  rw [← essay_output, hplace, hnone] at hc
  cases hc

end Run

end Dossier
