import Dossier.Proofs.Act.Containment
import Dossier.Proofs.Run.Root

/-!
# What a run may change

All that a run changes lies below its output directory, however the run ends.
The directory and those above it may be made, and the archive is written beside
it; nothing else outside of the directory is touched (`run_contained`).

What a row takes is said for one row first, with the fault that it ends with, if
any (`row_leads`).  A row clears responses that are too small, with all that lies
beside them, or it was to save a file and its download broke off.  So nothing is
ever removed that lies elsewhere, and the output directory stays.
-/

namespace Dossier.Run

open Script (Directive Source Action)
open Act (Follows Leads Keeps)
open State (Contained)

variable {settings : Settings} {given : Provided} {env : Environment} {s s' t u v : State}
  {output l : Location} {d : String} {source : Source} {action : Action}
  {fault? : Option Fault} {gone : Location → Prop}

/-! ## Verdicts -/

/-- A place in the output directory lies below it. -/
theorem below_place (output : Location) (d : String) : Store.Below output (place output d) :=
  Store.below_append (Script.Destination.segments_ne_nil d)

/-- Clearing takes what lies beside the responses. -/
theorem clear_follows (ho : ".." ∉ output) (hd : Script.Destination.Safe d)
    (hr : Verdict.isResponses d = true) :
    Follows env (Contained output (Beside output d))
      (Verdict.clear (Location.path output) (Location.path (place output d).dropLast)) := by
  have hl := not_mem_place ho hd
  refine Follows.mapFault ?_ _
  split
  · rw [child_responses hd hr]
    exact Disk.follows_unlink hl (below_place output d) (beside_place output d)
  · rename_i hout
    have hnil : Script.Destination.directory d ≠ [] := fun hnil =>
      hout (by rw [dropLast_place, hnil, List.append_nil])
    have hplain : ".." ∉ (place output d).dropLast := fun hm => hl (List.dropLast_subset _ hm)
    rw [dropLast_place] at hplain ⊢
    refine Disk.follows_removeTree hplain (Store.below_append hnil) fun m hm => ?_
    rw [Beside, if_neg hnil]
    exact hm

theorem tooSmall_follows (ho : ".." ∉ output) (hd : Script.Destination.Safe d)
    (hr : Verdict.isResponses d = true) (size : Nat) :
    Follows env (Contained output (Beside output d))
      (Verdict.tooSmall (Location.path output) d size) := by
  have hchained := Contained.chained output (Beside output d)
  rw [Verdict.tooSmall, child_path hd]
  exact .bind hchained (.modify fun _ => .of_store rfl) fun _ =>
    .bind hchained (clear_follows ho hd hr) fun _ => .pure hchained _

/-- Only responses are too small, and only with a threshold. -/
theorem of_smallSize? {p : Path} {size : Nat}
    (h : Verdict.smallSize? settings p d env s = .ok (some size) s') :
    settings.threshold ≠ none ∧ Verdict.isResponses d = true := by
  rw [Verdict.smallSize?] at h
  cases ht : settings.threshold with
  | none =>
      rw [ht] at h
      cases (Act.pure_ok.mp h).1
  | some threshold =>
      rw [ht] at h
      by_cases hr : Verdict.isResponses d = true
      · exact ⟨Option.some_ne_none threshold, hr⟩
      · simp only [if_neg hr] at h
        cases (Act.pure_ok.mp h).1

/-- What lies beside responses may be cleared if there is a threshold and no
subject. -/
def Clears (settings : Settings) (output : Location) (d : String) (l : Location) : Prop :=
  settings.subject = none ∧ settings.threshold ≠ none ∧ Verdict.isResponses d = true ∧
    Beside output d l

theorem onPresent_follows (hsubject : settings.subject = none) (ho : ".." ∉ output)
    (hd : Script.Destination.Safe d) :
    Follows env (Contained output (Clears settings output d))
      (Verdict.onPresent settings (Location.path output) d) := by
  have hchained := Contained.chained output (Clears settings output d)
  refine .bind_of_ok hchained (hchained.follows_smallSize? _ _) fun s small? t h => ?_
  cases small? with
  | none => exact .bind hchained (.modify fun _ => .of_store rfl) fun _ => .pure hchained _
  | some size =>
      obtain ⟨hthreshold, hr⟩ := of_smallSize? h
      exact fun s => (tooSmall_follows ho hd hr size s).mono fun l hl =>
        ⟨hsubject, hthreshold, hr, hl⟩

theorem reach_follows (ho : ".." ∉ output) (hd : Script.Destination.Safe d) :
    Follows env (Contained output (Clears settings output d))
      (Verdict.reach settings (Location.path output) d) := by
  have hchained := Contained.chained output (Clears settings output d)
  unfold Verdict.reach
  split
  · exact .ite (.pure hchained _) (.bind hchained (.modify fun _ => .of_store rfl) fun _ =>
      .pure hchained _)
  · rename_i hsubject
    exact .bind hchained (hchained.follows_look _ _) fun _ =>
      .ite (onPresent_follows hsubject ho hd) (.pure hchained _)

/-! ## Rows -/

/-- What carrying out an action may take, given the fault that it fails with. -/
inductive Taken (settings : Settings) (output : Location) :
    Action → Option Fault → Location → Prop
  /-- It lay beside responses that are too small. -/
  | cleared {source : Source} {d : String} {fault? : Option Fault} {l : Location}
      (clears : Clears settings output d l) : Taken settings output (.save source d) fault? l
  /-- A download to it broke off. -/
  | download {url d : String} {fault : Fault}
      (broken : fault.IsDownload url (Location.path (place output d))) :
      Taken settings output (.save (.file url) d) (some fault) (place output d)

/-- What is taken without a fault may be taken with one. -/
theorem Taken.of_none (h : Taken settings output action none l) :
    Taken settings output action fault? l := by
  cases h with
  | cleared clears => exact .cleared clears

/-- Changes of the store that take what an action may take. -/
abbrev TakesFor (settings : Settings) (output : Location) (action : Action)
    (fault? : Option Fault) : State → State → Prop :=
  Contained output (Taken settings output action fault?)

theorem takesFor_trans (h : TakesFor settings output action none s t)
    (h' : TakesFor settings output action fault? t u) :
    TakesFor settings output action fault? s u :=
  (Contained.chained output _).trans (h.mono fun _ => Taken.of_none) h'

/-- Fetching takes a file if it was to be downloaded. -/
theorem fetch_leads (ho : ".." ∉ output) (hd : Script.Destination.Safe d) (source : Source) :
    Leads env (TakesFor settings output (.save source d))
      (fetch settings source (Location.path (place output d))) := by
  have hadmits := Disk.admits_contained (not_mem_place ho hd) (below_place output d) env
    fun _ => False
  have hnothing : ∀ (fault? : Option Fault) (s s' : State), Contained output (fun _ => False) s s' →
      TakesFor settings output (.save source d) fault? s s' :=
    fun _ _ _ h => h.mono fun _ hm => hm.elim
  refine .bind takesFor_trans (.of_follows (.get hadmits.toChained) hnothing) fun s => ?_
  cases source with
  | file url =>
      refine .mono (Saving.file_leads (not_mem_place ho hd) (below_place output d) url s.cookies
        settings.requestTimeout) fun fault? _ _ h => h.mono ?_
      rintro _ ⟨rfl, fault, rfl, hbroken⟩
      exact .download hbroken
  | page url => exact .of_follows (hadmits.follows_page settings url s.cookies) hnothing
  | text content => exact .of_follows (hadmits.follows_text content) hnothing

theorem leads_of_keeps {α : Type} {act : Act α} (h : Keeps State.store act) :
    Leads env (TakesFor settings output action) act :=
  .of_follows (h env) fun _ _ _ => Contained.of_store

/-- What is wanted takes what lies beside it if it is responses that are too
small, and itself if it is a download that breaks off. -/
theorem saveIfWanted_leads (ho : ".." ∉ output) (hd : Script.Destination.Safe d)
    (source : Source) :
    Leads env (TakesFor settings output (.save source d))
      (saveIfWanted settings (Location.path output) source d) := by
  have haccount : ∀ change, Leads env (TakesFor settings output (.save source d))
      (Act.account change) := fun _ => leads_of_keeps fun _ => .modify fun _ => rfl
  have hreach : Leads env (TakesFor settings output (.save source d))
      (Verdict.reach settings (Location.path output) d) :=
    .of_follows (reach_follows ho hd) fun _ _ _ h => h.mono fun _ => .cleared
  rw [saveIfWanted_eq]
  refine .bind takesFor_trans hreach fun decision => ?_
  split
  · refine .bind takesFor_trans ?_ fun _ => ?_
    · unfold announce
      split
      · exact haccount _
      · exact leads_of_keeps fun _ => .pure (.part _) ()
    · rw [acquire, child_path hd]
      exact .bind takesFor_trans (fetch_leads ho hd source) fun size =>
        .bind takesFor_trans (haccount _) fun _ => leads_of_keeps fun _ => .modify fun _ => rfl
  · exact haccount _

/-- A row takes what lies beside responses that are too small, and the file of a
download that breaks off. -/
theorem row_leads (ho : ".." ∉ output) {directive : Directive} (hlater : directive.IsLater) :
    Leads env (TakesFor settings output directive.action)
      (row settings (Location.path output) directive) := by
  rw [row]
  rw [Directive.IsLater] at hlater
  cases haction : directive.action with
  | archiveName name => rw [haction] at hlater; exact hlater.elim
  | cookies blob =>
      refine leads_of_keeps fun _ => ?_
      exact .bind (.part _) (.ofExcept (.part _) _ _) fun _ =>
        .bind (.part _) (.modify fun _ => rfl) fun _ => .modify fun _ => rfl
  | save source d =>
      rw [haction] at hlater
      cases hout : settings.leavesOut source with
      | true =>
          simp only [save_of_leftOut hout]
          exact leads_of_keeps fun _ =>
            .bind (.part _) (.modify fun _ => rfl) fun _ => .modify fun _ => rfl
      | false =>
          simp only [save_of_wanted hout]
          exact saveIfWanted_leads ho hlater source

/-- Without a fault only what lies beside small responses is taken. -/
theorem Taken.clears (h : Taken settings output action none l) :
    ∃ d ∈ Script.destinations [action], Clears settings output d l := by
  cases h with
  | cleared clears => exact ⟨_, List.mem_singleton_self _, clears⟩

/-- Rows that are carried out take what lies beside small responses. -/
theorem rows_cleared (ho : ".." ∉ output) :
    ∀ {directives : List Directive} {s : State},
      (∀ directive ∈ directives, directive.IsLater) →
      rows settings (Location.path output) directives env s = .ok () s' →
      Contained output (fun l => ∃ d ∈ Script.destinations (directives.map Directive.action),
        Clears settings output d l) s s'
  | [], s, _, h => by
      obtain ⟨_, rfl⟩ := Act.pure_ok.mp h
      exact .of_store rfl
  | directive :: rest, s, hlater, h => by
      obtain ⟨_, t, hrow, hrest⟩ := Act.bind_ok.mp h
      rw [List.map_cons, Script.destinations_cons]
      refine (Contained.chained output _).trans
        (((row_leads ho (hlater _ (List.mem_cons_self ..))).ok hrow).mono fun l hl => ?_)
        ((rows_cleared ho (fun d hd => hlater d (List.mem_cons_of_mem _ hd)) hrest).mono
          fun l hl => ?_)
      · obtain ⟨d, hd, hclears⟩ := hl.clears
        exact ⟨d, List.mem_append_left _ hd, hclears⟩
      · obtain ⟨d, hd, hclears⟩ := hl
        exact ⟨d, List.mem_append_right _ hd, hclears⟩

theorem rows_append (p : Path) (before after : List Directive) :
    rows settings p (before ++ after) =
      rows settings p before >>= fun _ => rows settings p after := by
  induction before with
  | nil => rfl
  | cons directive rest ih =>
      show (row settings p directive >>= fun _ => rows settings p (rest ++ after)) = _
      rw [ih, ← bind_assoc]
      rfl

/-! ## What a run removes -/

/-- What a run may remove: what lies beside responses that are too small, and the
destination of a download that breaks off. -/
inductive Removable (settings : Settings) (given : Provided) (env : Environment) (s : State)
    (directives : List Directive) (output : Location) : Location → Prop
  | cleared {d : String} {l : Location}
      (saved : d ∈ Script.destinations (directives.map Directive.action))
      (clears : Clears settings output d l) : Removable settings given env s directives output l
  | download {line : Option Int} {url d : String} {fault : Fault}
      (fails : FailsAt settings given env s directives ⟨line, .save (.file url) d⟩ fault)
      (broken : fault.IsDownload url (Location.path (place output d))) :
      Removable settings given env s directives output (place output d)

/-- The rows of a run from any of them on remove what it may remove, however they
end. -/
theorem rows_contained (ho : ".." ∉ output) {directives before after left : List Directive}
    {p : Path} (hlater : ∀ directive ∈ directives.tail, directive.IsLater)
    (hparts : directives.tail = before ++ (after ++ left)) (hp : p = Location.path output)
    (hopen : opening settings given (Script.archiveName directives) env s = .ok p t)
    (hbefore : rows settings p before env t = .ok () u) :
    Contained output (Removable settings given env s directives output) u
      ((rows settings p after).final env u) := by
  subst hp
  have hafter : ∀ directive ∈ after, directive.IsLater := fun directive hd =>
    hlater directive (hparts ▸ List.mem_append_right _ (List.mem_append_left _ hd))
  have hsaved : ∀ ds ⊆ after, Script.destinations (ds.map Directive.action) ⊆
      Script.destinations (directives.map Directive.action) := by
    intro ds hsub
    refine List.filterMap_subset _ (List.map_subset _ fun directive hd => ?_)
    exact List.mem_of_mem_tail
      (hparts ▸ List.mem_append_right _ (List.mem_append_left _ (hsub hd)))
  cases hrows : rows settings (Location.path output) after env u with
  | ok _ u' =>
      rw [Act.final_of_ok hrows]
      refine (rows_cleared ho hafter hrows).mono ?_
      rintro l ⟨d, hd, hclears⟩
      exact .cleared (hsaved _ (List.Subset.refl _) hd) hclears
  | error fault u' =>
      rw [Act.final_of_error hrows]
      obtain ⟨done, ⟨line, action⟩, more, v, rfl, hdone, hrow⟩ := rows_error hrows
      refine (Contained.chained output _).trans
        ((rows_cleared ho (fun d hd => hafter d (List.mem_append_left _ hd)) hdone).mono ?_)
        (((row_leads ho (hafter _ (List.mem_append_right _ (List.mem_cons_self ..)))).error
          hrow).mono ?_)
      · rintro l ⟨d, hd, hclears⟩
        exact .cleared (hsaved _ (List.subset_append_left ..) hd) hclears
      · intro l hl
        cases hl with
        | @cleared source d _ _ clears =>
            exact .cleared (hsaved [⟨line, .save source d⟩] (by simp) (List.mem_singleton_self d))
              clears
        | download broken =>
            refine .download ⟨_, before ++ done, more ++ left, t, v, u', ?_, hopen, ?_, hrow⟩
              broken
            · rw [hparts, List.append_assoc, List.append_assoc, List.cons_append]
            · rw [rows_append]
              exact Act.bind_ok.mpr ⟨(), u, hbefore, hdone⟩

/-! ## Opening and completing -/

theorem prepare_grows (hs : s.store.Tree) (hhere : ".." ∉ env.here) {name : String}
    (hout : output = (settings.outputRoot.child name).location env.here) :
    Store.Grows output s.store ((prepare settings name).final env s).store := by
  have hl : ".." ∉ output := hout ▸ plain_location hhere _
  have hnote : ∀ _ : Unit, Keeps State.store (do
      Act.note (.workingIn (Location.path output))
      return Location.path output) := fun _ _ =>
    .bind (.part _) (.modify fun _ => rfl) fun _ => .pure (.part _) _
  have hresolve : resolve (settings.outputRoot.child name) env s = _ := resolve_eq hs.linkFree _
  rw [← hout] at hresolve
  split at hresolve
  · rw [prepare, Act.final_bind_of_error hresolve]
    exact .refl hs
  · rw [prepare, Act.final_bind hresolve, Keeps.final_bind hnote, Disk.during,
      Act.final_mapFault, Disk.ensureDirectories, Disk.final_changeUntil]
    split
    · exact .refl hs
    · exact Store.ensureDirectories_grows hs hl

/-- Opening makes the output directory, or some of the directories above it. -/
theorem opening_grows (given : Provided) (hs : s.store.Tree) (hhere : ".." ∉ env.here)
    {name : String} (hout : output = (settings.outputRoot.child name).location env.here) :
    Store.Grows output s.store ((opening settings given name).final env s).store := by
  have hrecord : ∀ p : Path, Keeps State.store (do
      recordAll (sessionOf given).events
      return p) := fun p _ =>
    .bind (.part _) (fun s => congrArg Prod.fst (keeps_recordAll _ _ s)) fun _ => .pure (.part _) p
  obtain ⟨t, hstart, hstore⟩ : ∃ t, start name env s = .ok () t ∧ t.store = s.store :=
    ⟨_, rfl, rfl⟩
  obtain ⟨u, hnote, hstore'⟩ : ∃ u, Act.note (.options settings) env t = .ok () u ∧
      u.store = t.store := ⟨_, rfl, rfl⟩
  rw [opening, Act.final_bind hstart, Act.final_bind hnote, Keeps.final_bind hrecord, ← hstore,
    ← hstore']
  exact prepare_grows (hstore' ▸ hstore ▸ hs) hhere hout

/-- Opening ends with the output directory. -/
theorem opening_ok (hs : s.store.Tree) (hhere : ".." ∉ env.here) {name : String} {p : Path}
    (hout : output = (settings.outputRoot.child name).location env.here)
    (h : opening settings given name env s = .ok p t) :
    p = Location.path output ∧ Begun output s t := by
  obtain ⟨_, t₁, hstart, h₁⟩ := Act.bind_ok.mp h
  obtain ⟨_, t₂, hnote, h₂⟩ := Act.bind_ok.mp h₁
  obtain ⟨q, t₃, hprepare, h₃⟩ := Act.bind_ok.mp h₂
  obtain ⟨_, t₄, hrecord, hpure⟩ := Act.bind_ok.mp h₃
  obtain ⟨rfl, rfl⟩ := Act.pure_ok.mp hpure
  obtain ⟨rfl, hbegun⟩ := begin_ok hs hhere hout hstart hnote hprepare
  exact ⟨rfl, hbegun.of_holdings ((keeps_recordAll _).ok hrecord)⟩

/-- Completing changes the store as packing does. -/
theorem complete_store (p : Path) :
    ((complete p).final env s).store = ((Packing.pack p).final env s).store := by
  rw [complete]
  exact Keeps.final_bind fun _ _ => .bind (.part State.store) (.modify fun _ => rfl) fun _ =>
    .bind (.part _) (reporting_store.follows_conclude _) fun _ => .bind (.part _) (.get (.part _))
      fun _ => .bind (.part _) (.ofExcept (.part _) _ _) fun _ =>
        .bind (.part _) (.modify fun _ => rfl) fun _ =>
          .bind (.part _) reporting_store.follows_noteReport fun _ => .pure (.part _) _

/-! ## Runs -/

/-- A run that has opened leaves the store as its rows leave it, but for the
archive. -/
theorem run_final (line : Option Int) {name : String} (rest : List Directive) {p : Path}
    (hopen : opening settings given name env s = .ok p t) :
    ((run settings given (⟨line, .archiveName name⟩ :: rest)).final env s).store =
        ((rows settings p rest).final env t).store ∨
      ∃ content, ((rows settings p rest).final env t).store.write env.here
        (Packing.archivePath p) content =
          .ok ((run settings given (⟨line, .archiveName name⟩ :: rest)).final env s).store := by
  rw [run_phases, Act.final_bind hopen, ← drain_store given]
  cases hdrain : draining settings given p rest env t with
  | error fault u =>
      rw [Act.final_bind_of_error hdrain, Act.final_of_error hdrain]
      exact Or.inl rfl
  | ok _ u =>
      rw [Act.final_bind hdrain, Act.final_of_ok hdrain, complete_store]
      exact Packing.pack_store p

/-- What belongs to a run that has made its output directory: what lies below it,
and the archive beside it. -/
def Owns (output l : Location) : Prop := Store.Below output l ∨ l = output.archive

theorem not_owns_self (output : Location) : ¬ Owns output output := by
  rintro (hbelow | harchive)
  · exact Store.not_below_self output hbelow
  · exact output.archive_ne harchive.symm

/-- From any of its rows on a run changes what belongs to it, and removes what it
may remove.  Until then its output directory is in place. -/
theorem run_within (line : Option Int) {name : String} (before : List Directive)
    {after : List Directive} (hplain : output.Plain)
    (hlater : ∀ directive ∈ before ++ after, directive.IsLater)
    (hopen : opening settings given name env s = .ok (Location.path output) t)
    (hs : t.store.Tree) (hdir : t.store.get? output = some .directory)
    (hbefore : rows settings (Location.path output) before env t = .ok () u) :
    u.store.Tree ∧ u.store.get? output = some .directory ∧ Store.Within (Owns output)
      (Removable settings given env s (⟨line, .archiveName name⟩ :: (before ++ after)) output)
      u.store ((run settings given
        (⟨line, .archiveName name⟩ :: (before ++ after))).final env s).store := by
  have hcleared := rows_cleared hplain.not_mem
    (fun d hd => hlater d (List.mem_append_left _ hd)) hbefore hs hdir
  have hdir' := hcleared.directory.trans hdir
  refine ⟨hcleared.tree, hdir', ?_⟩
  have hparts : before ++ after = before ++ (after ++ []) := by rw [List.append_nil]
  have hrows : Contained output (Removable settings given env s
      (⟨line, .archiveName name⟩ :: (before ++ after)) output) u
      ((rows settings (Location.path output) after).final env u) :=
    rows_contained hplain.not_mem hlater hparts rfl hopen hbefore
  have hrows := (hrows hcleared.tree hdir').widen fun l (hl : Store.Below output l) =>
    (Or.inl hl : Owns output l)
  have hfinal := run_final line (before ++ after) hopen
  rw [rows_append, Act.final_bind hbefore] at hfinal
  rcases hfinal with hsame | ⟨content, hwrite⟩
  · exact hsame ▸ hrows
  · rw [Packing.archivePath_eq hplain.not_mem_last] at hwrite
    exact hrows.trans (Store.write_within hrows.tree (Location.not_mem_archive hplain.not_mem)
      (Or.inr rfl) hwrite)

/-- A run passes the state that it starts in, the one in which it has opened, those
in which rows after it are carried out, and the one that it ends in.  They are
counted in their order. -/
inductive Passes (settings : Settings) (given : Provided) (env : Environment) (s : State)
    (directives : List Directive) : Nat → State → Prop
  | start : Passes settings given env s directives 0 s
  | between {p : Path} {done left : List Directive} {t u : State}
      (parts : directives.tail = done ++ left)
      (opens : opening settings given (Script.archiveName directives) env s = .ok p t)
      (carried : rows settings p done env t = .ok () u) :
      Passes settings given env s directives (done.length + 1) u
  | finish :
      Passes settings given env s directives (directives.length + 1)
        ((run settings given directives).final env s)

/-- Once it has opened, a run spares its output directory and all that it may not
remove. -/
theorem opened_spares (line : Option Int) {name : String} {rest done left : List Directive}
    {j : Nat} (hplain : output.Plain) (hlater : ∀ directive ∈ rest, directive.IsLater)
    (hopen : opening settings given name env s = .ok (Location.path output) t)
    (hs : t.store.Tree) (hdir : t.store.get? output = some .directory)
    (hparts : rest = done ++ left)
    (hdone : rows settings (Location.path output) done env t = .ok () u)
    (hv : Passes settings given env s (⟨line, .archiveName name⟩ :: rest) j v)
    (hj : done.length + 1 ≤ j) :
    Store.Spares output (Removable settings given env s (⟨line, .archiveName name⟩ :: rest) output)
      u.store v.store := by
  obtain ⟨htree', hdir', hwithin⟩ :=
    run_within line done hplain (hparts ▸ hlater) hopen hs hdir hdone
  rw [← hparts] at hwithin
  cases hv with
  | start => exact absurd hj (Nat.not_succ_le_zero _)
  | @between p done' left' t' _ parts opens carried =>
      cases hopen.symm.trans opens
      have hparts' : rest = done' ++ left' := parts
      obtain ⟨more, rfl⟩ : done <+: done' :=
        List.prefix_of_prefix_length_le ⟨left, hparts.symm⟩ ⟨left', hparts'.symm⟩
          (Nat.le_of_succ_le_succ hj)
      rw [rows_append, Act.bind_of_ok hdone] at carried
      have hmore : Contained output (Removable settings given env s
          (⟨line, .archiveName name⟩ :: rest) output) u
          ((rows settings (Location.path output) more).final env u) :=
        rows_contained hplain.not_mem hlater (hparts'.trans (List.append_assoc ..)) rfl hopen hdone
      rw [Act.final_of_ok carried] at hmore
      exact (hmore htree' hdir').spares (Store.not_below_self output)
  | finish => exact hwithin.spares (not_owns_self output)

/-- From any state that it passes to a later one, a run that opens spares its output
directory and all that it may not remove. -/
theorem passes_spares (line : Option Int) {name : String} {rest : List Directive} {i j : Nat}
    (hplain : output.Plain) (hlater : ∀ directive ∈ rest, directive.IsLater)
    (hopen : opening settings given name env s = .ok (Location.path output) t)
    (hgrows : Store.Grows output s.store t.store) (hdir : t.store.get? output = some .directory)
    (hij : i ≤ j) (hu : Passes settings given env s (⟨line, .archiveName name⟩ :: rest) i u)
    (hv : Passes settings given env s (⟨line, .archiveName name⟩ :: rest) j v) :
    Store.Spares output (Removable settings given env s (⟨line, .archiveName name⟩ :: rest) output)
      u.store v.store := by
  cases hu with
  | start =>
      rcases Nat.eq_zero_or_pos j with rfl | hpos
      · cases hv
        exact .refl ..
      · exact hgrows.spares.trans (opened_spares line hplain hlater hopen hgrows.tree hdir
          (List.nil_append rest).symm rfl hv hpos)
  | between parts opens carried =>
      cases hopen.symm.trans opens
      exact opened_spares line hplain hlater hopen hgrows.tree hdir parts carried hv hij
  | finish =>
      -- the end is the last state that is passed
      cases hv with
      | start => exact absurd hij (Nat.not_succ_le_zero _)
      | @between _ done left _ _ parts _ _ =>
          have hlen := congrArg List.length (show rest = done ++ left from parts)
          rw [List.length_append] at hlen
          rw [List.length_cons] at hij
          omega
      | finish => exact .refl ..

/-- A run that does not open passes no other states than the first and the last. -/
theorem Passes.of_unopened {directives : List Directive} {fault : Fault} {i : Nat}
    (hu : Passes settings given env s directives i u)
    (hopen : opening settings given (Script.archiveName directives) env s = .error fault t) :
    i = 0 ∧ u = s ∨ 0 < i ∧ u = (run settings given directives).final env s := by
  cases hu with
  | start => exact Or.inl ⟨rfl, rfl⟩
  | between _ opens _ => cases hopen.symm.trans opens
  | finish => exact Or.inr ⟨Nat.succ_pos _, rfl⟩

/-- However a run ends, all that it changes belongs to it, save for directories that
it made down to its output directory.  That directory is never removed, and what is
removed, at any time, may be removed. -/
theorem run_contained {text root : String} {directives : List Directive}
    (hparse : Script.parse text = .ok directives) (hs : s.store.Tree) (hhere : env.here.Plain)
    (hroot : settings.outputRoot = Path.ofString root)
    (hout : output = outputOf settings env directives)
    (hend : (run settings given directives).final env s = s') :
    (∀ l, s'.store.get? l ≠ s.store.get? l →
      Store.Below output l ∨
        (l <+: output ∧ s.store.get? l = none ∧ s'.store.get? l = some .directory) ∨
          l = output.archive) ∧
    (∀ p t, opening settings given (Script.archiveName directives) env s = .ok p t →
      p = Location.path output ∧ s'.store.get? output = some .directory) ∧
    ∀ i j u v, i ≤ j → Passes settings given env s directives i u →
      Passes settings given env s directives j v →
        Store.Spares output (Removable settings given env s directives output)
          u.store v.store := by
  obtain ⟨line, name, rest, rfl, hname, hlater⟩ := Script.parse_shape hparse
  have hplain : output.Plain := by
    rw [hout, outputOf, hroot]
    exact plain_child hhere hname
  have hout' : output = (settings.outputRoot.child name).location env.here := hout
  have hgrows := opening_grows given hs hhere.not_mem hout'
  cases hopen : opening settings given name env s with
  | error fault t =>
      -- only directories were made, and there are no rows to pass a state between
      have hfinal : (run settings given (⟨line, .archiveName name⟩ :: rest)).final env s = t := by
        rw [run_phases, Act.final_bind_of_error hopen]
      obtain rfl : s' = t := hend.symm.trans hfinal
      rw [Act.final_of_error hopen] at hgrows
      refine ⟨fun l hl => Or.inr (Or.inl (hgrows.made l hl)), fun p t h => ?_,
        fun i j u v hij hu hv => ?_⟩
      · cases hopen.symm.trans h
      · rcases hu.of_unopened hopen with ⟨rfl, rfl⟩ | ⟨hi, rfl⟩
        · rcases hv.of_unopened hopen with ⟨_, rfl⟩ | ⟨_, rfl⟩
          · exact .refl ..
          · exact hend ▸ hgrows.spares
        · rcases hv.of_unopened hopen with ⟨rfl, _⟩ | ⟨_, rfl⟩
          · exact absurd hij (Nat.not_le_of_lt hi)
          · exact .refl ..
  | ok p t =>
      rw [Act.final_of_ok hopen] at hgrows
      obtain ⟨rfl, hbegun⟩ := opening_ok hs hhere.not_mem hout' hopen
      have hdir := hbegun.opens.directory
      have hrun := (run_within line [] hplain hlater hopen hgrows.tree hdir rfl).2.2
      rw [List.nil_append, hend] at hrun
      refine ⟨fun l hl => ?_, fun p t' h => ?_, fun i j u v =>
        passes_spares line hplain hlater hopen hgrows hdir⟩
      · by_cases hown : Owns output l
        · exact hown.imp_right Or.inr
        · rw [hrun.outside hown] at hl ⊢
          exact Or.inr (Or.inl (hgrows.made l hl))
      · cases hopen.symm.trans h
        exact ⟨rfl, (hrun.outside (not_owns_self output)).trans hdir⟩

/-! ## Answers that are lost -/

/-- A script that saves the answers of a subject. -/
def lostText : String := "zip-name q\nsave-file u as a/responses.pdf"

def lostScript : List Directive :=
  [⟨some 1, .archiveName "q"⟩, ⟨some 2, .save (.file "u") "a/responses.pdf"⟩]

/-- The answers are there already, and a note beside the output root. -/
def olderAnswers : State :=
  { store := ⟨[(["note.txt"], .file (.plain [110])), (["output"], .directory),
      (["output", "q"], .directory), (["output", "q", "a"], .directory),
      (["output", "q", "a", "responses.pdf"], .file (.plain [115]))]⟩ }

/-- The answers are asked for again. -/
def onlyAnswers : Settings := { subject := some "a" }

/-- Every response is cut short. -/
def cutting : Environment :=
  { reply := fun _ =>
      { outcome := .ok { chunks := [[37]], broken := some (.connection "reset") } } }

/-- The answers are asked for again, and lost as the download breaks off.  The note
is kept. -/
theorem answers_contained :
    ∃ s', (run onlyAnswers {} lostScript).final cutting olderAnswers = s' ∧
      s'.store.get? ["output", "q", "a", "responses.pdf"] = none ∧
      Removable onlyAnswers {} cutting olderAnswers lostScript ["output", "q"]
        ["output", "q", "a", "responses.pdf"] ∧
      s'.store.get? ["output", "q"] = some .directory ∧
      s'.store.get? ["note.txt"] = some (.file (.plain [110])) := by
  have hparse : Script.parse lostText = .ok lostScript :=
    Script.parse_of_toOption (by decide +kernel)
  obtain ⟨hchanged, _, hpassed⟩ := run_contained hparse
    (by decide +kernel : olderAnswers.store.Tree) (by decide +kernel : cutting.here.Plain)
    (by decide +kernel : onlyAnswers.outputRoot = Path.ofString "output")
    (by decide +kernel : ["output", "q"] = outputOf onlyAnswers cutting lostScript)
    (rfl : (run onlyAnswers {} lostScript).final cutting olderAnswers = _)
  obtain ⟨hdirectory, hremoved⟩ := hpassed 0 3 _ _ (by decide) .start .finish
  have hlost : ((run onlyAnswers {} lostScript).final cutting olderAnswers).store.get?
      ["output", "q", "a", "responses.pdf"] = none := by decide +kernel
  refine ⟨_, rfl, hlost, hremoved _ (by decide +kernel) hlost, ?_, ?_⟩
  · rw [hdirectory (by decide +kernel)]
    decide +kernel
  · refine Classical.byContradiction fun hne => ?_
    rcases hchanged ["note.txt"] hne with ⟨hbelow, _⟩ | ⟨hup, _, _⟩ | harchive
    · exact absurd hbelow (by decide)
    · exact absurd hup (by decide)
    · exact absurd harchive (by decide +kernel)

end Dossier.Run
