import Dossier.Proofs.Act.Lapses
import Dossier.Proofs.Store.Growth
import Dossier.Proofs.Verdict

/-!
# Pages that fail

A page that fails may leave its file behind.  Once the browser has printed the page and its
output is written, nothing removes it again, so it stays if the printing is said to have failed
or if the context does not close (`page_leftover`).  A verdict of a later run then takes the file
for a page that was saved.  A page that fails before that leaves directories at most.

This is unlike a download, which removes what arrived of a body that is cut short.
-/

namespace Dossier

namespace Saving

open Act (Keeps Succeeds)

variable {settings : Settings} {url : String} {file : Path} {cookies : Cookies}
  {env : Environment} {s s' t u : State} {reaction : Reaction} {data : Bytes} {left : Store}
  {fault : Fault}

/-! ## The way to an open context -/

/-- What leads to an open context makes the directories above the file, as far as that goes, and
leaves the rest of the store alone. -/
theorem final_enter_store (settings : Settings) (url : String) (file : Path) (env : Environment)
    (s : State) :
    ((enter settings url file).final env s).store = s.store ∨
      ((enter settings url file).final env s).store =
        (s.store.ensureDirectories env.here file.parent).1 := by
  have hopens := Browser.keeps_ensureOpen settings env s
  rw [enter]
  cases hopen : Browser.ensureOpen settings env s with
  | error f t =>
      rw [Act.final_of_error hopen] at hopens
      rw [Act.final_bind_of_error hopen]
      exact Or.inl (State.holdings_inj hopens).1
  | ok _ t =>
      rw [Act.final_of_ok hopen] at hopens
      have hcontext : Keeps State.holdings
          ((Browser.call .contextOpened).mapFault (Browser.asRendering (.page url))) :=
        fun env => (Browser.keeps_call .contextOpened env).mapFault _
      have hparent : (((Disk.ensureParent file) >>= fun _ =>
          (Browser.call .contextOpened).mapFault (Browser.asRendering (.page url))).final env
            t).store = ((Disk.ensureParent file).final env t).store :=
        (State.holdings_inj (Keeps.final_bind fun _ => hcontext)).1
      rw [Act.final_bind hopen, hparent, Disk.ensureParent, Disk.during, Act.final_mapFault,
        Disk.ensureDirectories, Disk.final_changeUntil, (State.holdings_inj hopens).1]
      split
      · exact Or.inl rfl
      · exact Or.inr rfl

/-- A context is open where the directories above the file were made. -/
theorem enter_store (h : enter settings url file env s = .ok () t) :
    t.store = (s.store.ensureDirectories env.here file.parent).1 := by
  obtain ⟨_, u, hopen, h⟩ := Act.bind_ok.mp h
  obtain ⟨_, v, hparent, hcontext⟩ := Act.bind_ok.mp h
  obtain ⟨_, made, hmade, rfl⟩ := Disk.ensureDirectories_ok.mp (Disk.during_ok.mp hparent)
  have hopens := State.holdings_inj ((Browser.keeps_ensureOpen settings).ok hopen)
  have hkeeps := State.holdings_inj ((Browser.keeps_call _).ok (Act.mapFault_ok.mp hcontext))
  rw [hkeeps.1, ← hopens.1, hmade]

/-! ## Output -/

/-- A page is printed to its file, which leaves a store: in a context that is open the browser
reacts with an output, and the output is written. -/
structure Printed (settings : Settings) (url : String) (file : Path) (cookies : Cookies)
    (env : Environment) (s t u : State) (reaction : Reaction) (data : Bytes) (left : Store) :
    Prop where
  /-- The context is open. -/
  enters : enter settings url file env s = .ok () t
  /-- The browser reacts. -/
  presents : present settings url file cookies env t = .ok reaction u
  /-- There is an output. -/
  output : reaction.output = some data
  /-- The file has a path that a file may have. -/
  plain : file.holdsNul = false
  /-- The output is written. -/
  write : u.store.write env.here file (.plain data) = .ok left

theorem keeps_present (settings : Settings) (url : String) (file : Path) (cookies : Cookies) :
    Keeps State.holdings (present settings url file cookies) := fun env =>
  have hR := Act.Quiet.holdings env
  .bind hR.toChained (hR.follows_giveCookies url cookies) fun _ =>
    .bind hR.toChained (hR.follows_call _) fun _ =>
      .bind hR.toChained (hR.follows_call _) fun _ => hR.follows_browse _

/-- A page ends with the store of the visit to it. -/
theorem final_page_store (henter : enter settings url file env s = .ok () t) :
    ((Saving.page settings url file cookies).final env s).store =
      ((visit settings url file cookies).final env t).store := by
  have hread : Keeps State.holdings (Disk.during (.readBack file) (Disk.size file)) := fun env =>
    ((Act.Chained.part State.holdings).follows_size file).mapFault _
  rw [page_eq, Act.final_bind henter]
  refine (State.holdings_inj ((Keeps.final_bind fun _ => hread).trans
    ((Browser.keeps_call .contextClosed).final_andAlways _))).1.trans ?_
  rw [Act.final_mapFault]

/-- An output that cannot be written, or that there is none of, leaves the store alone. -/
theorem final_keepOutput
    (h : ∀ data left, reaction.output = some data → file.holdsNul = false →
      u.store.write env.here file (.plain data) ≠ .ok left) :
    (keepOutput file reaction).final env u = u := by
  rw [keepOutput]
  cases houtput : reaction.output with
  | none => rfl
  | some data =>
      dsimp only
      rw [Act.final, Disk.write, Disk.change_eq]
      by_cases hnul : file.holdsNul = true
      · rw [if_pos hnul]
      · rw [if_neg hnul]
        cases hwrite : u.store.write env.here file (.plain data) with
        | ok left => exact absurd hwrite (h data left houtput (by simpa using hnul))
        | error e => rfl

/-- A visit without an output that is written leaves the store alone. -/
theorem final_visit_store
    (h : ∀ u reaction data left, present settings url file cookies env t = .ok reaction u →
      reaction.output = some data → file.holdsNul = false →
        u.store.write env.here file (.plain data) ≠ .ok left) :
    ((visit settings url file cookies).final env t).store = t.store := by
  have hkeeps := keeps_present settings url file cookies env t
  rw [visit_eq]
  cases hpresent : present settings url file cookies env t with
  | error f u =>
      rw [Act.final_of_error hpresent] at hkeeps
      rw [Act.final_bind_of_error hpresent]
      exact (State.holdings_inj hkeeps).1
  | ok reaction u =>
      rw [Act.final_of_ok hpresent] at hkeeps
      have hsettle : ((keepOutput file reaction >>= fun _ => Act.settle reaction).final env
          u).store = ((keepOutput file reaction).final env u).store :=
        (State.holdings_inj (Keeps.final_bind fun _ => Act.keeps_settle reaction)).1
      rw [Act.final_bind hpresent, hsettle,
        final_keepOutput fun data left => h u reaction data left hpresent]
      exact (State.holdings_inj hkeeps).1

/-- A page without an output that is written leaves directories at most. -/
theorem final_page_store_of_not_printed
    (h : ∀ t u reaction data left,
      ¬ Printed settings url file cookies env s t u reaction data left) :
    ((Saving.page settings url file cookies).final env s).store = s.store ∨
      ((Saving.page settings url file cookies).final env s).store =
        (s.store.ensureDirectories env.here file.parent).1 := by
  cases henter : enter settings url file env s with
  | error f t =>
      have hstore := final_enter_store settings url file env s
      rw [Act.final_of_error henter] at hstore
      rwa [page_eq, Act.final_bind_of_error henter]
  | ok _ t =>
      have hvisit : ((visit settings url file cookies).final env t).store = t.store :=
        final_visit_store fun u reaction data left hpresent houtput hnul hwrite =>
          h t u reaction data left ⟨henter, hpresent, houtput, hnul, hwrite⟩
      exact Or.inr ((final_page_store henter).trans (hvisit.trans (enter_store henter)))

namespace Printed

/-- Once the output is written, a visit only fails if printing is said to have failed. -/
theorem visit_eq (h : Printed settings url file cookies env s t u reaction data left) :
    visit settings url file cookies env t =
      Act.settle reaction env { u with store := left } := by
  have hkept : keepOutput file reaction env u = .ok () { u with store := left } := by
    rw [keepOutput, h.output]
    exact Disk.change_ok.mpr ⟨h.plain, left, h.write, rfl⟩
  rw [Saving.visit_eq, Act.bind_of_ok h.presents, Act.bind_of_ok hkept]

/-- The output stays, however the page ends. -/
theorem final_store (h : Printed settings url file cookies env s t u reaction data left) :
    ((Saving.page settings url file cookies).final env s).store = left := by
  rw [final_page_store h.enters, Act.final, h.visit_eq, ← Act.final]
  exact (State.holdings_inj (Act.keeps_settle reaction env _)).1

/-- The output is written where the directories above the file were made. -/
theorem write_made (h : Printed settings url file cookies env s t u reaction data left) :
    (s.store.ensureDirectories env.here file.parent).1.write env.here file (.plain data) =
      .ok left := by
  rw [← enter_store h.enters,
    ← (State.holdings_inj ((keeps_present settings url file cookies).ok h.presents)).1]
  exact h.write

/-- The output is there. -/
theorem hasEntry (hs : s.store.WellFormed) (hnone : s.store.hasEntry env.here file = .ok false)
    (h : Printed settings url file cookies env s t u reaction data left) :
    left.hasEntry env.here file = .ok true := by
  refine Store.hasEntry_of_write (Store.ensureDirectories_wellFormed hs env.here file.parent)
    h.plain (fun hparts => ?_) h.write_made
  have hdots : ".." ∉ file.parts := by simp [hparts]
  exact ((Store.ensureParent_staysFree hs hdots env.here).hasEntry hnone).1

/-- A page whose output is written only fails if printing is said to have failed or its context
does not close. -/
theorem page_succeeds (hs : s.store.WellFormed)
    (hnone : s.store.hasEntry env.here file = .ok false)
    (h : Printed settings url file cookies env s t u reaction data left)
    (hfailure : reaction.failure = none) (hjam : jam? settings url file cookies env t = none) :
    Succeeds (Saving.page settings url file cookies) env s := by
  have hvisit : visit settings url file cookies env t = .ok () { u with store := left } := by
    rw [h.visit_eq, Act.settle, hfailure]
    rfl
  rw [jam?, Act.final_of_ok hvisit] at hjam
  obtain ⟨_, v, hclose⟩ := Browser.succeeds_call.mpr hjam
  have hleft : v.store = left := (State.holdings_inj ((Browser.keeps_call _).ok hclose)).1
  have hthere : v.store.hasEntry env.here file = .ok true := by rw [hleft, h.hasEntry hs hnone]
  obtain ⟨n, w, hsize⟩ := Disk.size_of_hasEntry hthere
  refine ⟨n, w, ?_⟩
  rw [page_eq]
  exact Act.bind_ok.mpr ⟨(), t, h.enters, Act.bind_ok.mpr ⟨(), v,
    Act.andAlways_ok.mpr ⟨_, Act.mapFault_ok.mpr hvisit, hclose⟩, Disk.during_ok.mpr hsize⟩⟩

end Printed

/-! ## Pages that fail -/

/-- What is left of a page that failed where nothing was. -/
inductive Remains (settings : Settings) (url : String) (file : Path) (cookies : Cookies)
    (env : Environment) (s : State) (left : Store) : Prop
  /-- The output was written, and it is still there.  Printing was said to have failed, or the
  context did not close. -/
  | output {t u : State} {reaction : Reaction} {data : Bytes}
      (printed : Printed settings url file cookies env s t u reaction data left)
      (cause : reaction.failure ≠ none ∨ jam? settings url file cookies env t ≠ none)
      (there : left.hasEntry env.here file = .ok true)
  /-- No output was written, and no more was changed than that directories above the file were
  made.  Nothing is there, unless two dots in the path have them lead to something that was
  elsewhere; but a name that is too long can no longer be asked for once they are made. -/
  | directories
      (unprinted : ∀ t u reaction data left,
        ¬ Printed settings url file cookies env s t u reaction data left)
      (made : left = s.store ∨ left = (s.store.ensureDirectories env.here file.parent).1)
      (nothing : ".." ∉ file.parts → left.hasEntry env.here file ≠ .ok true)
      (absent : ".." ∉ file.parts → (∀ name ∈ file.parts, name.utf8ByteSize ≤ Store.maxName) →
        left.hasEntry env.here file = .ok false)

theorem page_remains (hs : s.store.WellFormed)
    (hnone : s.store.hasEntry env.here file = .ok false)
    (h : Saving.page settings url file cookies env s = .error fault s') :
    Remains settings url file cookies env s s'.store := by
  have hfinal := congrArg State.store (Act.final_of_error h)
  by_cases hprinted : ∃ t u reaction data left,
      Printed settings url file cookies env s t u reaction data left
  · obtain ⟨t, u, reaction, data, left, hprinted⟩ := hprinted
    obtain rfl : left = s'.store := hprinted.final_store.symm.trans hfinal
    refine .output hprinted ?_ (hprinted.hasEntry hs hnone)
    by_cases hfailure : reaction.failure = none
    · refine Or.inr fun hjam => ?_
      obtain ⟨_, _, hsucceeds⟩ := hprinted.page_succeeds hs hnone hfailure hjam
      cases h.symm.trans hsucceeds
    · exact Or.inl hfailure
  · have hnot : ∀ t u reaction data left,
        ¬ Printed settings url file cookies env s t u reaction data left :=
      fun t u reaction data left hp => hprinted ⟨t, u, reaction, data, left, hp⟩
    have hstore := final_page_store_of_not_printed hnot
    rw [hfinal] at hstore
    have hfree : ".." ∉ file.parts → Store.StaysFree s.store s'.store env.here file := by
      intro hdots
      rcases hstore with hsame | hmade
      · exact Or.inl (by rw [hsame])
      · rw [hmade]
        exact Store.ensureParent_staysFree hs hdots env.here
    exact .directories hnot hstore (fun hdots => ((hfree hdots).hasEntry hnone).1)
      fun hdots => ((hfree hdots).hasEntry hnone).2

/-- What a page that fails leaves where nothing was is its output, if that was written, and
directories at most if it was not.  A verdict of a later run without a subject is to fetch the
page if nothing is there, and only then; so what was written is never fetched again. -/
theorem page_leftover (hs : s.store.WellFormed)
    (hnone : s.store.hasEntry env.here file = .ok false)
    (h : Saving.page settings url file cookies env s = .error fault s') :
    Remains settings url file cookies env s s'.store ∧
      ∀ (later : Settings) (output : Path) (d : String) (env' : Environment) (v v' : State),
        later.subject = none → output.child d = file → env'.here = env.here →
        v.store = s'.store →
        (Verdict.reach later output d env' v = .ok ⟨.fetch, file⟩ v' ↔
          s'.store.hasEntry env.here file = .ok false ∧ v' = v) := by
  refine ⟨page_remains hs hnone h, ?_⟩
  rintro later output d env' v v' hsubject rfl hhere hstore
  rw [Verdict.reach_fetch hsubject, hhere, hstore]

/-! ## A context that does not close -/

/-- A directory to run in. -/
def emptyDir : State := { store := ⟨[(["w"], .directory)]⟩ }

/-- A browser that prints what it prints, if anything, and does not close a context. -/
def jammed (output : Option Bytes) : Environment where
  here := ["w"]
  react trace := match trace.getLast? with
    | some (.printed ..) => { output := output }
    | some .contextClosed => { failure := some "stuck" }
    | _ => {}

/-- A file in a directory that is not there yet. -/
def draft : Path := ⟨.relative, ["q", "p"]⟩

theorem emptyDir_clear : emptyDir.store.hasEntry ["w"] draft = .ok false :=
  Act.ok_of_toOption (by decide +kernel)

theorem emptyDir_tree : emptyDir.store.Tree := by decide +kernel

/-- A page fails in a context that does not close, and leaves its file or not. -/
theorem jammed_fails (output : Option Bytes) (there : Bool)
    (h : (Saving.page {} "u" draft {}).BreaksIn (jammed output) emptyDir
      (fun _ s' => (s'.store.hasEntry ["w"] draft).toOption == some there) = true) :
    ∃ fault s', Saving.page {} "u" draft {} (jammed output) emptyDir = .error fault s' ∧
      s'.store.hasEntry ["w"] draft = .ok there := by
  obtain ⟨fault, s', hpage, hthere⟩ := Act.exists_of_breaksIn h
  exact ⟨fault, s', hpage, Act.ok_of_toOption (eq_of_beq hthere)⟩

/-- A page that was printed in a context that does not close fails, and no later run fetches it
again.  If it was not printed, a later run does. -/
theorem jammed_leftover :
    (∃ fault s', Saving.page {} "u" draft {} (jammed (some [7])) emptyDir = .error fault s' ∧
      ∀ v v', v.store = s'.store →
        Verdict.reach {} draft.parent "p" (jammed none) v ≠ .ok ⟨.fetch, draft⟩ v') ∧
    ∃ fault s', Saving.page {} "u" draft {} (jammed none) emptyDir = .error fault s' ∧
      ∀ v, v.store = s'.store →
        Verdict.reach {} draft.parent "p" (jammed none) v = .ok ⟨.fetch, draft⟩ v := by
  have hdraft : draft.parent.child "p" = draft := by decide +kernel
  constructor
  · obtain ⟨fault, s', hpage, hthere⟩ := jammed_fails (some [7]) true (by decide +kernel)
    obtain ⟨_, hverdict⟩ := page_leftover emptyDir_tree.wellFormed emptyDir_clear hpage
    refine ⟨fault, s', hpage, fun v v' hstore hreach => ?_⟩
    have hgone := ((hverdict {} _ _ (jammed none) v v' rfl hdraft rfl hstore).mp hreach).1
    cases hthere.symm.trans hgone
  · obtain ⟨fault, s', hpage, hthere⟩ := jammed_fails none false (by decide +kernel)
    obtain ⟨_, hverdict⟩ := page_leftover emptyDir_tree.wellFormed emptyDir_clear hpage
    exact ⟨fault, s', hpage, fun v hstore =>
      (hverdict {} _ _ (jammed none) v v rfl hdraft rfl hstore).mpr ⟨hthere, rfl⟩⟩

/-- A page that fails can leave something where nothing was. -/
theorem not_all_failed_pages_vanish :
    ¬ ∀ (settings : Settings) (url : String) (file : Path) (cookies : Cookies)
      (env : Environment) (s s' : State) (fault : Fault), s.store.WellFormed →
      s.store.hasEntry env.here file = .ok false →
      Saving.page settings url file cookies env s = .error fault s' →
        s'.store.hasEntry env.here file = .ok false := by
  intro hall
  obtain ⟨fault, s', hpage, hthere⟩ := jammed_fails (some [7]) true (by decide +kernel)
  cases hthere.symm.trans (hall _ _ _ _ _ _ _ _ emptyDir_tree.wellFormed emptyDir_clear hpage)

end Saving

end Dossier
