import Dossier.Proofs.Act.Lapses
import Dossier.Proofs.Run.Turn
import Dossier.Proofs.Store.Retracing

/-!
# What verdicts say and change

Every verdict on a destination, for an output directory that is given by any path (`Reached`).  With
a subject a verdict only asks for the name of the destination.  Without one it asks what is there,
and only responses that are too small have it change anything: they go alone if they lie in the
output directory itself, and their directory goes with all that it holds if they do not
(`Cleared`).  The same destination is to be fetched then.

Their directory is removed along the path that the output directory is given by.  If a name in
that path leads into the directory, as only a path with two dots can, this is refused in the end,
and the directory stays, empty.
-/

namespace Dossier

open Script.Destination (Safe directory segments)
open Store (Avoids Below View)

namespace Verdict

variable {settings : Settings} {output : Path} {d : String} {env : Environment} {s t : State}
  {here : Location} {c : Content}

/-! ## Paths of destinations -/

/-- The responses of a subject have a last segment of their own. -/
theorem isResponses_iff (hd : Safe d) :
    isResponses d = true ↔ (segments d).getLast? = some responsesName := by
  rw [isResponses, Script.Destination.ofString_of_safe hd, beq_iff_eq, Path.name]
  have hne := Script.Destination.segments_ne_nil d
  rw [List.getLast?_eq_some_getLast hne, Option.getD_some, Option.some.injEq]

theorem child_eq (hd : Safe d) (output : Path) : output.child d = output.extend (segments d) :=
  Script.Destination.child_of_safe hd output

theorem parent_child (hd : Safe d) (output : Path) :
    (output.child d).parent = output.extend (directory d) := by
  rw [child_eq hd, Path.extend, Path.parent,
    List.dropLast_append_of_ne_nil (Script.Destination.segments_ne_nil d)]
  rfl

theorem parent_child_eq_iff (hd : Safe d) :
    (output.child d).parent = output ↔ directory d = [] := by
  rw [parent_child hd, Path.extend]
  constructor
  · intro h
    exact List.append_right_eq_self.mp (congrArg Path.parts h)
  · intro h
    rw [h, List.append_nil]

/-- Responses are what their name leads to from their directory. -/
theorem child_responses (hd : Safe d) (hr : isResponses d = true) (output : Path) :
    (output.child d).parent.child responsesName = output.child d := by
  have hsafe : Safe responsesName := by decide
  have hsegments : segments responsesName = [responsesName] := by decide
  rw [parent_child hd, child_eq hsafe, child_eq hd, hsegments, Path.extend, Path.extend,
    Path.extend, List.append_assoc, Run.segments_of_isResponses hd hr]

theorem location_parent_child (hd : Safe d) (output : Path) (here : Location) :
    (output.child d).parent.location here = output.location here ++ directory d := by
  have hdots : ".." ∉ directory d := fun hm =>
    Script.Destination.not_mem_segments hd (List.dropLast_subset _ hm)
  rw [parent_child hd, Path.location, Path.extend, List.foldl_append,
    Store.foldl_step_of_plain _ hdots]
  rfl

theorem location_child (hd : Safe d) (output : Path) (here : Location) :
    (output.child d).location here = output.location here ++ segments d := by
  rw [child_eq hd, Path.location, Path.extend, List.foldl_append,
    Store.foldl_step_of_plain _ (Script.Destination.not_mem_segments hd)]
  rfl

theorem dropLast_location_child (hd : Safe d) (output : Path) (here : Location) :
    ((output.child d).location here).dropLast = (output.child d).parent.location here := by
  rw [location_child hd, location_parent_child hd,
    List.dropLast_append_of_ne_nil (Script.Destination.segments_ne_nil d)]
  rfl

/-- No name in the path of the directory of a destination leads into that directory. -/
abbrev Direct (output : Path) (d : String) (here : Location) : Prop :=
  Avoids (Below ((output.child d).parent.location here))
    (Store.startOf here (output.child d).parent) (output.child d).parent.parts

/-- Without two dots in the path of the output directory none does. -/
theorem direct_of_plain (hd : Safe d) (hplain : ".." ∉ output.parts) (here : Location) :
    Direct output d here := by
  have hdots : ".." ∉ (output.child d).parent.parts := by
    rw [parent_child hd]
    show ".." ∉ output.parts ++ directory d
    rw [List.mem_append, not_or]
    exact ⟨hplain, fun hm => Script.Destination.not_mem_segments hd (List.dropLast_subset _ hm)⟩
  have hplace : (output.child d).parent.location here = _ :=
    Store.foldl_step_of_plain (Store.startOf here (output.child d).parent) hdots
  exact Store.avoids_of_plain hdots ⟨[], by rw [List.append_nil, hplace]⟩

/-! ## Verdicts to fetch -/

/-- Where something lies the verdict is not to fetch it as if nothing did. -/
theorem onPresent_ne_fetch {file : Path} :
    onPresent settings output d env s ≠ .ok ⟨.fetch, file⟩ t := by
  intro h
  obtain ⟨small, u, _, h⟩ := Act.bind_ok.mp h
  cases small with
  | some size =>
      obtain ⟨_, _, _, h⟩ := Act.bind_ok.mp h
      obtain ⟨_, _, _, h⟩ := Act.bind_ok.mp h
      cases (Act.pure_ok.mp h).1
  | none =>
      obtain ⟨_, _, _, h⟩ := Act.bind_ok.mp h
      cases (Act.pure_ok.mp h).1

/-- Without a subject a destination is to be fetched just if nothing is there. -/
theorem reach_fetch (hsubject : settings.subject = none) :
    reach settings output d env s = .ok ⟨.fetch, output.child d⟩ t ↔
      s.store.hasEntry env.here (output.child d) = .ok false ∧ t = s := by
  rw [reach, hsubject]
  constructor
  · intro h
    obtain ⟨there, u, hlook, h⟩ := Act.bind_ok.mp h
    obtain ⟨hask, rfl⟩ := Disk.look_ok.mp hlook
    cases there with
    | true => exact absurd h onPresent_ne_fetch
    | false => exact ⟨hask, (Act.pure_ok.mp h).2.symm⟩
  · rintro ⟨hask, rfl⟩
    exact Act.bind_ok.mpr ⟨false, t, Disk.look_ok.mpr ⟨hask, rfl⟩, rfl⟩

/-! ## What a verdict changes -/

/-- Responses were cleared from a tree: they alone if they lie in the output directory, and else
their directory with all that it holds.  The rest is as it was, and so is the output directory. -/
structure Cleared (output : Path) (d : String) (here : Location) (s t : Store) : Prop where
  /-- It is still a tree. -/
  tree : t.Tree
  /-- In the output directory they go alone. -/
  alone : directory d = [] → t.get? = View.erased s.get? ((output.child d).location here)
  /-- Elsewhere their directory goes with all that it holds. -/
  whole : directory d ≠ [] → t.get? = View.cleared s.get? ((output.child d).parent.location here)
  /-- The output directory stays. -/
  output : t.get? (output.location here) = s.get? (output.location here)

/-- The responses themselves are gone. -/
theorem Cleared.gone {s t : Store} (hd : Safe d) (h : Cleared output d here s t) :
    t.get? ((output.child d).location here) = none := by
  by_cases hdirectory : directory d = []
  · rw [h.alone hdirectory, View.erased, if_pos rfl]
  · rw [h.whole hdirectory, View.cleared, if_pos]
    rw [← dropLast_location_child hd]
    exact List.dropLast_prefix _

/-- The verdict on a destination, and what reaching it changes. -/
inductive Reached (settings : Settings) (output : Path) (d : String) (env : Environment)
    (s : State) : Prop
  /-- The responses of the subject are fetched. -/
  | ofInterest {subject : String} (filter : settings.subject = some subject)
      (own : d = responsesOf subject)
      (reached : reach settings output d env s = .ok ⟨.fetch, output.child d⟩ s)
  /-- Nothing else is of interest if there is a subject. -/
  | notOfInterest {subject : String} {t : State} (filter : settings.subject = some subject)
      (other : d ≠ responsesOf subject)
      (reached : reach settings output d env s = .ok ⟨.notOfInterest, output.child d⟩ t)
      (store : t.store = s.store)
  /-- Where nothing is, the destination is fetched. -/
  | absent (filter : settings.subject = none)
      (absent : s.store.hasEntry env.here (output.child d) = .ok false)
      (reached : reach settings output d env s = .ok ⟨.fetch, output.child d⟩ s)
  /-- A file that is not too small is kept. -/
  | present {c : Content} {t : State} (filter : settings.subject = none)
      (there : s.store.stat env.here (output.child d) =
        .ok ((output.child d).location env.here, .file c))
      (large : ¬ settings.TooSmall d (.file c))
      (reached : reach settings output d env s = .ok ⟨.alreadyPresent, output.child d⟩ t)
      (store : t.store = s.store)
  /-- Responses that are too small are cleared.  If asked for again, they are fetched. -/
  | refetched {c : Content} {t : State} (filter : settings.subject = none)
      (there : s.store.stat env.here (output.child d) =
        .ok ((output.child d).location env.here, .file c))
      (small : settings.TooSmall d (.file c))
      (direct : directory d ≠ [] → Direct output d env.here)
      (reached : reach settings output d env s = .ok ⟨.refetchTooSmall, output.child d⟩ t)
      (cleared : Cleared output d env.here s.store t.store)
      (again : ∀ v : State, v.store = t.store →
        reach settings output d env v = .ok ⟨.fetch, output.child d⟩ v)
  /-- If a name in the path of the output directory leads into the directory of responses that are
  too small, it is emptied, and then it cannot be removed. -/
  | stuck {c : Content} {t : State} (filter : settings.subject = none)
      (there : s.store.stat env.here (output.child d) =
        .ok ((output.child d).location env.here, .file c))
      (small : settings.TooSmall d (.file c)) (nested : directory d ≠ [])
      (dots : ".." ∈ output.parts) (indirect : ¬ Direct output d env.here)
      (refused : reach settings output d env s = .error
        (.storage (.remove (output.child d).parent)
          (.system (.refused .noEntry (output.child d).parent))) t)
      (emptied : t.store = s.store.eraseBelow ((output.child d).parent.location env.here))

/-! ## Reaching a verdict -/

/-- What is too small is told from what is there. -/
theorem smallSize?_of_stat (settings : Settings) (hnul : (output.child d).holdsNul = false)
    {l : Location} {e : Entry} (hstat : s.store.stat env.here (output.child d) = .ok (l, e)) :
    ∃ small, smallSize? settings output d env s = .ok small s ∧
      (settings.TooSmall d e → small = some e.size) ∧ (¬ settings.TooSmall d e → small = none) := by
  have hsize : Disk.size (output.child d) env s = .ok e.size s :=
    Disk.size_ok.mpr ⟨hnul, by rw [Store.sizeAt, hstat]; rfl, rfl⟩
  rw [smallSize?]
  cases hthreshold : settings.threshold with
  | none =>
      refine ⟨none, rfl, ?_, fun _ => rfl⟩
      rintro ⟨threshold, h, -⟩
      cases hthreshold.symm.trans h
  | some threshold =>
      by_cases hr : isResponses d = true
      · simp only [if_pos hr]
        refine ⟨_, Act.bind_ok.mpr ⟨_, s, hsize, rfl⟩, ?_, fun hlarge => if_neg fun hlt =>
          hlarge ⟨threshold, hthreshold, hr, hlt⟩⟩
        rintro ⟨threshold', h, _, hlt⟩
        cases hthreshold.symm.trans h
        exact if_pos hlt
      · simp only [if_neg hr]
        refine ⟨none, rfl, ?_, fun _ => rfl⟩
        rintro ⟨_, _, h, _⟩
        exact absurd h hr

theorem name_child_ne_dots (hd : Safe d) (output : Path) : (output.child d).name ≠ ".." := by
  have hne := Script.Destination.segments_ne_nil d
  rw [child_eq hd, Path.name, Path.extend, List.getLast?_append_of_ne_nil _ hne,
    List.getLast?_eq_some_getLast hne, Option.getD_some]
  exact fun h => Script.Destination.not_mem_segments hd (h ▸ List.getLast_mem hne)

theorem name_parent_child_ne_dots (hd : Safe d) (hnested : directory d ≠ []) (output : Path) :
    (output.child d).parent.name ≠ ".." := by
  rw [parent_child hd, Path.name, Path.extend, List.getLast?_append_of_ne_nil _ hnested,
    List.getLast?_eq_some_getLast hnested, Option.getD_some]
  exact fun h => Script.Destination.not_mem_segments hd
    (List.dropLast_subset _ (h ▸ List.getLast_mem hnested))

/-- Responses in the output directory are cleared alone. -/
theorem clear_alone (hs : s.store.Tree) (hd : Safe d) (hr : isResponses d = true)
    (hnul : (output.child d).holdsNul = false) (hdirectory : directory d = [])
    (hstat : s.store.stat env.here (output.child d) =
      .ok ((output.child d).location env.here, .file c)) :
    ∃ t, clear output (output.child d).parent env s = .ok () t ∧
      Cleared output d env.here s.store t.store := by
  have hfile := (Store.stat_ok hs hstat).2
  have hne := Store.ne_nil_of_file hfile
  have hunlink : s.store.unlink env.here (output.child d) =
      .ok (s.store.erase ((output.child d).location env.here)) := by
    rw [Store.unlink, Store.find_unfollowed hs.linkFree, Store.find_of_stat hstat]
  refine ⟨{ s with store := s.store.erase ((output.child d).location env.here) }, ?_, ?_⟩
  · rw [clear, if_pos ((parent_child_eq_iff hd).mpr hdirectory), child_responses hd hr]
    exact Disk.during_ok.mpr (Disk.change_ok.mpr ⟨hnul, _, hunlink, rfl⟩)
  · refine ⟨hs.erase hne (by simp [hfile]), fun _ => ?_, fun h => absurd hdirectory h, ?_⟩
    · funext m
      exact Store.get?_erase _ _ m hne
    · have hother : output.location env.here ≠ (output.child d).location env.here := by
        rw [location_child hd]
        exact fun h => Script.Destination.segments_ne_nil d (List.append_right_eq_self.mp h.symm)
      rw [Store.get?_erase _ _ _ hne, if_neg hother]

/-- Responses elsewhere are cleared with their directory, unless a name in its path leads into
it. -/
theorem clear_whole (hs : s.store.Tree) (hd : Safe d) (hnul : (output.child d).holdsNul = false)
    (hnested : directory d ≠ [])
    (hstat : s.store.stat env.here (output.child d) =
      .ok ((output.child d).location env.here, .file c)) :
    Direct output d env.here ∧
        (∃ t, clear output (output.child d).parent env s = .ok () t ∧
          Cleared output d env.here s.store t.store) ∨
      ¬ Direct output d env.here ∧
        ∃ t, clear output (output.child d).parent env s = .error
            (.storage (.remove (output.child d).parent)
              (.system (.refused .noEntry (output.child d).parent))) t ∧
          t.store = s.store.eraseBelow ((output.child d).parent.location env.here) := by
  have hparts : (output.child d).parts ≠ [] := by
    rw [child_eq hd]
    exact List.append_ne_nil_of_right_ne_nil _ (Script.Destination.segments_ne_nil d)
  have hfind : s.store.find env.here (output.child d).parent false =
      .ok (.taken ((output.child d).parent.location env.here) .directory) := by
    rw [Store.find_unfollowed hs.linkFree, ← dropLast_location_child hd]
    exact Store.find_parent hs hparts (name_child_ne_dots hd output) (Store.find_of_stat hstat)
  have hnul' := Path.holdsNul_parent hnul
  have hother : (output.child d).parent ≠ output :=
    fun h => hnested ((parent_child_eq_iff hd).mp h)
  rw [clear, if_neg hother]
  rcases Store.removeTree_cases hs (name_parent_child_ne_dots hd hnested output) hfind with
    ⟨hdirect, hremove⟩ | ⟨hindirect, hremove⟩
  · refine Or.inl ⟨hdirect, _,
      Disk.during_ok.mpr (Disk.removeTree_ok.mpr ⟨hnul', _, hremove, rfl⟩), ?_⟩
    have hne : (output.child d).parent.location env.here ≠ [] := by
      rw [location_parent_child hd]
      exact List.append_ne_nil_of_right_ne_nil _ hnested
    refine ⟨hs.eraseTree hne, fun h => absurd h hnested, fun _ => ?_, ?_⟩
    · funext m
      exact Store.get?_eraseTree _ _ m hne
    · have houtside : ¬ (output.child d).parent.location env.here <+: output.location env.here := by
        rw [location_parent_child hd]
        intro h
        have hlength := h.length_le
        have hpos := List.length_pos_iff.mpr hnested
        rw [List.length_append] at hlength
        omega
      rw [Store.get?_eraseTree _ _ _ hne, if_neg houtside]
  · refine Or.inr ⟨hindirect, { s with store := _ }, Act.mapFault_error.mpr
      ⟨Disk.refused .noEntry (output.child d).parent, ?_, rfl⟩, rfl⟩
    rw [Disk.removeTree, Disk.changeUntil_eq, hnul']
    simp only [hremove]
    rfl

/-- Responses that are too small are cleared, or their directory is only emptied. -/
theorem reach_tooSmall (hfilter : settings.subject = none) (hs : s.store.Tree) (hd : Safe d)
    (hshort : (output.child d).Short) (hnul : (output.child d).holdsNul = false)
    (hthere : s.store.hasEntry env.here (output.child d) = .ok true)
    (hstat : s.store.stat env.here (output.child d) =
      .ok ((output.child d).location env.here, .file c))
    (hsmall : settings.TooSmall d (.file c)) : Reached settings output d env s := by
  obtain ⟨small, hsize, hsome, _⟩ := smallSize?_of_stat settings hnul hstat
  obtain rfl := hsome hsmall
  have hr : isResponses d = true := hsmall.choose_spec.2.1
  let noted : State := { s with notes := s.notes ++
    [.refetching d (Entry.file c).size (output.child d).parent] }
  have hreach : reach settings output d env s = (do
      clear output (output.child d).parent
      return ⟨.refetchTooSmall, output.child d⟩ : Act Decision) env noted := by
    rw [reach, hfilter]
    dsimp only
    rw [Act.bind_of_ok (Disk.look_ok.mpr ⟨hthere, rfl⟩), if_pos rfl, onPresent,
      Act.bind_of_ok hsize]
    exact Act.bind_note _ _
  have hcleared : (directory d ≠ [] → Direct output d env.here) →
      (∃ t, clear output (output.child d).parent env noted = .ok () t ∧
        Cleared output d env.here s.store t.store) → Reached settings output d env s := by
    rintro hdirect ⟨t, hclear, hcleared⟩
    refine .refetched hfilter hstat hsmall hdirect (hreach.trans (Act.bind_of_ok hclear))
      hcleared ?_
    intro v hv
    refine (reach_fetch hfilter).mpr ⟨?_, rfl⟩
    rw [hv]
    exact Store.hasEntry_of_absent hcleared.tree hshort (hcleared.gone hd)
  by_cases hdirectory : directory d = []
  · exact hcleared (absurd hdirectory) (clear_alone (s := noted) hs hd hr hnul hdirectory hstat)
  · rcases clear_whole (s := noted) hs hd hnul hdirectory hstat with
      ⟨hdirect, hwhole⟩ | ⟨hindirect, t, hclear, hemptied⟩
    · exact hcleared (fun _ => hdirect) hwhole
    · have hdots : ".." ∈ output.parts := Classical.byContradiction fun hplain =>
        hindirect (direct_of_plain hd hplain env.here)
      exact .stuck hfilter hstat hsmall hdirectory hdots hindirect
        (hreach.trans (Act.bind_error.mpr (Or.inl hclear))) hemptied

/-- A verdict is reached on every destination whose path is not too long, where nothing or a file
is.  It is about the path of the destination in the output directory. -/
theorem reach_reached (settings : Settings) (hs : s.store.Tree) (hd : Safe d)
    (hshort : (output.child d).Short)
    (hfile : ∀ l e, s.store.stat env.here (output.child d) = .ok (l, e) → ∃ c, e = .file c) :
    output.child d = output.extend (segments d) ∧
      (isResponses d = true ↔ (segments d).getLast? = some responsesName) ∧
        Reached settings output d env s := by
  refine ⟨child_eq hd output, isResponses_iff hd, ?_⟩
  cases hfilter : settings.subject with
  | some subject =>
      by_cases hown : d = responsesOf subject
      · refine .ofInterest hfilter hown ?_
        rw [reach, hfilter]
        exact congrArg (fun act : Act Decision => act env s) (if_pos hown)
      · refine .notOfInterest (t := { s with notes := s.notes ++ [.notOfInterest d] }) hfilter hown
          ?_ rfl
        rw [reach, hfilter]
        exact congrArg (fun act : Act Decision => act env s) (if_neg hown)
  | none =>
      rcases Store.hasEntry_of_short hs hshort env.here with hask | ⟨hnul, hask, e, hstat⟩
      · exact .absent hfilter hask ((reach_fetch hfilter).mpr ⟨hask, rfl⟩)
      · obtain ⟨c, rfl⟩ := hfile _ _ hstat
        by_cases hsmall : settings.TooSmall d (.file c)
        · exact reach_tooSmall hfilter hs hd hshort hnul hask hstat hsmall
        · obtain ⟨small, hsize, _, hnone⟩ := smallSize?_of_stat settings hnul hstat
          obtain rfl := hnone hsmall
          refine .present (t := { s with notes := s.notes ++ [.alreadyPresent d] }) hfilter hstat
            hsmall ?_ rfl
          rw [reach, hfilter]
          dsimp only
          rw [Act.bind_of_ok (Disk.look_ok.mpr ⟨hask, rfl⟩), if_pos rfl, onPresent,
            Act.bind_of_ok hsize]
          exact Act.bind_note _ _

/-! ## Responses of one byte -/

/-- Responses of one byte with a directory beside them. -/
def stub : State where
  store := ⟨[(["d"], .directory), (["d", "e"], .directory),
    (["d", "responses.pdf"], .file (.plain [115]))]⟩

/-- Five bytes are asked for. -/
def fromFive : Settings := { threshold := some 5 }

/-- The root, by the names that lead there. -/
def rootBy (names : List String) : Path := ⟨.relative, names⟩

theorem stub_tree : stub.store.Tree := by decide +kernel

theorem stub_tooSmall : fromFive.TooSmall "d/responses.pdf" (.file (.plain [115])) :=
  ⟨5, rfl, by decide +kernel, by decide⟩

/-- From the root the responses are cleared with what is beside them. -/
theorem stub_refetched : ∃ t, reach fromFive (rootBy []) "d/responses.pdf" {} stub =
    .ok ⟨.refetchTooSmall, rootBy ["d", "responses.pdf"]⟩ t ∧
      t.store.get? ["d"] = none ∧ t.store.get? ["d", "e"] = none := by
  have hstat : stub.store.stat [] ((rootBy []).child "d/responses.pdf") =
      .ok (["d", "responses.pdf"], .file (.plain [115])) := Act.ok_of_toOption (by decide +kernel)
  have hshort : ((rootBy []).child "d/responses.pdf").Short :=
    ⟨by decide +kernel, by decide +kernel⟩
  have hfile : ∀ l e, stub.store.stat [] ((rootBy []).child "d/responses.pdf") = .ok (l, e) →
      ∃ c, e = .file c := fun l e h => by
    cases hstat.symm.trans h
    exact ⟨_, rfl⟩
  obtain ⟨hchild, _, hreached⟩ : _ ∧ _ ∧ Reached fromFive (rootBy []) "d/responses.pdf" {} stub :=
    reach_reached fromFive stub_tree (by decide +kernel) hshort hfile
  cases hreached with
  | ofInterest filter => cases filter
  | notOfInterest filter => cases filter
  | absent filter absent =>
      have hask : stub.store.hasEntry [] ((rootBy []).child "d/responses.pdf") = .ok true :=
        Act.ok_of_toOption (by decide +kernel)
      cases hask.symm.trans absent
  | present filter there large =>
      cases hstat.symm.trans there
      exact absurd stub_tooSmall large
  | refetched filter there small direct reached cleared =>
      have hplace : ((rootBy []).child "d/responses.pdf").parent.location [] = ["d"] := by
        decide +kernel
      have hview := cleared.whole (by decide +kernel)
      rw [hplace] at hview
      rw [hchild] at reached
      refine ⟨_, reached, ?_, ?_⟩
      · rw [hview, View.cleared, if_pos (by decide)]
      · rw [hview, View.cleared, if_pos (by decide)]
  | stuck filter there small nested dots => cases dots

/-- By way of a directory beside them, the responses are not fetched again. -/
theorem not_all_refetched :
    ¬ ∀ (settings : Settings) (output : Path) (d : String) (env : Environment) (s : State)
      (c : Content), s.store.Tree → Safe d → (output.child d).Short →
      s.store.stat env.here (output.child d) =
        .ok ((output.child d).location env.here, .file c) →
      settings.subject = none → settings.TooSmall d (.file c) →
        ∃ t, reach settings output d env s = .ok ⟨.refetchTooSmall, output.child d⟩ t := by
  intro hall
  have hstat : stub.store.stat [] ((rootBy ["d", "e", "..", ".."]).child "d/responses.pdf") =
      .ok (["d", "responses.pdf"], .file (.plain [115])) := Act.ok_of_toOption (by decide +kernel)
  obtain ⟨t, hreached⟩ := hall fromFive (rootBy ["d", "e", "..", ".."]) "d/responses.pdf" {} stub
    (.plain [115]) stub_tree (by decide +kernel) ⟨by decide +kernel, by decide +kernel⟩ hstat rfl
    stub_tooSmall
  obtain ⟨fault, t', hfails, _⟩ := Act.exists_of_breaksIn (by decide +kernel :
    (reach fromFive (rootBy ["d", "e", "..", ".."]) "d/responses.pdf").BreaksIn {} stub
      (fun _ _ => true) = true)
  cases hfails.symm.trans hreached

end Verdict

end Dossier
