import Dossier.Proofs.Store.Containment
import Dossier.Proofs.Store.Paving
import Dossier.Proofs.Store.Progress

/-!
# Trees that are removed along a path

A tree is removed by a path that leads to it, and when all that it held is gone the path is
followed once more.  It may have come through what is gone, and back by two dots.  If no name in
it leads there (`Avoids`), the directory goes too; if one does, the directory stays, empty
(`removeTree_cases`).
-/

namespace Dossier.Store

variable {s : Store} {follow : Bool} {here l m : Location} {names : List String} {e : Entry}
  {p : Path}

/-! ## Names that stay out of an area -/

/-- No name leads into an area.  Two dots lead there only from there. -/
def Avoids (area : Location → Prop) : Location → List String → Prop
  | _, [] => True
  | here, name :: rest =>
    (name ≠ ".." → ¬ area (here ++ [name])) ∧ Avoids area (step here name) rest

instance decidableAvoids (area : Location → Prop) [DecidablePred area] :
    ∀ (here : Location) (names : List String), Decidable (Avoids area here names)
  | _, [] => .isTrue trivial
  | here, name :: rest =>
    have := decidableAvoids area (step here name) rest
    inferInstanceAs (Decidable ((name ≠ ".." → ¬ area (here ++ [name])) ∧ _))

instance (base l : Location) : Decidable (Below base l) :=
  inferInstanceAs (Decidable (base <+: l ∧ l ≠ base))

/-- Two dots lead up and no further. -/
theorem avoids_dots {area : Location → Prop} :
    Avoids area here (".." :: names) ↔ Avoids area here.dropLast names := by
  rw [Avoids, step, if_pos rfl]
  exact and_iff_right fun h => absurd rfl h

theorem avoids_cons {area : Location → Prop} {name : String} (h : name ≠ "..") :
    Avoids area here (name :: names) ↔
      ¬ area (here ++ [name]) ∧ Avoids area (here ++ [name]) names := by
  rw [Avoids, step, if_neg h]
  exact and_congr_left' (forall_prop_of_true h)

/-- Without two dots a path does not come through what lies below where it leads. -/
theorem avoids_of_plain : ∀ {names : List String} {here : Location}, ".." ∉ names →
    here ++ names <+: l → Avoids (Below l) here names
  | [], _, _, _ => trivial
  | name :: rest, here, hdots, hl => by
      rw [List.mem_cons, not_or] at hdots
      have hl' : here ++ [name] ++ rest <+: l := by simpa using hl
      refine (avoids_cons (Ne.symm hdots.1)).mpr ⟨fun hbelow => ?_, avoids_of_plain hdots.2 hl'⟩
      have hsame := ((List.prefix_append _ rest).trans hl').eq_of_length_le hbelow.1.length_le
      exact hbelow.2 hsame

/-! ## Strides in an emptied directory -/

theorem eraseBelow_of_below (h : Below l m) : (s.eraseBelow l).get? m = none :=
  (get?_eraseBelow s l m).trans (if_pos h)

theorem eraseBelow_of_not_below (h : ¬ Below l m) : (s.eraseBelow l).get? m = s.get? m :=
  (get?_eraseBelow s l m).trans (if_neg h)

/-- A stride to a directory arrives there again once it is empty if no name leads into it, and
leads nowhere if one does. -/
theorem stride_eraseBelow (hs : s.Tree) : ∀ {names : List String} {here : Location},
    ¬ Below l here → s.stride follow here names = .arrived (.taken l .directory) →
      Avoids (Below l) here names ∧
          (s.eraseBelow l).stride follow here names = .arrived (.taken l .directory) ∨
        ¬ Avoids (Below l) here names ∧
          (s.eraseBelow l).stride follow here names = .refused .noEntry
  | [], here, hbelow, h => by
      rw [stride_nil] at h
      exact Or.inl ⟨trivial, by rw [stride_nil, eraseBelow_of_not_below hbelow, h]⟩
  | name :: rest, here, hbelow, h => by
      by_cases hdir : s.get? here = some .directory
      · have hdir' : (s.eraseBelow l).get? here = some .directory :=
          (eraseBelow_of_not_below hbelow).trans hdir
        by_cases hdots : name = ".."
        · subst hdots
          rw [stride] at h ⊢
          simp only [hdir, hdir', if_true] at h ⊢
          rw [avoids_dots]
          exact stride_eraseBelow hs
            (fun hup => hbelow (hup.of_prefix (List.dropLast_prefix here))) h
        · by_cases hshort : name.utf8ByteSize ≤ maxName
          · rw [stride_cons_of_short follow rest hs.linkFree hdir hdots hshort] at h
            rw [stride_cons_of_short follow rest (hs.eraseBelow l).linkFree hdir' hdots hshort,
              avoids_cons hdots]
            by_cases hthere : s.get? (here ++ [name]) = none
            · rw [if_pos hthere] at h
              split at h <;> cases h
            · rw [if_neg hthere] at h
              by_cases hname : Below l (here ++ [name])
              · -- what the name leads to is gone, and it is not the end of the way
                have hrest : rest ≠ [] := by
                  rintro rfl
                  have hend := stride_arrived hs h
                  exact hname.2 hend.1.symm
                rw [if_pos (eraseBelow_of_below hname), if_neg hrest]
                exact Or.inr ⟨fun havoids => havoids.1 hname, rfl⟩
              · rw [eraseBelow_of_not_below hname, if_neg hthere, and_iff_right hname]
                exact stride_eraseBelow hs hname h
          · rw [stride_cons_of_long hdir hdots (Nat.not_le.mp hshort)] at h
            cases h
      · obtain ⟨_, he, _⟩ := stride_cons_of_not_directory follow name rest hdir
        cases he.symm.trans h

/-- This holds from what is gone as well, since two dots lead up from there. -/
theorem stride_climb_eraseBelow (hs : s.Tree) : ∀ {names : List String} {here : Location},
    s.stride follow here names = .arrived (.taken l .directory) →
      Avoids (Below l) here names ∧ (s.eraseBelow l).stride follow
          ((s.eraseBelow l).climb here names).1 ((s.eraseBelow l).climb here names).2 =
            .arrived (.taken l .directory) ∨
        ¬ Avoids (Below l) here names ∧ (s.eraseBelow l).stride follow
          ((s.eraseBelow l).climb here names).1 ((s.eraseBelow l).climb here names).2 =
            .refused .noEntry := by
  intro names
  induction names with
  | nil =>
      intro here h
      have hend : l = here := (stride_arrived hs h).1
      exact stride_eraseBelow hs (hend ▸ not_below_self l) h
  | cons name rest ih =>
      intro here h
      by_cases hbelow : Below l here
      · have hgone : (s.eraseBelow l).get? here = none := eraseBelow_of_below hbelow
        by_cases hdots : name = ".."
        · subst hdots
          by_cases hdir : s.get? here = some .directory
          · rw [stride] at h
            simp only [hdir, if_true] at h
            rw [climb, if_pos ⟨hgone, rfl⟩, avoids_dots]
            exact ih h
          · obtain ⟨_, he, _⟩ := stride_cons_of_not_directory follow ".." rest hdir
            cases he.symm.trans h
        · rw [climb, if_neg fun hclimb => hdots hclimb.2, avoids_cons hdots]
          refine Or.inr ⟨fun havoids => havoids.1 (hbelow.of_prefix (List.prefix_append _ _)), ?_⟩
          rw [stride, hgone]
      · have hclimb : (s.eraseBelow l).climb here (name :: rest) = (here, name :: rest) := by
          rw [climb, if_neg]
          rintro ⟨hgone, -⟩
          rw [eraseBelow_of_not_below hbelow] at hgone
          rw [stride, hgone] at h
          cases h
        rw [hclimb]
        exact stride_eraseBelow hs hbelow h

/-- A directory is removed with all that it holds if no name in its path leads into it.  If one
does, the directory stays, and all that it held is gone. -/
theorem removeTree_cases (hs : s.Tree) (hname : p.name ≠ "..")
    (hfind : s.find here p false = .ok (.taken l .directory)) :
    Avoids (Below l) (startOf here p) p.parts ∧ s.removeTree here p = (s.eraseTree l, none) ∨
      ¬ Avoids (Below l) (startOf here p) p.parts ∧
        s.removeTree here p = (s.eraseBelow l, some (.refused .noEntry)) := by
  obtain ⟨hshort, hstride⟩ := find_ok_stride hs.linkFree hfind
  rw [removeTree, hfind]
  simp only [retrace, if_neg hshort]
  rcases stride_climb_eraseBelow hs hstride with ⟨havoids, hagain⟩ | ⟨hnot, hagain⟩
  · rw [walk_of_arrived hagain]
    exact Or.inl ⟨havoids, if_neg hname⟩
  · rw [walk_of_refused hagain]
    exact Or.inr ⟨hnot, rfl⟩

end Dossier.Store
