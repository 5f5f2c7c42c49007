import Dossier.Proofs.Store.Ends

/-!
# The way to a path

Making directories along a path of a tree makes those that are missing on its way and changes
nothing else (`ensureDirectories_paves`), also if the path has two dots in it.  A path whose
parent leads to a directory can be followed to its end (`find_of_parent`), so a file can be
written there and removed again.
-/

namespace Dossier

/-- A location that a path comes through or leads to. -/
def Path.Passes (p : Path) (here m : Location) : Prop :=
  ∃ names, names ≠ [] ∧ names <+: p.parts ∧ m = names.foldl Store.step (Store.startOf here p)

namespace Store

variable {s t u : Store} {follow : Bool} {here : Location} {e : Entry} {p : Path} {spot : Spot}

/-- All that was changed of a tree is that missing directories were made on the way of a path. -/
structure Paves (here : Location) (p : Path) (s t : Store) : Prop where
  /-- It is still a tree. -/
  tree : t.Tree
  /-- All that differs was made on the way. -/
  made : ∀ m, t.get? m ≠ s.get? m → p.Passes here m ∧ s.get? m = none ∧ t.get? m = some .directory

namespace Paves

theorem refl (hs : s.Tree) : Paves here p s s := ⟨hs, fun _ h => absurd rfl h⟩

/-- What was there is as it was. -/
theorem kept (h : Paves here p s t) (hm : s.get? m = some e) : t.get? m = some e := by
  refine Classical.byContradiction fun hne => ?_
  have hnone := (h.made m (by rwa [hm])).2.1
  cases hm.symm.trans hnone

/-- The way of the directory of a path is on its own way. -/
theorem trans (h : Paves here p.parent s t) (h' : Paves here p t u) : Paves here p s u where
  tree := h'.tree
  made m hm := by
    by_cases ht : t.get? m = s.get? m
    · rw [← ht] at hm ⊢
      exact h'.made m hm
    · obtain ⟨⟨names, hne, hfirst, hpasses⟩, hnone, hdir⟩ := h.made m ht
      exact ⟨⟨names, hne, hfirst.trans (List.dropLast_prefix _), hpasses⟩, hnone, h'.kept hdir⟩

end Paves

/-- A path can only be followed from something. -/
theorem start_of_find (hs : s.LinkFree) (hfind : s.find here p follow = .ok spot) :
    ∃ e, s.get? (startOf here p) = some e := by
  have hstride := (find_ok_stride hs hfind).2
  cases hh : s.get? (startOf here p) with
  | some e => exact ⟨e, rfl⟩
  | none =>
      cases hparts : p.parts with
      | nil =>
          rw [hparts, stride_nil, hh] at hstride
          cases hstride
      | cons name rest =>
          rw [hparts, stride, hh] at hstride
          cases hstride

theorem ensureDirectory_paves (hs : s.Tree) (here : Location) (p : Path) :
    Paves here p s (s.ensureDirectory here p).1 := by
  rw [ensureDirectory, makeDirectory]
  cases hfind : s.find here p false with
  | error err => cases err <;> exact .refl hs
  | ok spot =>
      cases spot with
      | taken m e => exact .refl hs
      | free m =>
          obtain ⟨rfl, hnone, hl, hup⟩ := find_ok hs hfind
          obtain ⟨e, hstart⟩ := start_of_find hs.linkFree hfind
          have hdots : ".." ∉ p.location here := foldl_step_plain (hs.plain _ _ hstart)
          refine ⟨hs.put hl hdots hup (by simp [hnone]) (by simp), fun m hm => ?_⟩
          rw [get?_put s _ m _ hl] at hm ⊢
          split at hm
          · rename_i hml
            rw [if_pos hml, hml]
            exact ⟨⟨p.parts, parts_ne_nil_of_free hfind, List.prefix_refl _, rfl⟩, hnone, rfl⟩
          · exact absurd rfl hm

theorem ensureUpTo_paves (here : Location) : ∀ (depth : Nat) {s : Store} {p : Path}, s.Tree →
    Paves here p s (s.ensureUpTo here depth p).1
  | 0, _, p, hs => ensureDirectory_paves hs here p
  | depth + 1, s, p, hs => by
      rw [ensureUpTo]
      split
      · have hup := ensureUpTo_paves here depth (p := p.parent) hs
        split
        · rename_i made hmade
          rw [hmade] at hup
          exact hup.trans (ensureDirectory_paves hup.tree here p)
        · exact hup.trans (.refl hup.tree)
      · exact ensureDirectory_paves hs here p

/-- Making directories paves the way of their path, and if it is not refused the path leads to a
directory then. -/
theorem ensureDirectories_paves (hs : s.Tree) (here : Location) (p : Path) :
    Paves here p s (s.ensureDirectories here p).1 ∧
      ((s.ensureDirectories here p).2 = none →
        (s.ensureDirectories here p).1.find here p true =
          .ok (.taken (p.location here) .directory)) := by
  have hpaves : Paves here p s (s.ensureDirectories here p).1 := ensureUpTo_paves here _ hs
  refine ⟨hpaves, fun hnone => ?_⟩
  obtain ⟨l, hfind⟩ := ensureDirectories_leads hnone
  rw [hfind, (find_ok hpaves.tree hfind).1]

/-- A path whose parent leads to a directory leads to something or to a free place, if it is
short. -/
theorem find_of_parent (hs : s.Tree) {l : Location}
    (hparent : s.find here p.parent true = .ok (.taken l .directory)) (hshort : p.Short)
    (follow : Bool) : ∃ spot, s.find here p follow = .ok spot := by
  cases ends_of_parent hs.wellFormed hparent with
  | spot found plain => exact ⟨_, found follow⟩
  | link named found => exact absurd (find_shows found).2 (hs.linkFree _ _)
  | long refused long => exact absurd hshort long

/-- What a path leads to lies in the directory that the path without its name leads to. -/
theorem find_parent (hs : s.Tree) {l : Location} (hparts : p.parts ≠ []) (hname : p.name ≠ "..")
    (hfind : s.find here p follow = .ok (.taken l e)) :
    s.find here p.parent follow = .ok (.taken l.dropLast .directory) := by
  obtain ⟨hlong, hstride⟩ := find_ok_stride hs.linkFree hfind
  have hsplit : p.parts = p.parent.parts ++ [p.name] := by
    rw [Path.name, List.getLast?_eq_some_getLast hparts, Option.getD_some]
    exact (List.dropLast_concat_getLast hparts).symm
  rw [hsplit, stride_append s follow (List.cons_ne_nil _ _)] at hstride
  rw [find, if_neg (Nat.not_le.mpr (Path.text_parent_short (Nat.not_le.mp hlong)))]
  refine walk_of_arrived ((stride_unfollowed hs.linkFree _ _).trans ?_)
  show s.stride true (startOf here p) p.parent.parts = _
  cases hup : s.stride true (startOf here p) p.parent.parts with
  | refused err =>
      rw [hup] at hstride
      cases hstride
  | detour => exact absurd hup (stride_ne_detour hs.linkFree)
  | arrived spot =>
      rw [hup] at hstride
      cases spot with
      | free m => cases hstride
      | taken m f =>
          cases f with
          | file c => cases hstride
          | link target => cases hstride
          | directory =>
              have hl := (stride_arrived hs hstride).1
              rw [List.foldl_cons, step, if_neg hname, List.foldl_nil] at hl
              rw [hl, List.dropLast_concat]

/-! ## Where nothing is -/

/-- A stride along short names that is refused says that nothing is there. -/
theorem stride_absent (hs : s.LinkFree) {err : Errno} : ∀ {names : List String} {here : Location},
    (∀ name ∈ names, name.utf8ByteSize ≤ maxName) → s.stride follow here names = .refused err →
      isAbsence err = true
  | [], here, _, h => by
      rw [stride_nil] at h
      split at h <;> cases h
      rfl
  | name :: rest, here, hshort, h => by
      obtain ⟨hname, hrest⟩ := List.forall_mem_cons.mp hshort
      by_cases hh : s.get? here = some .directory
      · by_cases hdots : name = ".."
        · rw [stride] at h
          simp only [hh, if_pos hdots] at h
          exact stride_absent hs hrest h
        · rw [stride_cons_of_short follow rest hs hh hdots hname] at h
          split at h
          · split at h <;> cases h
            rfl
          · exact stride_absent hs hrest h
      · obtain ⟨_, he, rfl | rfl⟩ := stride_cons_of_not_directory follow name rest hh
        all_goals
          cases he.symm.trans h
          rfl

/-- A short path that leads nowhere is refused since nothing is there. -/
theorem absence_of_short (hs : s.LinkFree) (hshort : p.Short) {err : Errno}
    (hfind : s.find here p follow = .error err) : isAbsence err = true := by
  rw [find, if_neg (Nat.not_le.mpr hshort.1)] at hfind
  cases hstride : s.stride follow (startOf here p) p.parts with
  | arrived spot =>
      rw [walk_of_arrived hstride] at hfind
      cases hfind
  | detour => exact absurd hstride (stride_ne_detour hs)
  | refused e =>
      rw [walk_of_refused hstride] at hfind
      cases hfind
      exact stride_absent hs hshort.2 hstride

/-- A short path can be asked for: nothing is there, or what it leads to. -/
theorem hasEntry_of_short (hs : s.Tree) (hshort : p.Short) (here : Location) :
    s.hasEntry here p = .ok false ∨
      p.holdsNul = false ∧ s.hasEntry here p = .ok true ∧
        ∃ e, s.stat here p = .ok (p.location here, e) := by
  rw [hasEntry, ask]
  by_cases hnul : p.holdsNul = true
  · exact Or.inl (if_pos hnul)
  · rw [if_neg hnul, stat]
    cases hfind : s.find here p true with
    | error err =>
        dsimp only
        rw [if_pos (absence_of_short hs.linkFree hshort hfind)]
        exact Or.inl rfl
    | ok spot =>
        cases spot with
        | free m => exact Or.inl rfl
        | taken m e =>
            obtain ⟨rfl, _⟩ := find_ok hs hfind
            exact Or.inr ⟨by simpa using hnul, rfl, e, rfl⟩

/-- Nothing is found where nothing lies, if the path is short. -/
theorem hasEntry_of_absent (hs : s.Tree) (hshort : p.Short) (h : s.get? (p.location here) = none) :
    s.hasEntry here p = .ok false := by
  refine (hasEntry_of_short hs hshort here).resolve_right ?_
  rintro ⟨_, _, e, hstat⟩
  cases h.symm.trans (stat_ok hs hstat).2

/-! ## A file that is written and removed again -/

/-- A path without two dots does not come through where it leads on the way to its directory. -/
theorem Paves.untouched (h : Paves here p.parent s t) (hp : ".." ∉ p.parts) :
    t.get? (p.location here) = s.get? (p.location here) := by
  refine Classical.byContradiction fun hne => ?_
  obtain ⟨⟨names, hnames, hfirst, hpasses⟩, _⟩ := h.made _ hne
  have hparent : names <+: p.parts := hfirst.trans (List.dropLast_prefix _)
  rw [Path.location, foldl_step_of_plain _ hp,
    foldl_step_of_plain _ fun hm => hp (hparent.subset hm)] at hpasses
  have hwhole : p.parts = names := List.append_cancel_left hpasses
  have hlength := hfirst.length_le
  have hpos := List.length_pos_iff.mpr hnames
  rw [show p.parent.parts = p.parts.dropLast from rfl, List.length_dropLast, hwhole] at hlength
  omega

/-- Where no directory is, a file can be written along a path whose parent leads to a directory. -/
theorem placeToWrite_of_parent (hs : s.Tree) {l : Location}
    (hparent : s.find here p.parent true = .ok (.taken l .directory)) (hshort : p.Short)
    (hdir : s.get? (p.location here) ≠ some .directory) :
    s.placeToWrite here p = .ok (p.location here) := by
  obtain ⟨spot, hfind⟩ := find_of_parent hs hparent hshort true
  have hshows := find_ok hs hfind
  rw [placeToWrite, hfind]
  cases spot with
  | free m => rw [hshows.1]
  | taken m e =>
      obtain ⟨rfl, hget⟩ := hshows
      cases e with
      | directory => exact absurd hget hdir
      | file old => rfl
      | link target => rfl

/-- It can be removed again, and nothing is there then. -/
theorem write_unlink (hs : s.Tree)
    (hparent : s.find here p.parent true = .ok (.taken (p.parent.location here) .directory))
    (hshort : p.Short) (hdir : s.get? (p.location here) ≠ some .directory) (c : Content) :
    ∃ written left, s.write here p c = .ok written ∧ written.unlink here p = .ok left ∧
      left.Tree ∧ left.get? = View.erased s.get? (p.location here) := by
  have hwrite := write_of_place (placeToWrite_of_parent hs hparent hshort hdir) c
  obtain ⟨_, hne, _⟩ := write_ok hs hwrite
  obtain ⟨spot, hfind⟩ := find_of_parent hs hparent hshort false
  have hspot : spot.location = p.location here := by
    have hshows := find_ok hs hfind
    cases spot <;> exact hshows.1
  have hput := find_put (c := c) hne hdir (hs.linkFree _) hfind hspot
  obtain ⟨_, hstart⟩ := start_of_find hs.linkFree hfind
  have htree := hs.write (foldl_step_plain (hs.plain _ _ hstart)) hwrite
  have hfile : (s.put (p.location here) (.file c)).get? (p.location here) = some (.file c) := by
    rw [get?_put s _ _ _ hne, if_pos rfl]
  refine ⟨_, (s.put (p.location here) (.file c)).erase (p.location here), hwrite, ?_,
    htree.erase hne (by simp [hfile]), ?_⟩
  · rw [unlink, hput]
  · funext m
    rw [get?_erase _ _ m hne, View.erased]
    by_cases hm : m = p.location here
    · rw [if_pos hm, if_pos hm]
    · rw [if_neg hm, if_neg hm, get?_put s _ m _ hne, if_neg hm]

end Store

end Dossier
