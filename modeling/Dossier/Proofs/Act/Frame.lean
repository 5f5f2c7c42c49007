import Dossier.Proofs.Act.Keeping
import Dossier.Proofs.Store.Containment

/-!
# Acts that only save

A change of a tree only *saves* in an area if outside of the area it does no more than
make directories, and removes no directory anywhere.  So the files outside of the area
are those that were there, with the same contents (`SavesIn.file_iff`).

Fetching to a file in the area only saves there, however it ends (`fetch_savesIn`): the
directories above the file are made, the file is written, and at worst it is removed
again.
-/

namespace Dossier

/-! ## Changes that only save -/

/-- A change of a tree only saves in an area: what differs elsewhere is a directory that
was missing, and no directory is gone. -/
structure Store.SavesIn (area : Location → Prop) (s t : Store) : Prop where
  /-- It leaves a tree. -/
  tree : t.Tree
  /-- What differs outside of the area was made. -/
  made : ∀ l, t.get? l ≠ s.get? l → area l ∨ s.get? l = none ∧ t.get? l = some .directory
  /-- Directories stay. -/
  directories : ∀ l, s.get? l = some .directory → t.get? l = some .directory

namespace Store

variable {s t u : Store} {here l m : Location} {area gone : Location → Prop} {c : Content}

namespace SavesIn

theorem refl (hs : s.Tree) : SavesIn area s s := ⟨hs, fun _ h => absurd rfl h, fun _ => id⟩

theorem trans (h : SavesIn area s t) (h' : SavesIn area t u) : SavesIn area s u where
  tree := h'.tree
  made l hl := by
    by_cases ht : t.get? l = s.get? l
    · rw [← ht] at hl ⊢
      exact h'.made l hl
    · exact (h.made l ht).imp_right fun hmade => ⟨hmade.1, h'.directories l hmade.2⟩
  directories l hl := h'.directories l (h.directories l hl)

/-- Outside of the area there are the files that were there. -/
theorem file_iff (h : SavesIn area s t) (hl : ¬ area l) :
    t.get? l = some (.file c) ↔ s.get? l = some (.file c) := by
  by_cases hsame : t.get? l = s.get? l
  · rw [hsame]
  · obtain ⟨hnone, hdir⟩ := (h.made l hsame).resolve_left hl
    simp [hnone, hdir]

end SavesIn

/-- A change within an area without directories only saves there. -/
theorem Within.savesIn (h : Within area gone s t)
    (hfree : ∀ l, area l → s.get? l ≠ some .directory) : SavesIn area s t where
  tree := h.tree
  made l hl := Or.inl (h.inside l hl)
  directories l hl := (h.outside fun harea => hfree l harea hl).trans hl

theorem SavesIn.widen {area' : Location → Prop} (h : SavesIn area s t)
    (harea : ∀ l, area l → area' l) : SavesIn area' s t :=
  ⟨h.tree, fun l hl => (h.made l hl).imp_left (harea l), h.directories⟩

/-- Making directories saves nothing. -/
theorem Grows.savesIn (h : Grows l s t) : SavesIn area s t where
  tree := h.tree
  made m hm := Or.inr (h.made m hm).2
  directories m hm := (h.kept (by rw [hm]; exact nofun)).trans hm

theorem write_savesIn (hs : s.Tree) (hl : ".." ∉ l) (harea : area l)
    (h : s.write here (Location.path l) c = .ok t) : SavesIn area s t := by
  obtain ⟨_, _, _, hfree, _⟩ := write_ok hs h
  rw [location_path here hl] at hfree
  have hwithin : Within (· = l) (fun _ => False) s t := write_within hs hl rfl h
  exact (hwithin.savesIn fun m hm => hm ▸ hfree).widen fun m hm => hm ▸ harea

theorem unlink_savesIn (hs : s.Tree) (hl : ".." ∉ l) (harea : area l)
    (h : s.unlink here (Location.path l) = .ok t) : SavesIn area s t := by
  obtain ⟨_, _, _, hfile⟩ := unlink_ok hs h
  rw [location_path here hl] at hfile
  have hwithin : Within (· = l) (· = l) s t := unlink_within hs hl rfl rfl h
  refine (hwithin.savesIn fun m hm => ?_).widen fun m hm => hm ▸ harea
  rw [hm, hfile]
  exact nofun

end Store

/-! ## Acts -/

variable {env : Environment} {s s' : State} {l : Location} {area : Location → Prop}

/-- From a tree on, the store of a later state differs only by what was saved in an
area. -/
def State.SavesIn (area : Location → Prop) (s s' : State) : Prop :=
  s.store.Tree → s.store.SavesIn area s'.store

namespace State.SavesIn

theorem of_store (h : s'.store = s.store) : State.SavesIn area s s' :=
  fun hs => h.symm ▸ Store.SavesIn.refl hs

theorem chained (area : Location → Prop) : Act.Chained (State.SavesIn area) where
  refl _ := of_store rfl
  trans h h' hs := (h hs).trans (h' (h hs).tree)

end State.SavesIn

open Act (Follows)
open State (SavesIn)

section InArea

variable (hl : ".." ∉ l) (harea : area l)
include hl harea

/-- What saves to a file in an area only saves there. -/
theorem Disk.admits_savesIn (env : Environment) :
    Act.Admits env (SavesIn area) (Location.path l) where
  toQuiet := .of_store env (SavesIn.chained area) SavesIn.of_store
  parent := by
    have hl' : ".." ∉ l.dropLast := fun hm => hl (List.dropLast_subset _ hm)
    exact Follows.mapFault ((SavesIn.chained area).follows_changeUntil fun _ hs =>
      (Store.ensureDirectories_grows hs hl').savesIn) _
  write _ := (SavesIn.chained area).follows_change fun _ _ h hs =>
    Store.write_savesIn hs hl harea h

theorem Disk.unlinkIfThere_savesIn :
    Follows env (SavesIn area) (unlinkIfThere (Location.path l)) :=
  (SavesIn.chained area).follows_unlinkIfThere <|
    (SavesIn.chained area).follows_change fun _ _ h hs => Store.unlink_savesIn hs hl harea h

/-- Fetching to a file in an area only saves there. -/
theorem Run.fetch_savesIn (settings : Settings) (source : Script.Source) :
    Follows env (SavesIn area) (fetch settings source (Location.path l)) :=
  (Disk.admits_savesIn hl harea env).follows_fetch (Disk.unlinkIfThere_savesIn hl harea) settings
    source

end InArea

end Dossier
