import Dossier.Proofs.Store.Calls

/-!
# Changes that stay within an area

A change of a tree is *within* an area if all that differs after it lies there,
and it *takes* only what a predicate allows if nothing else is gone after it.
Such changes can be put one after the other (`Within.trans`).  The area is most
often what lies strictly *below* a directory, and then the directory itself
stays in place (`Within.directory`).  A change *spares* a location if it leaves
it as it was where there was something.

What calls do to a tree is within an area if their path leads there, whether
they are refused or not.  Making directories only *grows* a tree: each one that
was made was missing, and lies on the way (`ensureDirectories_grows`).
-/

namespace Dossier.Store

variable {s t u : Store} {here base l m : Location} {area gone : Location → Prop}

/-- A location lies strictly below a directory. -/
def Below (base l : Location) : Prop := base <+: l ∧ l ≠ base

theorem not_below_self (base : Location) : ¬ Below base base := fun h => h.2 rfl

theorem below_append {rest : Location} (h : rest ≠ []) : Below base (base ++ rest) :=
  ⟨List.prefix_append _ _, fun he => h (List.append_right_eq_self.mp he)⟩

theorem Below.ne_nil (h : Below base l) : l ≠ [] := by
  rintro rfl
  exact h.2 (List.prefix_nil.mp h.1).symm

/-- What lies at or below a location below a directory lies below the directory. -/
theorem Below.of_prefix (h : Below base l) (hp : l <+: m) : Below base m :=
  ⟨h.1.trans hp, fun he => h.2 ((he ▸ hp).eq_of_length_le h.1.length_le)⟩

/-! ## Changes within an area -/

/-- What is gone after two changes is gone after one of them. -/
theorem taken_trans (h : ∀ l, s.get? l ≠ none → t.get? l = none → gone l)
    (h' : ∀ l, t.get? l ≠ none → u.get? l = none → gone l) :
    ∀ l, s.get? l ≠ none → u.get? l = none → gone l := by
  intro l hl hu
  by_cases ht : t.get? l = none
  · exact h l hl ht
  · exact h' l ht hu

/-- A change of a tree stays within an area and takes nothing but what may be
gone. -/
structure Within (area gone : Location → Prop) (s t : Store) : Prop where
  /-- It leaves a tree. -/
  tree : t.Tree
  /-- All that differs lies in the area. -/
  inside : ∀ l, t.get? l ≠ s.get? l → area l
  /-- What is gone may be gone. -/
  taken : ∀ l, s.get? l ≠ none → t.get? l = none → gone l

namespace Within

theorem refl (hs : s.Tree) : Within area gone s s :=
  ⟨hs, fun _ h => absurd rfl h, fun _ h h' => absurd h' h⟩

theorem trans (h : Within area gone s t) (h' : Within area gone t u) :
    Within area gone s u where
  tree := h'.tree
  inside l hl := by
    by_cases ht : t.get? l = s.get? l
    · exact h'.inside l (ht ▸ hl)
    · exact h.inside l ht
  taken := taken_trans h.taken h'.taken

theorem mono {gone' : Location → Prop} (h : Within area gone s t)
    (hgone : ∀ l, gone l → gone' l) : Within area gone' s t :=
  ⟨h.tree, h.inside, fun l hl hl' => hgone l (h.taken l hl hl')⟩

theorem widen {area' : Location → Prop} (h : Within area gone s t)
    (harea : ∀ l, area l → area' l) : Within area' gone s t :=
  ⟨h.tree, fun l hl => harea l (h.inside l hl), h.taken⟩

/-- What does not lie in the area is as it was. -/
theorem outside (h : Within area gone s t) (hl : ¬ area l) : t.get? l = s.get? l :=
  Classical.byContradiction fun hne => hl (h.inside l hne)

/-- A directory is as it was if all that differs lies below it. -/
theorem directory (h : Within (Below base) gone s t) : t.get? base = s.get? base :=
  h.outside (not_below_self base)

end Within

/-- A change spares what is there, but for what may be gone, and a base altogether. -/
structure Spares (base : Location) (gone : Location → Prop) (s t : Store) : Prop where
  /-- The base is as it was if it was there. -/
  base : s.get? base ≠ none → t.get? base = s.get? base
  /-- What is gone may be gone. -/
  taken : ∀ l, s.get? l ≠ none → t.get? l = none → gone l

namespace Spares

theorem refl (base : Location) (gone : Location → Prop) (s : Store) : Spares base gone s s :=
  ⟨fun _ => rfl, fun _ h h' => absurd h' h⟩

theorem trans (h : Spares base gone s t) (h' : Spares base gone t u) : Spares base gone s u where
  base hbase := by
    have ht := h.base hbase
    exact (h'.base (ht ▸ hbase)).trans ht
  taken := taken_trans h.taken h'.taken

end Spares

/-- A change within an area spares what lies elsewhere. -/
theorem Within.spares (h : Within area gone s t) (hbase : ¬ area base) : Spares base gone s t :=
  ⟨fun _ => h.outside hbase, h.taken⟩

/-! ## Making directories -/

/-- A tree has grown towards a location: all that differs is a directory that was
missing on the way. -/
structure Grows (l : Location) (s t : Store) : Prop where
  /-- It is still a tree. -/
  tree : t.Tree
  /-- All that differs was made. -/
  made : ∀ m, t.get? m ≠ s.get? m → m <+: l ∧ s.get? m = none ∧ t.get? m = some .directory

namespace Grows

theorem refl (hs : s.Tree) : Grows l s s := ⟨hs, fun _ h => absurd rfl h⟩

theorem trans {k : Location} (hk : k <+: l) (h : Grows k s t) (h' : Grows l t u) :
    Grows l s u where
  tree := h'.tree
  made m hm := by
    by_cases ht : t.get? m = s.get? m
    · rw [← ht] at hm ⊢
      exact h'.made m hm
    · obtain ⟨hp, hnone, hdir⟩ := h.made m ht
      refine ⟨hp.trans hk, hnone, Classical.byContradiction fun hu => ?_⟩
      obtain ⟨_, hfree, _⟩ := h'.made m fun he => hu (he.trans hdir)
      rw [hdir] at hfree
      cases hfree

/-- What was there is as it was. -/
theorem kept (h : Grows l s t) (hm : s.get? m ≠ none) : t.get? m = s.get? m :=
  Classical.byContradiction fun hne => hm (h.made m hne).2.1

/-- Directories that are made spare what was there. -/
theorem spares (h : Grows l s t) : Spares base gone s t :=
  ⟨h.kept, fun _ hm hnone => absurd (h.kept hm ▸ hnone) hm⟩

/-- Directories that are made below a directory are within it. -/
theorem within (h : Grows l s t) (hs : s.Tree) (hdir : s.get? base = some .directory)
    (hl : base <+: l) : Within (Below base) gone s t where
  tree := h.tree
  inside m hm := by
    obtain ⟨hp, hnone, _⟩ := h.made m hm
    have hne : m ≠ base := fun he => by rw [he, hdir] at hnone; cases hnone
    refine ⟨?_, hne⟩
    rcases List.prefix_or_prefix_of_prefix hl hp with hbelow | habove
    · exact hbelow
    · rw [hs.directory_above hdir habove hne] at hnone
      cases hnone
  taken := (h.spares : Spares base gone s t).taken

end Grows

/-- A directory that is made, if it is. -/
theorem ensureDirectory_grows (hs : s.Tree) (hl : ".." ∉ l) :
    Grows l s (s.ensureDirectory here (Location.path l)).1 := by
  rw [ensureDirectory, makeDirectory]
  cases hf : s.find here (Location.path l) false with
  | error e => cases e <;> exact .refl hs
  | ok spot =>
      cases spot with
      | taken m e => exact .refl hs
      | free m =>
          obtain ⟨_, rfl, hnone, hne, hdir⟩ := (find_ok_iff hs hl).mp hf
          refine ⟨hs.put hne hl hdir (by simp [hnone]) (by simp), fun k hk => ?_⟩
          simp only [get?_put_directory hs hne hdir hnone, View.opened] at hk ⊢
          split at hk
          · rename_i hopen
            exact ⟨hopen.1, hopen.2, if_pos hopen⟩
          · exact absurd rfl hk

theorem ensureUpTo_grows (here : Location) :
    ∀ (depth : Nat) {s : Store} {l : Location}, s.Tree → ".." ∉ l →
      Grows l s (s.ensureUpTo here depth (Location.path l)).1
  | 0, s, l, hs, hl => ensureDirectory_grows hs hl
  | depth + 1, s, l, hs, hl => by
      have hl' : ".." ∉ l.dropLast := fun hm => hl (List.dropLast_subset _ hm)
      have hup := ensureUpTo_grows here depth (l := l.dropLast) hs hl'
      rw [ensureUpTo]
      split
      · split
        · rename_i made hmade
          rw [show (Location.path l).parent = Location.path l.dropLast from rfl] at hmade
          rw [hmade] at hup
          exact hup.trans (List.dropLast_prefix l) (ensureDirectory_grows hup.tree hl)
        · exact hup.trans (List.dropLast_prefix l) (.refl hup.tree)
      · exact ensureDirectory_grows hs hl

/-- The directories down to a location that are made, as far as they are. -/
theorem ensureDirectories_grows (hs : s.Tree) (hl : ".." ∉ l) :
    Grows l s (s.ensureDirectories here (Location.path l)).1 :=
  ensureUpTo_grows here _ hs hl

/-! ## Files and trees -/

/-- Writing a file takes nothing. -/
theorem write_within (hs : s.Tree) (hl : ".." ∉ l) (harea : area l) {c : Content}
    (h : s.write here (Location.path l) c = .ok t) : Within area gone s t := by
  have hloc := location_path here hl
  have htree := hs.write (by rwa [hloc]) h
  obtain ⟨rfl, hne, -⟩ := write_ok hs h
  rw [hloc] at hne htree ⊢
  refine ⟨htree, fun m hm => ?_, fun m hm hnone => ?_⟩
  · rw [get?_put s l m _ hne] at hm
    split at hm
    · rename_i he
      exact he ▸ harea
    · exact absurd rfl hm
  · rw [get?_put s l m _ hne] at hnone
    split at hnone
    · cases hnone
    · exact absurd hnone hm

/-- Removing a file takes the file. -/
theorem unlink_within (hs : s.Tree) (hl : ".." ∉ l) (harea : area l) (hgone : gone l)
    (h : s.unlink here (Location.path l) = .ok t) : Within area gone s t := by
  obtain ⟨rfl, hne, c, hfile⟩ := unlink_ok hs h
  rw [location_path here hl] at hne hfile ⊢
  refine ⟨hs.erase hne (by simp [hfile]), fun m hm => ?_, fun m hm hnone => ?_⟩
  · rw [get?_erase s l m hne] at hm
    split at hm
    · rename_i he
      exact he ▸ harea
    · exact absurd rfl hm
  · rw [get?_erase s l m hne] at hnone
    split at hnone
    · rename_i he
      exact he ▸ hgone
    · exact absurd hnone hm

/-- Removing a tree takes what lies at its location or below, if the call is not
refused. -/
theorem removeTree_within (hs : s.Tree) (hl : ".." ∉ l) (hne : l ≠ [])
    (harea : ∀ m, l <+: m → area m) (hgone : ∀ m, l <+: m → gone m) :
    Within area gone s (s.removeTree here (Location.path l)).1 := by
  rw [removeTree]
  cases hf : s.find here (Location.path l) false with
  | error e => exact .refl hs
  | ok spot =>
      cases spot with
      | free m => exact .refl hs
      | taken m e =>
          obtain ⟨_, rfl, hget⟩ := (find_ok_iff hs hl).mp hf
          cases e with
          | link target => exact .refl hs
          | file c => exact .refl hs
          | directory =>
              simp only [retrace_eraseBelow hs hl hf, if_neg (name_path_ne_dots hl)]
              refine ⟨hs.eraseTree hne, fun k hk => ?_, fun k hk hnone => ?_⟩
              · rw [get?_eraseTree s m k hne] at hk
                split at hk
                · exact harea k ‹_›
                · exact absurd rfl hk
              · rw [get?_eraseTree s m k hne] at hnone
                split at hnone
                · exact hgone k ‹_›
                · exact absurd hnone hk

end Dossier.Store
