import Dossier.Store.Calls

/-!
# Stores that are trees

A store is a *tree* if it has no links, everything in it lies in a directory,
every location occurs once and no name is two dots.  The file systems a run is
about are trees, and the changes a run makes keep them so: a file put in a
directory, a directory put where nothing lies, a file erased, a tree erased, with
the directory at its root or without it.

In a tree whatever lies above something is a directory (`Tree.directory_above`),
so that nothing lies below a file or below a free place.
-/

namespace Dossier

/-- It is a link. -/
def Entry.isLink : Entry → Bool
  | .link _ => true
  | _ => false

namespace Store

/-- A store without links, in which everything lies in a directory, every
location occurs once and no name is two dots. -/
structure Tree (s : Store) : Prop where
  /-- Everything lies in a directory. -/
  wellFormed : s.WellFormed
  /-- There are no links. -/
  linkFree : s.LinkFree
  /-- Every location occurs once. -/
  single : (s.entries.map Prod.fst).Nodup
  /-- No name is two dots. -/
  plain : ∀ l e, s.get? l = some e → ".." ∉ l

/-! ## Above and below -/

theorem dropLast_ne_self {l : Location} (h : l ≠ []) : l.dropLast ≠ l := by
  intro he
  have hlen := congrArg List.length he
  have hpos := List.length_pos_iff.mpr h
  rw [List.length_dropLast] at hlen
  omega

/-- A prefix of a location is the location or lies at or above its directory. -/
theorem prefix_dropLast {m l : Location} (h : m <+: l) (hne : m ≠ l) : m <+: l.dropLast := by
  obtain ⟨rest, rfl⟩ := h
  have hrest : rest ≠ [] := fun hr => hne (by simp [hr])
  rw [List.dropLast_append_of_ne_nil hrest]
  exact List.prefix_append m rest.dropLast

variable {s : Store} {l m : Location} {e : Entry}

/-- What lies above something is a directory. -/
theorem WellFormed.directory_above (h : s.WellFormed) (hl : s.get? l = some e) (hp : m <+: l)
    (hne : m ≠ l) : s.get? m = some .directory := by
  induction hn : l.length generalizing l e with
  | zero =>
      have hnil : l = [] := List.length_eq_zero_iff.mp hn
      subst hnil
      exact absurd (List.prefix_nil.mp hp) hne
  | succ n ih =>
      have hdir := h l e hl
      have hp' := prefix_dropLast hp hne
      by_cases he : m = l.dropLast
      · rw [he, hdir]
      · exact ih hdir hp' he (by rw [List.length_dropLast, hn]; rfl)

namespace Tree

theorem directory_of_some (h : s.Tree) (hl : s.get? l = some e) :
    s.get? l.dropLast = some .directory :=
  h.wellFormed l e hl

theorem directory_above (h : s.Tree) (hl : s.get? l = some e) (hp : m <+: l) (hne : m ≠ l) :
    s.get? m = some .directory :=
  h.wellFormed.directory_above hl hp hne

/-- Nothing lies below what is no directory. -/
theorem none_below (h : s.Tree) (hm : s.get? m ≠ some .directory) (hp : m <+: l) (hne : m ≠ l) :
    s.get? l = none := by
  cases hl : s.get? l with
  | none => rfl
  | some e => exact absurd (h.directory_above hl hp hne) hm

/-- Nothing below what is no directory lies in a directory. -/
theorem no_directory_below (h : s.Tree) (hm : s.get? m ≠ some .directory) (hp : m <+: l)
    (hne : m ≠ l) : s.get? l.dropLast ≠ some .directory := by
  intro hd
  by_cases he : m = l.dropLast
  · exact hm (he ▸ hd)
  · exact hm (h.directory_above hd (prefix_dropLast hp hne) he)

/-- Only a directory or a file lies anywhere. -/
theorem directory_or_file (h : s.Tree) (hl : s.get? l = some e) :
    e = .directory ∨ ∃ c, e = .file c := by
  cases e with
  | directory => exact Or.inl rfl
  | file c => exact Or.inr ⟨c, rfl⟩
  | link target => exact absurd hl (h.linkFree l target)

end Tree

/-! ## Locations that occur -/

theorem lookup_eq_some_of_mem {l : Location} {e : Entry} {xs : List (Location × Entry)}
    (hn : (xs.map Prod.fst).Nodup) (h : (l, e) ∈ xs) : xs.lookup l = some e := by
  induction xs with
  | nil => cases h
  | cons x rest ih =>
      rw [List.map_cons, List.nodup_cons] at hn
      cases List.mem_cons.mp h with
      | inl heq =>
          cases heq
          simp
      | inr hrest =>
          have hne : l ≠ x.1 := fun he => hn.1 (List.mem_map.mpr ⟨(l, e), hrest, he⟩)
          rw [lookup_cons_of_ne hne]
          exact ih hn.2 hrest

theorem mem_of_lookup_eq_some {l : Location} {e : Entry} {xs : List (Location × Entry)}
    (h : xs.lookup l = some e) : (l, e) ∈ xs := by
  induction xs with
  | nil => cases h
  | cons x rest ih =>
      obtain ⟨m, f⟩ := x
      by_cases hm : l = m
      · subst hm
        rw [List.lookup_cons_self] at h
        cases h
        exact List.mem_cons_self ..
      · rw [lookup_cons_of_ne hm] at h
        exact List.mem_cons_of_mem _ (ih h)

/-- What occurs in a tree is what it shows. -/
theorem Tree.mem_entries_iff {s : Store} (h : s.Tree) {l : Location} {e : Entry} (hl : l ≠ []) :
    (l, e) ∈ s.entries ↔ s.get? l = some e := by
  rw [s.get?_of_ne hl]
  exact ⟨lookup_eq_some_of_mem h.single, mem_of_lookup_eq_some⟩

/-- A store is a tree if every entry of it is in order. -/
theorem tree_iff {s : Store} : s.Tree ↔ (s.entries.map Prod.fst).Nodup ∧
    ∀ x ∈ s.entries, x.1 ≠ [] → s.get? x.1.dropLast = some .directory ∧ x.2.isLink = false ∧
      ".." ∉ x.1 := by
  constructor
  · intro h
    refine ⟨h.single, fun x hx hne => ?_⟩
    have hget := (h.mem_entries_iff hne).mp hx
    refine ⟨h.directory_of_some hget, ?_, h.plain _ _ hget⟩
    rcases h.directory_or_file hget with hdir | ⟨c, hfile⟩
    · rw [hdir]
      rfl
    · rw [hfile]
      rfl
  · rintro ⟨hsingle, hentries⟩
    have hmem : ∀ {l e}, s.get? l = some e → l ≠ [] → (l, e) ∈ s.entries := fun hl hne =>
      mem_of_lookup_eq_some ((s.get?_of_ne hne).symm.trans hl)
    refine ⟨fun l e hl => ?_, fun l target hl => ?_, hsingle, fun l e hl => ?_⟩
    · by_cases hne : l = []
      · rw [hne, List.dropLast_nil, get?_root]
      · exact (hentries _ (hmem hl hne) hne).1
    · by_cases hne : l = []
      · rw [hne, get?_root] at hl
        cases hl
      · have hlink := (hentries _ (hmem hl hne) hne).2.1
        cases hlink
    · by_cases hne : l = []
      · simp [hne]
      · exact (hentries _ (hmem hl hne) hne).2.2

instance (s : Store) : Decidable s.Tree := decidable_of_iff _ tree_iff.symm

/-! ## Changes that keep a tree -/

namespace Tree

variable {s : Store} {l : Location} {e : Entry}

/-- A tree with an entry in one of its directories, where no directory was. -/
theorem put (h : s.Tree) (hl : l ≠ []) (hdots : ".." ∉ l)
    (hdir : s.get? l.dropLast = some .directory) (hfree : s.get? l ≠ some .directory)
    (he : ∀ target, e ≠ .link target) : (s.put l e).Tree where
  wellFormed := by
    intro m f hm
    rw [get?_put s l m e hl] at hm
    rw [get?_put s l m.dropLast e hl]
    by_cases hml : m = l
    · rw [hml, if_neg (dropLast_ne_self hl), hdir]
    · rw [if_neg hml] at hm
      have hup := h.directory_of_some hm
      by_cases hd : m.dropLast = l
      · exact absurd (hd ▸ hup) hfree
      · rw [if_neg hd, hup]
  linkFree := by
    intro m target hm
    rw [get?_put s l m e hl] at hm
    split at hm
    · exact he target (Option.some.inj hm)
    · exact h.linkFree m target hm
  single := by
    show ((l, e) :: s.entries.filter fun x => x.1 != l).map Prod.fst |>.Nodup
    rw [List.map_cons, List.nodup_cons]
    refine ⟨fun hmem => ?_, ?_⟩
    · obtain ⟨x, hx, hxl⟩ := List.mem_map.mp hmem
      have hne := (List.mem_filter.mp hx).2
      simp [hxl] at hne
    · exact h.single.sublist (List.filter_sublist.map Prod.fst)
  plain := by
    intro m f hm
    rw [get?_put s l m e hl] at hm
    split at hm
    · rename_i hml
      rw [hml]
      exact hdots
    · exact h.plain m f hm

/-- A tree without some of its files. -/
theorem erase (h : s.Tree) (hl : l ≠ []) (hfile : s.get? l ≠ some .directory) :
    (s.erase l).Tree where
  wellFormed := by
    intro m f hm
    rw [get?_erase s l m hl] at hm
    rw [get?_erase s l m.dropLast hl]
    split at hm
    · cases hm
    · have hup := h.directory_of_some hm
      by_cases hd : m.dropLast = l
      · exact absurd (hd ▸ hup) hfile
      · rw [if_neg hd, hup]
  linkFree := by
    intro m target hm
    rw [get?_erase s l m hl] at hm
    split at hm
    · cases hm
    · exact h.linkFree m target hm
  single := h.single.sublist (List.filter_sublist.map Prod.fst)
  plain := by
    intro m f hm
    rw [get?_erase s l m hl] at hm
    split at hm
    · cases hm
    · exact h.plain m f hm

/-- A tree without one of the trees in it. -/
theorem eraseTree (h : s.Tree) (hl : l ≠ []) : (s.eraseTree l).Tree where
  wellFormed := by
    intro m f hm
    rw [get?_eraseTree s l m hl] at hm
    rw [get?_eraseTree s l m.dropLast hl]
    split at hm
    · cases hm
    · rename_i hml
      rw [if_neg fun hd => hml (hd.trans (List.dropLast_prefix m)), h.directory_of_some hm]
  linkFree := by
    intro m target hm
    rw [get?_eraseTree s l m hl] at hm
    split at hm
    · cases hm
    · exact h.linkFree m target hm
  single := h.single.sublist (List.filter_sublist.map Prod.fst)
  plain := by
    intro m f hm
    rw [get?_eraseTree s l m hl] at hm
    split at hm
    · cases hm
    · exact h.plain m f hm

/-- A tree without what lies below one of its directories. -/
theorem eraseBelow (h : s.Tree) (l : Location) : (s.eraseBelow l).Tree where
  wellFormed := by
    intro m f hm
    rw [get?_eraseBelow s l m] at hm
    rw [get?_eraseBelow s l m.dropLast]
    split at hm
    · cases hm
    · rename_i hml
      rw [if_neg fun hd => hml ⟨hd.1.trans (List.dropLast_prefix m), ?_⟩, h.directory_of_some hm]
      rintro rfl
      exact hd.2 (hd.1.eq_of_length_le (List.dropLast_prefix m).length_le).symm
  linkFree := by
    intro m target hm
    rw [get?_eraseBelow s l m] at hm
    split at hm
    · cases hm
    · exact h.linkFree m target hm
  single := h.single.sublist (List.filter_sublist.map Prod.fst)
  plain := by
    intro m f hm
    rw [get?_eraseBelow s l m] at hm
    split at hm
    · cases hm
    · exact h.plain m f hm

end Tree

end Store

end Dossier
