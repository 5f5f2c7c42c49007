import Dossier.Proofs.Store.Find
import Dossier.Proofs.Text.Order
import Mathlib.Data.List.Sort

/-!
# Listing a tree

What a listing of a directory of a tree has in it: everything below the
directory (`mem_below`), and of it the files (`mem_filesBelow`).

A listing depends neither on the order of the entries of a store nor on what
lies elsewhere.  Trees that show the same in a directory are listed the same there
(`filesBelow_congr`), for a listing is sorted and no location occurs in it twice.

What a listing of the files is can be said without saying how it is made (`Listing`), and then
there is only one (`Listing.unique`).  If nothing is an obstacle, this is the one that is made
(`listing_filesBelow`).
-/

namespace Dossier

/-- The paths below a directory are compared name by name, and names by their code points. -/
def Location.Before (a b : Location) : Prop := List.Lex Text.NameBefore a b

theorem Location.not_before_self (l : Location) : ¬ l.Before l :=
  List.lex_irrefl Text.not_nameBefore_self l

namespace Store

variable {s t : Store} {directory l : Location}

/-! ## What lies below a directory -/

theorem mem_below (hs : s.Tree) :
    l ∈ s.below directory ↔ (∃ e, s.get? l = some e) ∧ directory <+: l ∧ l ≠ directory := by
  rw [below, List.mem_map]
  constructor
  · rintro ⟨⟨m, e⟩, hmem, rfl⟩
    obtain ⟨hentry, hbelow⟩ := List.mem_filter.mp hmem
    simp only [Bool.and_eq_true, List.isPrefixOf_iff_prefix, bne_iff_ne, ne_eq] at hbelow
    obtain ⟨hp, hne⟩ := hbelow
    have hm : m ≠ [] := fun hnil => hne (by rw [hnil] at hp ⊢; exact (List.prefix_nil.mp hp).symm)
    exact ⟨⟨e, (hs.mem_entries_iff hm).mp hentry⟩, hp, hne⟩
  · rintro ⟨⟨e, he⟩, hp, hne⟩
    have hl : l ≠ [] := fun hnil => hne (by rw [hnil] at hp ⊢; exact (List.prefix_nil.mp hp).symm)
    refine ⟨(l, e), List.mem_filter.mpr ⟨(hs.mem_entries_iff hl).mpr he, ?_⟩, rfl⟩
    simp [hp, hne]

theorem nodup_below (hs : s.Tree) (directory : Location) : (s.below directory).Nodup :=
  hs.single.sublist (List.filter_sublist.map Prod.fst)

/-! ## Files -/

/-- A walk to where something lies arrives there, unless one of the names is too long. -/
theorem walk_of_some (hs : s.Tree) {e : Entry} (h : s.get? l = some e) (links : Nat) :
    s.walk true links [] l =
      if ∀ name ∈ l, name.utf8ByteSize ≤ maxName then .ok (.taken l e)
      else .error .nameTooLong := by
  have hl := hs.plain l e h
  split
  · rename_i hshort
    rcases stride_of_short true hs hl hshort s.get?_root with
      ⟨spot, hstride, hshow⟩ | ⟨_, _, _, hnone, _⟩
    · rw [walk_of_arrived hstride]
      rw [List.nil_append] at hshow
      cases spot with
      | taken m found =>
          obtain ⟨rfl, hfound⟩ := hshow
          rw [Option.some.inj (hfound.symm.trans h)]
      | free m => simp [Shows, h] at hshow
    · rw [List.nil_append, h] at hnone
      cases hnone
  · rename_i hlong
    obtain ⟨name, hname, hbytes⟩ : ∃ name ∈ l, maxName < name.utf8ByteSize := by
      simpa using hlong
    obtain ⟨refusal, hstride, rfl | ⟨_, hnone⟩⟩ :=
      stride_of_long true hs hl ⟨name, hname, hbytes⟩ s.get?_root
    · rw [walk_of_refused hstride]
    · rw [List.nil_append, h] at hnone
      cases hnone

theorem insertFile_eq (file : Location × Content) :
    ∀ files, insertFile file files =
      files.orderedInsert (fun a b => locationLE a.1 b.1 = true) file
  | [] => rfl
  | first :: rest => by rw [insertFile, List.orderedInsert_cons, insertFile_eq file rest]

/-- Files are put in order by insertion. -/
theorem sortFiles_eq (files : List (Location × Content)) :
    sortFiles files = files.insertionSort fun a b => locationLE a.1 b.1 = true := by
  induction files with
  | nil => rfl
  | cons file rest ih => rw [List.insertionSort_cons, ← ih, ← insertFile_eq, sortFiles,
      List.foldr_cons, ← sortFiles]

theorem sortFiles_perm (files : List (Location × Content)) : (sortFiles files).Perm files :=
  sortFiles_eq files ▸ List.perm_insertionSort _ files

/-- A listing has the files below its directory in it. -/
theorem mem_filesBelow (hs : s.Tree) (hshort : ∀ name ∈ l, name.utf8ByteSize ≤ maxName)
    {c : Content} (h : s.get? l = some (.file c)) (hp : directory <+: l) (hne : l ≠ directory) :
    (l.drop directory.length, c) ∈ s.filesBelow directory := by
  rw [filesBelow, (sortFiles_perm _).mem_iff, List.mem_filterMap]
  refine ⟨l, (mem_below hs).mpr ⟨⟨_, h⟩, hp, hne⟩, ?_⟩
  rw [contentAt?, walk_of_some hs h, if_pos hshort]
  rfl

/-! ## Order -/

theorem locationLE_iff {a b : Location} : locationLE a b = true ↔ a = b ∨ a.Before b :=
  Text.listLE_iff Text.nameLE_iff Text.not_nameBefore_self

/-- Locations that are in order either way are the same. -/
theorem locationLE_antisymm {a b : Location} (hab : locationLE a b = true)
    (hba : locationLE b a = true) : a = b := Text.linear_nameLE.list.antisymm hab hba

theorem locationLE_trans {a b c : Location} (hab : locationLE a b = true)
    (hbc : locationLE b c = true) : locationLE a c = true := Text.linear_nameLE.list.trans hab hbc

theorem locationLE_total (a b : Location) : locationLE a b = true ∨ locationLE b a = true :=
  Text.linear_nameLE.list.total a b

theorem filesBelow_pairwise (s : Store) (directory : Location) :
    (s.filesBelow directory).Pairwise fun a b => locationLE a.1 b.1 = true := by
  have htrans : IsTrans (Location × Content) fun a b => locationLE a.1 b.1 = true :=
    ⟨fun _ _ _ => locationLE_trans⟩
  have htotal : Std.Total fun a b : Location × Content => locationLE a.1 b.1 = true :=
    ⟨fun a b => locationLE_total a.1 b.1⟩
  rw [filesBelow, sortFiles_eq]
  exact List.pairwise_insertionSort _ _

/-- The contents in a listing are those at the location. -/
theorem contentAt?_of_mem_filesBelow (hs : s.Tree) {name : Location} {c : Content}
    (h : (name, c) ∈ s.filesBelow directory) :
    directory ++ name ∈ s.below directory ∧ s.contentAt? (directory ++ name) = some c := by
  rw [filesBelow, (sortFiles_perm _).mem_iff, List.mem_filterMap] at h
  obtain ⟨l, hl, hc⟩ := h
  obtain ⟨_, ⟨rest, rfl⟩, _⟩ := (mem_below hs).mp hl
  rw [List.drop_left] at hc
  cases hcontent : s.contentAt? (directory ++ rest) with
  | none => simp [hcontent] at hc
  | some found =>
      rw [hcontent] at hc
      cases hc
      exact ⟨hl, hcontent⟩

/-- No file is listed twice. -/
theorem nodup_filesBelow (hs : s.Tree) (directory : Location) :
    ((s.filesBelow directory).map Prod.fst).Nodup := by
  refine ((sortFiles_perm _).map Prod.fst).nodup_iff.mpr ?_
  rw [List.map_filterMap, List.Nodup, List.pairwise_filterMap]
  refine (nodup_below hs directory).imp_of_mem fun {l m} hl hm hlm name hname name' hname' => ?_
  obtain ⟨_, ⟨rest, rfl⟩, _⟩ := (mem_below hs).mp hl
  obtain ⟨_, ⟨rest', rfl⟩, _⟩ := (mem_below hs).mp hm
  simp only [List.drop_left, Option.map_map, Option.map_eq_some_iff, Function.comp_apply]
    at hname hname'
  obtain ⟨_, _, rfl⟩ := hname
  obtain ⟨_, _, rfl⟩ := hname'
  rintro rfl
  exact hlm rfl

/-! ## Obstacles -/

/-- Nothing is an obstacle if nothing below the directory is one. -/
theorem obstacle?_eq_none_iff {path : Path} : s.obstacle? path directory = none ↔
    ∀ l ∈ s.below directory, s.obstacleAt? path directory l = none := by
  have hnone : s.obstacle? path directory = none ↔ s.obstacles path directory = [] := by
    rw [obstacle?]
    cases s.obstacles path directory with
    | nil => exact iff_of_true rfl rfl
    | cons o rest => exact iff_of_false nofun nofun
  rw [hnone, obstacles, List.filterMap_eq_nil_iff]
  simp only [Option.map_eq_none_iff]

/-- In a tree only what has a path or a name too long is an obstacle. -/
theorem obstacleAt?_of_some (hs : s.Tree) (path : Path) {e : Entry} (h : s.get? l = some e) :
    s.obstacleAt? path directory l =
      if (path.extend (l.drop directory.length)).text.utf8ByteSize < maxPath ∧
        ∀ name ∈ l, name.utf8ByteSize ≤ maxName then none else some .nameTooLong := by
  rw [obstacleAt?, walk_of_some hs h]
  by_cases hlong : maxPath ≤ (path.extend (l.drop directory.length)).text.utf8ByteSize
  · rw [if_pos hlong, if_neg fun hshort => absurd hshort.1 (Nat.not_lt.mpr hlong)]
  · rw [if_neg hlong]
    by_cases hnames : ∀ name ∈ l, name.utf8ByteSize ≤ maxName
    · rw [if_pos hnames, if_pos ⟨Nat.not_le.mp hlong, hnames⟩]
    · rw [if_neg hnames, if_neg fun hshort => hnames hshort.2]
      rfl

theorem foldl_earlier_mem (o : Location × Errno) : ∀ rest : List (Location × Errno),
    rest.foldl earlier o ∈ o :: rest
  | [] => List.mem_singleton.mpr rfl
  | next :: rest => by
      have hmem := foldl_earlier_mem (earlier o next) rest
      rw [List.foldl_cons]
      rcases List.mem_cons.mp hmem with hfirst | hlater
      · rw [hfirst, earlier]
        split
        · exact List.mem_cons_self ..
        · exact List.mem_cons_of_mem _ (List.mem_cons_self ..)
      · exact List.mem_cons_of_mem _ (List.mem_cons_of_mem _ hlater)

/-- An obstacle is something below the directory that cannot be asked for. -/
theorem obstacle?_some {path q : Path} {e : Errno} (h : s.obstacle? path directory = some (q, e)) :
    ∃ l ∈ s.below directory, s.obstacleAt? path directory l = some e ∧
      q = path.extend (l.drop directory.length) := by
  rw [obstacle?] at h
  split at h
  · cases h
  · rename_i o rest hobstacles
    have hmem : rest.foldl earlier o ∈ s.obstacles path directory :=
      hobstacles ▸ foldl_earlier_mem o rest
    obtain ⟨l, hl, hat⟩ := List.mem_filterMap.mp hmem
    obtain ⟨e', he, hfirst⟩ := Option.map_eq_some_iff.mp hat
    rw [← hfirst] at h
    cases h
    exact ⟨l, hl, he, rfl⟩

/-- Where nothing is an obstacle, all names below a directory are short enough. -/
theorem short_of_unobstructed (hs : s.Tree) {path : Path}
    (hclear : s.obstacle? path directory = none)
    (hl : l ∈ s.below directory) : ∀ name ∈ l, name.utf8ByteSize ≤ maxName := by
  obtain ⟨⟨e, he⟩, _, _⟩ := (mem_below hs).mp hl
  have hnone := obstacle?_eq_none_iff.mp hclear l hl
  rw [obstacleAt?_of_some hs path he] at hnone
  by_contra hlong
  rw [if_neg fun hshort => hlong hshort.2] at hnone
  cases hnone

/-- Where nothing is an obstacle, a listing has exactly the files below its directory in
it. -/
theorem mem_filesBelow_iff (hs : s.Tree) {path : Path}
    (hclear : s.obstacle? path directory = none) {below : Location} {c : Content} :
    (below, c) ∈ s.filesBelow directory ↔
      below ≠ [] ∧ s.get? (directory ++ below) = some (.file c) := by
  constructor
  · intro h
    obtain ⟨hbelow, hcontent⟩ := contentAt?_of_mem_filesBelow hs h
    obtain ⟨⟨e, he⟩, _, hne⟩ := (mem_below hs).mp hbelow
    rw [contentAt?, walk_of_some hs he,
      if_pos (short_of_unobstructed hs hclear hbelow)] at hcontent
    refine ⟨fun hnil => hne (by rw [hnil, List.append_nil]), ?_⟩
    cases e with
    | file content =>
        obtain rfl : content = c := Option.some.inj hcontent
        exact he
    | _ => cases hcontent
  · rintro ⟨hne, hfile⟩
    have hself : directory ++ below ≠ directory := fun he => hne (List.append_right_eq_self.mp he)
    have hbelow : directory ++ below ∈ s.below directory :=
      (mem_below hs).mpr ⟨⟨_, hfile⟩, List.prefix_append _ _, hself⟩
    have hmem := mem_filesBelow hs (short_of_unobstructed hs hclear hbelow) hfile
      (List.prefix_append _ _) hself
    rwa [List.drop_left] at hmem

/-! ## The listing of a directory -/

/-- A listing of the files below a directory: all of them, each once, in the order of their
paths. -/
structure Listing (s : Store) (directory : Location) (files : List (Location × Content)) :
    Prop where
  /-- It has the files below the directory in it, and nothing else. -/
  mem : ∀ below c, (below, c) ∈ files ↔ below ≠ [] ∧ s.get? (directory ++ below) = some (.file c)
  /-- Each comes before those after it. -/
  increasing : files.Pairwise fun a b => a.1.Before b.1

/-- There is only one listing of what is the same. -/
theorem Listing.unique {files files' : List (Location × Content)} (h : Listing s directory files)
    (h' : Listing t directory files')
    (hsame : ∀ below, below ≠ [] → s.get? (directory ++ below) = t.get? (directory ++ below)) :
    files = files' := by
  have hnodup : ∀ {files : List (Location × Content)},
      (files.Pairwise fun a b => a.1.Before b.1) → files.Nodup := by
    intro files hincreasing
    refine hincreasing.imp ?_
    rintro a _ hbefore rfl
    exact a.1.not_before_self hbefore
  refine List.Perm.eq_of_pairwise ?_ h.increasing h'.increasing
    ((List.perm_ext_iff_of_nodup (hnodup h.increasing) (hnodup h'.increasing)).mpr ?_)
  · rintro ⟨a, c⟩ ⟨b, d⟩ ha hb hab hba
    obtain rfl : a = b := locationLE_antisymm (locationLE_iff.mpr (Or.inr hab))
      (locationLE_iff.mpr (Or.inr hba))
    exact absurd hab a.not_before_self
  · rintro ⟨below, c⟩
    rw [h.mem, h'.mem]
    exact and_congr_right fun hne => by rw [hsame below hne]

/-- What is made is the listing if nothing is an obstacle. -/
theorem listing_filesBelow (hs : s.Tree) {path : Path}
    (hclear : s.obstacle? path directory = none) :
    Listing s directory (s.filesBelow directory) where
  mem _ _ := mem_filesBelow_iff hs hclear
  increasing := by
    have hnodup := List.pairwise_map.mp (nodup_filesBelow hs directory)
    exact ((filesBelow_pairwise s directory).and hnodup).imp fun h =>
      (locationLE_iff.mp h.1).resolve_left h.2

/-! ## Listing alike -/

section Alike

variable (hs : s.Tree) (ht : t.Tree) (h : ∀ l, directory <+: l → s.get? l = t.get? l)
include hs ht h

/-- What lies below a directory is the same, but for the order, in trees that show
the same there. -/
theorem below_perm : (s.below directory).Perm (t.below directory) := by
  refine (List.perm_ext_iff_of_nodup (nodup_below hs directory) (nodup_below ht directory)).mpr ?_
  intro l
  rw [mem_below hs, mem_below ht]
  refine and_congr_left fun hl => ?_
  rw [h l hl.1]

/-- What lies below a directory is walked to alike. -/
theorem walk_below_congr (hl : l ∈ s.below directory) (links : Nat) :
    s.walk true links [] l = t.walk true links [] l := by
  obtain ⟨⟨e, he⟩, hp, _⟩ := (mem_below hs).mp hl
  rw [walk_of_some hs he, walk_of_some ht ((h l hp).symm.trans he)]

/-- Trees that show the same in a directory are listed the same there. -/
theorem filesBelow_congr : s.filesBelow directory = t.filesBelow directory := by
  have hcontent : ∀ l ∈ s.below directory, s.contentAt? l = t.contentAt? l := fun l hl => by
    rw [contentAt?, contentAt?, walk_below_congr hs ht h hl]
  refine List.Perm.eq_of_pairwise ?_
    (filesBelow_pairwise s directory) (filesBelow_pairwise t directory) ?_
  · rintro ⟨a, c⟩ ⟨b, d⟩ ha hb hab hba
    obtain rfl : a = b := locationLE_antisymm hab hba
    obtain ⟨hmem, hc⟩ := contentAt?_of_mem_filesBelow hs ha
    rw [hcontent _ hmem, (contentAt?_of_mem_filesBelow ht hb).2] at hc
    rw [Option.some.inj hc]
  · rw [filesBelow, filesBelow]
    refine (sortFiles_perm _).trans (.trans ?_ (sortFiles_perm _).symm)
    rw [List.filterMap_congr fun l hl => by rw [hcontent l hl]]
    exact (below_perm hs ht h).filterMap _

/-- Trees that show the same in a directory have the same obstacles there. -/
theorem obstacle?_congr {path : Path} (hnone : s.obstacle? path directory = none) :
    t.obstacle? path directory = none := by
  rw [obstacle?_eq_none_iff] at hnone ⊢
  intro l hl
  have hmem := (below_perm hs ht h).mem_iff.mpr hl
  rw [← hnone l hmem, obstacleAt?, obstacleAt?, walk_below_congr hs ht h hmem]

end Alike

end Store

end Dossier
