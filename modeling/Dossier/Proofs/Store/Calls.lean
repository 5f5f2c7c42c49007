import Dossier.Proofs.Store.Find

/-!
# Calls on a tree

What each call on a tree says about what the tree shows, and what the tree it
gives shows.  Three changes of a view cover what calls do: `opened` makes the
missing directories down to a location, `saved` puts a file below them, and
`cleared` removes everything at and below a location.

A call that is refused gives no store, except for making directories: there the
ones made before the refusal stay (`ensureDirectories_opens`).
-/

namespace Dossier.Store

/-- What a store shows at every location. -/
abbrev View := Location → Option Entry

namespace View

/-- A view with a directory at every free place down to a location. -/
def opened (v : View) (l : Location) : View := fun m =>
  if m <+: l ∧ v m = none then some .directory else v m

/-- A view with a file at a location and directories at the free places above
it. -/
def saved (v : View) (l : Location) (c : Content) : View := fun m =>
  if m = l then some (.file c) else v.opened l.dropLast m

/-- A view with nothing at a location. -/
def erased (v : View) (l : Location) : View := fun m => if m = l then none else v m

/-- A view with nothing at a location and below it. -/
def cleared (v : View) (l : Location) : View := fun m => if l <+: m then none else v m

variable {v : View} {k l m : Location}

theorem opened_opened (hk : k <+: l) : (v.opened k).opened l = v.opened l := by
  funext m
  by_cases hm : m <+: l
  · by_cases hv : v m = none
    · by_cases hmk : m <+: k <;> simp [opened, hm, hv, hmk]
    · simp [opened, hv]
  · have hmk : ¬ m <+: k := fun h => hm (h.trans hk)
    simp [opened, hm, hmk]

theorem opened_of_some {e : Entry} (h : v m = some e) : v.opened l m = some e := by
  simp [opened, h]

/-- Making directories adds no files. -/
theorem opened_eq_file_iff {c : Content} :
    v.opened l m = some (.file c) ↔ v m = some (.file c) := by
  rw [opened]
  split
  · rename_i h
    simp [h.2]
  · rfl

theorem opened_of_not_prefix (h : ¬ m <+: l) : v.opened l m = v m := by simp [opened, h]

/-- Making the directories above a location leaves it as it is. -/
theorem opened_dropLast_self (hl : l ≠ []) : v.opened l.dropLast l = v l :=
  opened_of_not_prefix fun hp => dropLast_ne_self hl
    ((List.dropLast_prefix l).eq_of_length_le hp.length_le)

/-- A file is saved in the same way if the directories above it are made first. -/
theorem saved_opened (c : Content) : (v.opened l.dropLast).saved l c = v.saved l c := by
  funext m
  rw [saved, saved, opened_opened (List.prefix_refl _)]

/-- A file that is erased where nothing was leaves the directories above it. -/
theorem erased_saved {c : Content} (hl : l ≠ []) (h : v l = none) :
    (v.saved l c).erased l = v.opened l.dropLast := by
  funext m
  rw [erased, saved]
  by_cases hm : m = l
  · rw [if_pos hm, hm, opened_dropLast_self hl, h]
  · rw [if_neg hm, if_neg hm]

/-- Directories that are there need not be made. -/
theorem opened_of_directory {s : Store} (hs : s.Tree) (hl : s.get? l = some .directory) :
    opened s.get? l = s.get? := by
  funext m
  by_cases hm : m <+: l
  · by_cases he : m = l
    · simp [opened, he, hl]
    · simp [opened, hs.directory_above hl hm he]
  · exact opened_of_not_prefix hm

end View

variable {s t : Store} {here l : Location} {p : Path}

/-! ## Looking -/

theorem find_of_stat {e : Entry} (h : s.stat here p = .ok (l, e)) :
    s.find here p true = .ok (.taken l e) := by
  rw [stat] at h
  cases hfind : s.find here p true with
  | error err => simp [hfind] at h
  | ok spot =>
      rw [hfind] at h
      cases spot <;> cases h
      rfl

theorem stat_ok (hs : s.Tree) {e : Entry} (h : s.stat here p = .ok (l, e)) :
    l = p.location here ∧ s.get? l = some e := by
  obtain ⟨rfl, hget⟩ := find_ok hs (find_of_stat h)
  exact ⟨rfl, hget⟩

theorem hasDirectory_true (hs : s.Tree) (hl : ".." ∉ l)
    (h : s.hasDirectory here (Location.path l) = .ok true) :
    l.Short ∧ s.get? l = some .directory := by
  rw [hasDirectory, ask] at h
  split at h
  · cases h
  · rw [stat] at h
    cases hf : s.find here (Location.path l) true with
    | error e =>
        rw [hf] at h
        simp only at h
        split at h <;> cases h
    | ok spot =>
        obtain ⟨hshort, hshow⟩ := (find_ok_iff hs hl).mp hf
        rw [hf] at h
        cases spot with
        | free m => simp [isAbsence] at h
        | taken m e =>
            have he : e.isDirectory = true := Except.ok.inj h
            cases e with
            | directory => exact ⟨hshort, hshow.2⟩
            | file c => cases he
            | link target => cases he

/-- Something lies at a location, and can be reached, if the answer is yes. -/
theorem hasEntry_true (hs : s.Tree) (hl : ".." ∉ l)
    (h : s.hasEntry here (Location.path l) = .ok true) :
    ∃ e, l.Short ∧ s.get? l = some e := by
  rw [hasEntry, ask] at h
  split at h
  · cases h
  · rw [stat] at h
    cases hf : s.find here (Location.path l) true with
    | error e =>
        rw [hf] at h
        simp only at h
        split at h <;> cases h
    | ok spot =>
        obtain ⟨hshort, hshow⟩ := (find_ok_iff hs hl).mp hf
        rw [hf] at h
        cases spot with
        | free m => simp [isAbsence] at h
        | taken m e => exact ⟨e, hshort, hshow.2⟩

/-- Nothing lies at a location if the answer is no. -/
theorem hasEntry_false (hs : s.Tree) (hl : ".." ∉ l) (hnul : (Location.path l).holdsNul = false)
    (h : s.hasEntry here (Location.path l) = .ok false) : s.get? l = none := by
  rw [hasEntry, ask, hnul] at h
  simp only [Bool.false_eq_true, if_false] at h
  rw [stat] at h
  cases hf : s.find here (Location.path l) true with
  | error e =>
      rw [hf] at h
      rcases find_error hs hl hf with rfl | ⟨_, hnone⟩
      · simp [isAbsence] at h
      · exact hnone
  | ok spot =>
      rw [hf] at h
      obtain ⟨_, hshow⟩ := (find_ok_iff hs hl).mp hf
      cases spot with
      | free m => exact hshow.2.1
      | taken m e => cases h

theorem sizeAt_ok (hs : s.Tree) {n : Nat} (h : s.sizeAt here p = .ok n) :
    ∃ e, s.get? (p.location here) = some e ∧ n = e.size := by
  rw [sizeAt] at h
  cases hstat : s.stat here p with
  | error e => simp [hstat, Except.map] at h
  | ok found =>
      obtain ⟨hm, hget⟩ := stat_ok hs hstat
      rw [hstat] at h
      exact ⟨found.2, hm ▸ hget, (Except.ok.inj h).symm⟩

/-! ## Writing and removing files -/

/-- A file does not lie at the root. -/
theorem ne_nil_of_file {c : Content} (h : s.get? l = some (.file c)) : l ≠ [] := by
  rintro rfl
  rw [get?_root] at h
  cases h

/-- What is written lies at the place that is found for it. -/
theorem write_of_place (h : s.placeToWrite here p = .ok l) (c : Content) :
    s.write here p c = .ok (s.put l (.file c)) := by
  rw [write, h]
  rfl

/-- A file is written in a directory, where no directory is. -/
theorem write_ok (hs : s.Tree) {c : Content} (h : s.write here p c = .ok t) :
    t = s.put (p.location here) (.file c) ∧ p.location here ≠ [] ∧
      s.get? (p.location here).dropLast = some .directory ∧
      s.get? (p.location here) ≠ some .directory ∧
      t.stat here p = .ok (p.location here, .file c) := by
  rw [write, placeToWrite] at h
  cases hf : s.find here p true with
  | error e =>
      rw [hf] at h
      cases h
  | ok spot =>
      have hshow := find_ok hs hf
      rw [hf] at h
      have hput : ∀ m, spot.location = m → m = p.location here → m ≠ [] →
          s.get? m ≠ some .directory →
          (s.put m (.file c)).stat here p = .ok (p.location here, .file c) := by
        intro m hspot hm hne hfree
        rw [stat, find_put hne hfree (hs.linkFree m) hf hspot, hm]
      cases spot with
      | free m =>
          obtain ⟨rfl, hnone, hne, hdir⟩ := hshow
          cases h
          have hfree : s.get? (p.location here) ≠ some .directory := by simp [hnone]
          exact ⟨rfl, hne, hdir, hfree, hput _ rfl rfl hne hfree⟩
      | taken m e =>
          obtain ⟨rfl, hget⟩ := hshow
          cases e with
          | directory => cases h
          | link target => exact absurd hget (hs.linkFree _ target)
          | file old =>
              cases h
              have hne := ne_nil_of_file hget
              have hfree : s.get? (p.location here) ≠ some .directory := by simp [hget]
              exact ⟨rfl, hne, hs.directory_of_some hget, hfree, hput _ rfl rfl hne hfree⟩

/-- A file is written in a tree, which stays one. -/
theorem Tree.write (hs : s.Tree) {c : Content} (hl : ".." ∉ p.location here)
    (h : s.write here p c = .ok t) : t.Tree := by
  obtain ⟨rfl, hne, hdir, hfree, _⟩ := write_ok hs h
  exact hs.put hne hl hdir hfree (by simp)

/-- A file is removed. -/
theorem unlink_ok (hs : s.Tree) (h : s.unlink here p = .ok t) :
    t = s.erase (p.location here) ∧ p.location here ≠ [] ∧
      ∃ c, s.get? (p.location here) = some (.file c) := by
  rw [unlink] at h
  cases hf : s.find here p false with
  | error e => simp [hf] at h
  | ok spot =>
      have hshow := find_ok hs hf
      rw [hf] at h
      cases spot with
      | free m => cases h
      | taken m e =>
          obtain ⟨rfl, hget⟩ := hshow
          cases e with
          | directory => cases h
          | link target => exact absurd hget (hs.linkFree _ target)
          | file c =>
              cases h
              exact ⟨rfl, ne_nil_of_file hget, c, hget⟩

/-- A file that is there and can be reached is removed. -/
theorem unlink_of_file (hs : s.Tree) (hl : ".." ∉ l) (hshort : l.Short) {c : Content}
    (h : s.get? l = some (.file c)) :
    s.unlink here (Location.path l) = .ok (s.erase l) := by
  have hfind : s.find here (Location.path l) false = .ok (.taken l (.file c)) :=
    (find_ok_iff hs hl).mpr ⟨hshort, rfl, h⟩
  rw [unlink, hfind]

theorem name_path_ne_dots {l : Location} (hl : ".." ∉ l) : (Location.path l).name ≠ ".." := by
  show l.getLast?.getD "" ≠ ".."
  cases h : l.getLast? with
  | none => simp
  | some name =>
      intro he
      exact hl (he ▸ List.mem_of_getLast? h)

/-- A path whose start is not gone is retraced by following it. -/
theorem retrace_of_start {e : Entry} (h : s.get? (startOf here p) = some e) :
    s.retrace here p = s.find here p false := by
  have hclimb : s.climb (startOf here p) p.parts = (startOf here p, p.parts) := by
    cases p.parts with
    | nil => rfl
    | cons name rest => rw [climb, if_neg (by simp [h])]
  rw [retrace, find, hclimb]

/-- The path of a directory leads to it when it is empty, too. -/
theorem retrace_eraseBelow (hs : s.Tree) (hl : ".." ∉ l)
    (h : s.find here (Location.path l) false = .ok (.taken l .directory)) :
    (s.eraseBelow l).retrace here (Location.path l) = .ok (.taken l .directory) := by
  obtain ⟨hshort, _, hdir⟩ := (find_ok_iff hs hl).mp h
  rw [retrace_of_start ((s.eraseBelow l).get?_root)]
  refine (find_ok_iff (hs.eraseBelow l) hl).mpr ⟨hshort, rfl, ?_⟩
  rw [get?_eraseBelow, if_neg fun hbelow => hbelow.2 rfl, hdir]

/-- A tree is removed whole, unless its path ends in two dots. -/
theorem removeTree_ok (hs : s.Tree) (hname : p.name ≠ "..")
    (h : s.removeTree here p = (t, none)) :
    t = s.eraseTree (p.location here) ∧ s.get? (p.location here) = some .directory := by
  rw [removeTree] at h
  cases hf : s.find here p false with
  | error e => simp [hf] at h
  | ok spot =>
      have hshow := find_ok hs hf
      rw [hf] at h
      cases spot with
      | free m => simp at h
      | taken m e =>
          obtain ⟨rfl, hget⟩ := hshow
          cases e with
          | link target => simp at h
          | file c => simp at h
          | directory =>
              simp only [if_neg hname] at h
              split at h <;> cases h
              exact ⟨rfl, hget⟩

/-! ## Making directories -/

theorem get?_put_directory (hs : s.Tree) (hl : l ≠ [])
    (hdir : s.get? l.dropLast = some .directory) (hnone : s.get? l = none) :
    (s.put l .directory).get? = View.opened s.get? l := by
  funext m
  rw [get?_put s l m _ hl]
  by_cases hm : m = l
  · simp [View.opened, hm, hnone]
  · rw [if_neg hm]
    by_cases hp : m <+: l
    · have hup : s.get? m = some .directory := by
        by_cases he : m = l.dropLast
        · rw [he, hdir]
        · exact hs.directory_above hdir (prefix_dropLast hp hm) he
      simp [View.opened, hup]
    · rw [View.opened_of_not_prefix hp]

/-- The directories down to a location were made where they were missing. -/
structure Opens (s t : Store) (l : Location) : Prop where
  tree : t.Tree
  view : t.get? = View.opened s.get? l
  directory : t.get? l = some .directory
  short : l.Short

/-- A directory that is made, or that is there. -/
theorem ensureDirectory_opens (hs : s.Tree) (hl : ".." ∉ l)
    (h : s.ensureDirectory here (Location.path l) = (t, none)) : Opens s t l := by
  have hthere : ∀ e, s.unlessThere here (Location.path l) e = none → Opens s s l := by
    intro e hu
    rw [unlessThere] at hu
    split at hu
    · rename_i hd
      obtain ⟨hshort, hdir⟩ := hasDirectory_true hs hl hd
      exact ⟨hs, (View.opened_of_directory hs hdir).symm, hdir, hshort⟩
    · cases hu
    · cases hu
  rw [ensureDirectory, makeDirectory] at h
  cases hf : s.find here (Location.path l) false with
  | error e =>
      rw [hf] at h
      cases e <;> simp only [Prod.mk.injEq, reduceCtorEq, and_false] at h <;>
        exact h.1 ▸ hthere _ h.2
  | ok spot =>
      obtain ⟨hshort, hshow⟩ := (find_ok_iff hs hl).mp hf
      rw [hf] at h
      cases spot with
      | taken m e =>
          simp only [Prod.mk.injEq] at h
          exact h.1 ▸ hthere _ h.2
      | free m =>
          obtain ⟨rfl, hnone, hne, hdir⟩ := hshow
          cases h
          have hget := get?_put_directory hs hne hdir hnone
          refine ⟨hs.put hne hl hdir (by simp [hnone]) (by simp), hget, ?_, hshort⟩
          rw [get?_put s m m _ hne, if_pos rfl]

theorem ensureUpTo_opens (here : Location) :
    ∀ (depth : Nat) {s t : Store} {l : Location}, s.Tree → ".." ∉ l →
      s.ensureUpTo here depth (Location.path l) = (t, none) → Opens s t l
  | 0, s, t, l, hs, hl, h => ensureDirectory_opens hs hl h
  | depth + 1, s, t, l, hs, hl, h => by
      rw [ensureUpTo] at h
      split at h
      · split at h
        · rename_i made hmade
          have hl' : ".." ∉ l.dropLast := fun hm => hl (List.dropLast_subset _ hm)
          have hup := ensureUpTo_opens here depth (l := l.dropLast) hs hl' hmade
          have hmade := ensureDirectory_opens hup.tree hl h
          refine ⟨hmade.tree, ?_, hmade.directory, hmade.short⟩
          rw [hmade.view, hup.view, View.opened_opened (List.dropLast_prefix l)]
        · rename_i refused hnot
          exact absurd h (hnot t)
      · exact ensureDirectory_opens hs hl h

/-- Directories are made at the free places down to a location. -/
theorem ensureDirectories_opens (hs : s.Tree) (hl : ".." ∉ l)
    (h : s.ensureDirectories here (Location.path l) = (t, none)) : Opens s t l :=
  ensureUpTo_opens here _ hs hl h

end Dossier.Store
