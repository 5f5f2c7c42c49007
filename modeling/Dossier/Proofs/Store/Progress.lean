import Dossier.Proofs.Store.Calls
import Dossier.Proofs.Store.Listing

/-!
# Calls that succeed

When calls on a tree succeed, for paths that are short enough.  What is there is
found, what is not there is not, and a file can be written to a free place in a
directory.

Directories can be made down to a location if the way there is *open*: no file
lies on it (`ensureDirectories_of_open`).
-/

namespace Dossier

/-! ## Short locations -/

theorem Location.path_text (l : Location) : (Location.path l).text = "/" ++ "/".intercalate l := rfl

/-- The directory of a location is short enough if the location is. -/
theorem Location.Short.dropLast {l : Location} (h : l.Short) : Location.Short l.dropLast := by
  refine ⟨Nat.lt_of_le_of_lt ?_ h.1, fun name hname => h.2 name (List.dropLast_subset l hname)⟩
  rw [Location.path_text, Location.path_text, String.utf8ByteSize_append,
    String.utf8ByteSize_append]
  exact Nat.add_le_add_left (size_intercalate_dropLast l) _

theorem Location.holdsNul_dropLast {l : Location} (h : (Location.path l).holdsNul = false) :
    (Location.path l.dropLast).holdsNul = false := by
  rw [Path.holdsNul, List.any_eq_false] at h ⊢
  exact fun part hpart => h part (List.dropLast_subset l hpart)

namespace Store

variable {s t : Store} {here l : Location} {names : List String} {follow : Bool} {e : Entry}

/-! ## Looking -/

theorem find_of_some (hs : s.Tree) (hl : ".." ∉ l) (hshort : l.Short) (h : s.get? l = some e) :
    s.find here (Location.path l) follow = .ok (.taken l e) :=
  (find_ok_iff hs hl).mpr ⟨hshort, rfl, h⟩

theorem find_of_free (hs : s.Tree) (hl : ".." ∉ l) (hshort : l.Short) (hne : l ≠ [])
    (hdir : s.get? l.dropLast = some .directory) (h : s.get? l = none) :
    s.find here (Location.path l) follow = .ok (.free l) :=
  (find_ok_iff hs hl).mpr ⟨hshort, rfl, h, hne, hdir⟩

theorem stat_of_some (hs : s.Tree) (hl : ".." ∉ l) (hshort : l.Short) (h : s.get? l = some e) :
    s.stat here (Location.path l) = .ok (l, e) := by
  rw [stat, find_of_some hs hl hshort h]

theorem hasEntry_of_some (here : Location) (hs : s.Tree) (hl : ".." ∉ l) (hshort : l.Short)
    (hnul : (Location.path l).holdsNul = false) (h : s.get? l = some e) :
    s.hasEntry here (Location.path l) = .ok true := by
  rw [hasEntry, ask, hnul, stat_of_some hs hl hshort h]
  rfl

theorem hasDirectory_of_some (hs : s.Tree) (hl : ".." ∉ l) (hshort : l.Short)
    (hnul : (Location.path l).holdsNul = false) (h : s.get? l = some .directory) :
    s.hasDirectory here (Location.path l) = .ok true := by
  rw [hasDirectory, ask, hnul, stat_of_some hs hl hshort h]
  rfl

theorem find_of_short (follow : Bool) (hs : s.Tree) (hl : ".." ∉ l) (hshort : l.Short) :
    (∃ spot, s.find here (Location.path l) follow = .ok spot ∧ s.Shows l spot) ∨
      ∃ e, s.find here (Location.path l) follow = .error e ∧ isAbsence e = true := by
  rw [find_path, if_neg (Nat.not_le.mpr hshort.1)]
  rcases stride_of_short follow hs hl hshort.2 s.get?_root with
    ⟨spot, hstride, hshow⟩ | ⟨e, hstride, habsent, _⟩
  · exact Or.inl ⟨spot, walk_of_arrived hstride, hshow⟩
  · exact Or.inr ⟨e, walk_of_refused hstride, habsent⟩

theorem hasEntry_of_none (here : Location) (hs : s.Tree) (hl : ".." ∉ l) (hshort : l.Short)
    (hnul : (Location.path l).holdsNul = false) (h : s.get? l = none) :
    s.hasEntry here (Location.path l) = .ok false := by
  rw [hasEntry, ask, hnul, stat]
  rcases find_of_short true hs hl hshort with ⟨spot, hfind, hshow⟩ | ⟨e, hfind, habsent⟩
  · rw [hfind]
    cases spot with
    | taken m e => simp [Shows, h] at hshow
    | free m => rfl
  · rw [hfind]
    simp [habsent]

/-! ## Writing -/

theorem write_of_free (hs : s.Tree) (hl : ".." ∉ l) (hshort : l.Short) (hne : l ≠ [])
    (hdir : s.get? l.dropLast = some .directory) (h : s.get? l = none) (c : Content) :
    s.write here (Location.path l) c = .ok (s.put l (.file c)) := by
  refine write_of_place ?_ c
  rw [placeToWrite, find_of_free hs hl hshort hne hdir h]

/-- Stores that show the same can be written to alike. -/
theorem placeToWrite_congr (h : s.get? = t.get?) (here : Location) (p : Path) :
    s.placeToWrite here p = t.placeToWrite here p := by
  rw [placeToWrite, placeToWrite, find_congr h]

/-! ## Making directories -/

/-- No file lies at a location or above it. -/
def View.Open (v : View) (l : Location) : Prop :=
  ∀ m, m <+: l → v m = none ∨ v m = some .directory

theorem View.Open.dropLast {v : View} (h : v.Open l) : v.Open l.dropLast := fun m hm =>
  h m (hm.trans (List.dropLast_prefix l))

/-- A way stays open when directories are made. -/
theorem View.Open.opened {v : View} (h : v.Open l) (k : Location) : (v.opened k).Open l := by
  intro m hm
  rw [View.opened]
  split
  · exact Or.inr rfl
  · exact h m hm

/-- A stride on an open way stops only where nothing is. -/
theorem stride_of_open (follow : Bool) (hs : s.Tree) :
    ∀ {names : List String} {here : Location}, ".." ∉ names →
      (∀ name ∈ names, name.utf8ByteSize ≤ maxName) → View.Open s.get? (here ++ names) →
      s.get? here = some .directory →
      (∃ spot, s.stride follow here names = .arrived spot) ∨
        s.stride follow here names = .refused .noEntry
  | [], here, _, _, _, hh => Or.inl ⟨.taken here .directory, by rw [stride_nil, hh]⟩
  | name :: rest, here, hdots, hshort, hopen, hh => by
      rw [List.mem_cons, not_or] at hdots
      rw [stride_cons_of_short follow rest hs.linkFree hh (Ne.symm hdots.1)
        (hshort name (List.mem_cons_self ..))]
      have hassoc : here ++ name :: rest = here ++ [name] ++ rest := by simp
      rw [hassoc] at hopen
      rcases hopen (here ++ [name]) (List.prefix_append ..) with hnone | hdir
      · rw [if_pos hnone]
        by_cases hrest : rest = []
        · exact Or.inl ⟨_, if_pos hrest⟩
        · exact Or.inr (if_neg hrest)
      · rw [if_neg (by simp [hdir])]
        exact stride_of_open follow hs hdots.2 (fun n hn => hshort n (List.mem_cons_of_mem _ hn))
          hopen hdir

theorem find_of_open (hs : s.Tree) (hl : ".." ∉ l) (hshort : l.Short) (hopen : View.Open s.get? l) :
    (∃ spot, s.find here (Location.path l) follow = .ok spot ∧ s.Shows l spot) ∨
      s.find here (Location.path l) follow = .error .noEntry ∧ s.get? l = none := by
  have hfind : (∃ spot, s.find here (Location.path l) follow = .ok spot) ∨
      s.find here (Location.path l) follow = .error .noEntry := by
    rw [find_path, if_neg (Nat.not_le.mpr hshort.1)]
    rcases stride_of_open follow hs hl hshort.2 (by simpa using hopen) s.get?_root with
      ⟨spot, hstride⟩ | hstride
    · exact Or.inl ⟨spot, walk_of_arrived hstride⟩
    · exact Or.inr (walk_of_refused hstride)
  rcases hfind with ⟨spot, hfind⟩ | hfind
  · exact Or.inl ⟨spot, hfind, ((find_ok_iff hs hl).mp hfind).2⟩
  · rcases find_error hs hl hfind with h | ⟨_, hnone⟩
    · cases h
    · exact Or.inr ⟨hfind, hnone⟩

/-- A directory that is there need not be made. -/
theorem ensureDirectory_of_directory (hs : s.Tree) (hl : ".." ∉ l) (hshort : l.Short)
    (hnul : (Location.path l).holdsNul = false) (h : s.get? l = some .directory) :
    s.ensureDirectory here (Location.path l) = (s, none) := by
  rw [ensureDirectory, makeDirectory, find_of_some hs hl hshort h]
  simp only
  rw [unlessThere, hasDirectory_of_some hs hl hshort hnul h]

/-- A directory is made in a directory. -/
theorem ensureDirectory_of_free (hs : s.Tree) (hl : ".." ∉ l) (hshort : l.Short) (hne : l ≠ [])
    (hdir : s.get? l.dropLast = some .directory) (h : s.get? l = none) :
    s.ensureDirectory here (Location.path l) = (s.put l .directory, none) := by
  rw [ensureDirectory, makeDirectory, find_of_free hs hl hshort hne hdir h]

theorem ensureUpTo_of_open (here : Location) :
    ∀ (depth : Nat) {s : Store} {l : Location}, s.Tree → ".." ∉ l → l.Short →
      (Location.path l).holdsNul = false → View.Open s.get? l → l.length ≤ depth →
      ∃ t, s.ensureUpTo here depth (Location.path l) = (t, none)
  | 0, s, l, hs, hl, hshort, hnul, _, hlen => by
      have hnil : l = [] := List.length_eq_zero_iff.mp (Nat.le_zero.mp hlen)
      exact ⟨s, ensureDirectory_of_directory hs hl hshort hnul (by rw [hnil, get?_root])⟩
  | depth + 1, s, l, hs, hl, hshort, hnul, hopen, hlen => by
      rw [ensureUpTo]
      rcases hopen l (List.prefix_refl l) with hnone | hdir
      · have hne : l ≠ [] := fun hnil => by simp [hnil] at hnone
        by_cases hup : s.get? l.dropLast = some .directory
        · rw [makeDirectory, find_of_free hs hl hshort hne hup hnone]
          exact ⟨_, ensureDirectory_of_free hs hl hshort hne hup hnone⟩
        · -- the directory above is missing and is made first
          have hl' : ".." ∉ l.dropLast := fun hm => hl (List.dropLast_subset _ hm)
          have hfind : s.find here (Location.path l) false = .error .noEntry := by
            rcases find_of_open hs hl hshort hopen with ⟨spot, _, hshow⟩ | ⟨hfind, _⟩
            · cases spot with
              | taken m e => simp [Shows, hnone] at hshow
              | free m => exact absurd hshow.2.2.2 hup
            · exact hfind
          have hlen' : l.dropLast.length ≤ depth := by
            rw [List.length_dropLast]
            omega
          obtain ⟨made, hmade⟩ := ensureUpTo_of_open here depth hs hl' hshort.dropLast
            (Location.holdsNul_dropLast hnul) hopen.dropLast hlen'
          have hopens := ensureUpTo_opens here depth hs hl' hmade
          rw [makeDirectory, hfind]
          dsimp only
          rw [show (Location.path l).parent = Location.path l.dropLast from rfl, hmade]
          refine ⟨_, ensureDirectory_of_free hopens.tree hl hshort hne hopens.directory ?_⟩
          rw [hopens.view, View.opened_dropLast_self hne, hnone]
      · rw [makeDirectory, find_of_some hs hl hshort hdir]
        exact ⟨s, ensureDirectory_of_directory hs hl hshort hnul hdir⟩

/-- Directories can be made down to a location if the way there is open. -/
theorem ensureDirectories_of_open (here : Location) (hs : s.Tree) (hl : ".." ∉ l)
    (hshort : l.Short) (hnul : (Location.path l).holdsNul = false) (hopen : View.Open s.get? l) :
    ∃ t, s.ensureDirectories here (Location.path l) = (t, none) :=
  ensureUpTo_of_open here _ hs hl hshort hnul hopen (Nat.le_refl _)

/-- Nothing is made down to a directory that is there. -/
theorem ensureDirectories_of_directory (here : Location) (hs : s.Tree) (hl : ".." ∉ l)
    (hshort : l.Short) (hnul : (Location.path l).holdsNul = false)
    (h : s.get? l = some .directory) :
    s.ensureDirectories here (Location.path l) = (s, none) := by
  have hmade : s.ensureDirectory here (Location.path l) = (s, none) :=
    ensureDirectory_of_directory hs hl hshort hnul h
  rw [ensureDirectories]
  cases (Location.path l).parts.length with
  | zero => exact hmade
  | succ depth =>
      rw [ensureUpTo, makeDirectory, find_of_some hs hl hshort h]
      exact hmade

/-- The way to a directory of a tree is open. -/
theorem Tree.open_of_directory (hs : s.Tree) (h : s.get? l = some .directory) :
    View.Open s.get? l := by
  intro m hm
  by_cases he : m = l
  · exact Or.inr (he ▸ h)
  · exact Or.inr (hs.directory_above h hm he)

end Store

end Dossier
