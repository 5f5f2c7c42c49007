import Dossier.Proofs.Store.Tree

/-!
# Finding in a tree

Where the path of a location leads in a tree: to the location itself, if the
path and its names are not too long and the way there is open
(`find_ok_iff`).  If they are too long the call is refused for that; any other
refusal says that nothing is there (`find_error`).

A file that is put is found again along the path that led to its place (`find_put`).
This holds for every path, also one that has two dots in it or leads through links.
-/

namespace Dossier

/-- The bytes of names. -/
def namesSize (names : List String) : Nat := names.foldr (fun name n => name.utf8ByteSize + n) 0

theorem namesSize_append (names names' : List String) :
    namesSize (names ++ names') = namesSize names + namesSize names' := by
  induction names with
  | nil => exact (Nat.zero_add _).symm
  | cons name rest ih =>
      show name.utf8ByteSize + namesSize (rest ++ names') = _
      rw [ih, ← Nat.add_assoc]
      rfl

/-- Between names there are slashes. -/
theorem size_intercalate : ∀ names : List String,
    ("/".intercalate names).utf8ByteSize = namesSize names + (names.length - 1)
  | [] => rfl
  | [name] => by rw [String.intercalate_singleton]; rfl
  | name :: next :: rest => by
      have hslash : "/".utf8ByteSize = 1 := by decide
      have hsize : namesSize (name :: next :: rest) =
          name.utf8ByteSize + namesSize (next :: rest) := rfl
      rw [String.intercalate_cons_cons, String.utf8ByteSize_append, String.utf8ByteSize_append,
        size_intercalate, hsize]
      simp only [List.length_cons]
      omega

/-- Names without the last of them are no longer. -/
theorem size_intercalate_dropLast (names : List String) :
    ("/".intercalate names.dropLast).utf8ByteSize ≤ ("/".intercalate names).utf8ByteSize := by
  by_cases hnames : names = []
  · subst hnames
    exact Nat.le_refl _
  · have hsize := namesSize_append names.dropLast [names.getLast hnames]
    rw [List.dropLast_concat_getLast hnames] at hsize
    rw [size_intercalate, size_intercalate, List.length_dropLast]
    omega

/-- A location whose path, and every name in it, is short enough for a call. -/
def Location.Short (l : Location) : Prop :=
  (Location.path l).text.utf8ByteSize < Store.maxPath ∧
    ∀ name ∈ l, name.utf8ByteSize ≤ Store.maxName

namespace Store

/-- A spot is what a store shows at a location: what lies there, or a free place
in a directory. -/
def Shows (s : Store) (l : Location) : Spot → Prop
  | .taken m e => m = l ∧ s.get? l = some e
  | .free m => m = l ∧ s.get? l = none ∧ l ≠ [] ∧ s.get? l.dropLast = some .directory

variable {s : Store} {follow : Bool} {here l : Location} {names : List String}

/-! ## Strides without links -/

theorem stride_nil (s : Store) (follow : Bool) (here : Location) :
    s.stride follow here [] = match s.get? here with
      | some e => .arrived (.taken here e)
      | none => .refused .noEntry := rfl

theorem stride_cons_of_not_directory (follow : Bool) (name : String) (rest : List String)
    (h : s.get? here ≠ some .directory) :
    ∃ e, s.stride follow here (name :: rest) = .refused e ∧ (e = .noEntry ∨ e = .notDirectory) := by
  cases hh : s.get? here with
  | none => exact ⟨.noEntry, by rw [stride]; simp only [hh], Or.inl rfl⟩
  | some e =>
      cases e with
      | directory => exact absurd hh h
      | file c => exact ⟨.notDirectory, by rw [stride]; simp only [hh], Or.inr rfl⟩
      | link target => exact ⟨.notDirectory, by rw [stride]; simp only [hh], Or.inr rfl⟩

/-- One step of a stride that goes down from a directory. -/
theorem stride_cons_of_short (follow : Bool) {name : String} (rest : List String) (hs : s.LinkFree)
    (hh : s.get? here = some .directory) (hdots : name ≠ "..")
    (hshort : name.utf8ByteSize ≤ maxName) :
    s.stride follow here (name :: rest) =
      if s.get? (here ++ [name]) = none then
        if rest = [] then .arrived (.free (here ++ [name])) else .refused .noEntry
      else s.stride follow (here ++ [name]) rest := by
  rw [stride]
  simp only [hh, if_neg hdots, if_neg (Nat.not_lt.mpr hshort)]
  cases hn : s.get? (here ++ [name]) with
  | none => simp
  | some e =>
      cases e with
      | directory => simp
      | file c => simp
      | link target => exact absurd hn (hs _ target)

theorem stride_cons_of_long {name : String} {rest : List String}
    (hh : s.get? here = some .directory) (hdots : name ≠ "..")
    (hlong : maxName < name.utf8ByteSize) :
    s.stride follow here (name :: rest) = .refused .nameTooLong := by
  rw [stride]
  simp only [hh, if_neg hdots, if_pos hlong]

/-- A stride in a tree along short names arrives at what is there or at a free
place in a directory, or else is refused since nothing is there. -/
theorem stride_of_short (follow : Bool) (hs : s.Tree) :
    ∀ {names : List String} {here : Location}, ".." ∉ names →
      (∀ name ∈ names, name.utf8ByteSize ≤ maxName) → s.get? here = some .directory →
      (∃ spot, s.stride follow here names = .arrived spot ∧ s.Shows (here ++ names) spot) ∨
        (∃ e, s.stride follow here names = .refused e ∧ isAbsence e = true ∧
          s.get? (here ++ names) = none ∧ s.get? (here ++ names).dropLast ≠ some .directory)
  | [], here, _, _, hh => by
      refine Or.inl ⟨.taken here .directory, ?_, ?_⟩
      · rw [stride_nil, hh]
      · exact ⟨by simp, by simpa using hh⟩
  | name :: rest, here, hdots, hshort, hh => by
      rw [List.mem_cons, not_or] at hdots
      have hstep := stride_cons_of_short follow rest hs.linkFree hh
        (Ne.symm hdots.1) (hshort name (List.mem_cons_self ..))
      have hassoc : here ++ name :: rest = here ++ [name] ++ rest := by simp
      rw [hstep, hassoc]
      by_cases hnone : s.get? (here ++ [name]) = none
      · rw [if_pos hnone]
        by_cases hrest : rest = []
        · subst hrest
          refine Or.inl ⟨.free (here ++ [name]), by simp, ?_⟩
          refine ⟨by simp, by simpa using hnone, by simp, ?_⟩
          simpa using hh
        · refine Or.inr ⟨.noEntry, by rw [if_neg hrest], rfl, ?_, ?_⟩
          · exact hs.none_below (by simp [hnone]) (List.prefix_append ..) (by simpa using hrest)
          · exact hs.no_directory_below (by simp [hnone]) (List.prefix_append ..)
              (by simpa using hrest)
      · rw [if_neg hnone]
        cases hn : s.get? (here ++ [name]) with
        | none => exact absurd hn hnone
        | some e =>
            by_cases hdir : e = .directory
            · subst hdir
              exact stride_of_short follow hs hdots.2
                (fun n hmem => hshort n (List.mem_cons_of_mem _ hmem)) hn
            · cases rest with
              | nil =>
                  refine Or.inl ⟨.taken (here ++ [name]) e, by rw [stride_nil, hn], ?_⟩
                  exact ⟨by simp, by simpa using hn⟩
              | cons next rest =>
                  have hnd : s.get? (here ++ [name]) ≠ some .directory := by
                    rw [hn]
                    exact fun h => hdir (Option.some.inj h)
                  obtain ⟨err, herr, hwhich⟩ := stride_cons_of_not_directory follow next rest hnd
                  refine Or.inr ⟨err, herr, by rcases hwhich with rfl | rfl <;> rfl, ?_, ?_⟩
                  · exact hs.none_below hnd (List.prefix_append ..) (by simp)
                  · exact hs.no_directory_below hnd (List.prefix_append ..) (by simp)

/-- A stride in a tree along names that are not all short does not arrive. -/
theorem stride_of_long (follow : Bool) (hs : s.Tree) :
    ∀ {names : List String} {here : Location}, ".." ∉ names →
      (∃ name ∈ names, maxName < name.utf8ByteSize) → s.get? here = some .directory →
      ∃ e, s.stride follow here names = .refused e ∧
        (e = .nameTooLong ∨ isAbsence e = true ∧ s.get? (here ++ names) = none)
  | [], _, _, hlong, _ => by simp at hlong
  | name :: rest, here, hdots, hlong, hh => by
      rw [List.mem_cons, not_or] at hdots
      by_cases hname : maxName < name.utf8ByteSize
      · exact ⟨.nameTooLong, stride_cons_of_long hh (Ne.symm hdots.1) hname, Or.inl rfl⟩
      · have hlater : ∃ n ∈ rest, maxName < n.utf8ByteSize := by
          obtain ⟨n, hn, hlt⟩ := hlong
          cases List.mem_cons.mp hn with
          | inl he => exact absurd (he ▸ hlt) hname
          | inr hr => exact ⟨n, hr, hlt⟩
        have hrest : rest ≠ [] := by
          obtain ⟨n, hn, _⟩ := hlater
          exact List.ne_nil_of_mem hn
        have hstep := stride_cons_of_short follow rest hs.linkFree hh
          (Ne.symm hdots.1) (Nat.not_lt.mp hname)
        have hassoc : here ++ name :: rest = here ++ [name] ++ rest := by simp
        rw [hstep, hassoc]
        by_cases hdir : s.get? (here ++ [name]) = some .directory
        · rw [if_neg (by simp [hdir])]
          exact stride_of_long follow hs hdots.2 hlater hdir
        · have hnone := hs.none_below hdir (List.prefix_append _ rest) (by simpa using hrest)
          by_cases hn : s.get? (here ++ [name]) = none
          · rw [if_pos hn, if_neg hrest]
            exact ⟨.noEntry, rfl, Or.inr ⟨rfl, hnone⟩⟩
          · rw [if_neg hn]
            obtain ⟨next, tail, rfl⟩ := List.exists_cons_of_ne_nil hrest
            obtain ⟨err, herr, hwhich⟩ := stride_cons_of_not_directory follow next tail hdir
            refine ⟨err, herr, Or.inr ⟨?_, hnone⟩⟩
            rcases hwhich with rfl | rfl <;> rfl

/-! ## Finding -/

theorem walk_of_arrived {links : Nat} {spot : Spot}
    (h : s.stride follow here names = .arrived spot) :
    s.walk follow links here names = .ok spot := by
  rw [walk, h]

theorem walk_of_refused {links : Nat} {e : Errno}
    (h : s.stride follow here names = .refused e) :
    s.walk follow links here names = .error e := by
  rw [walk, h]

theorem find_path (s : Store) (here l : Location) (follow : Bool) :
    s.find here (Location.path l) follow =
      if maxPath ≤ (Location.path l).text.utf8ByteSize then .error .nameTooLong
      else s.walk follow maxLinks [] l := rfl

/-- The path of a location leads to what the store shows there. -/
theorem find_ok_iff (hs : s.Tree) (hl : ".." ∉ l) {spot : Spot} :
    s.find here (Location.path l) follow = .ok spot ↔ l.Short ∧ s.Shows l spot := by
  rw [find_path]
  by_cases hlen : maxPath ≤ (Location.path l).text.utf8ByteSize
  · rw [if_pos hlen]
    simp [Location.Short, Nat.not_lt.mpr hlen]
  · rw [if_neg hlen]
    by_cases hshort : ∀ name ∈ l, name.utf8ByteSize ≤ maxName
    · have hl' : l.Short := ⟨Nat.not_le.mp hlen, hshort⟩
      rcases stride_of_short follow hs hl hshort s.get?_root with
        ⟨found, hstride, hshow⟩ | ⟨e, hstride, _, hnone, hdir⟩
      · rw [walk_of_arrived hstride]
        rw [List.nil_append] at hshow
        constructor
        · intro he
          cases he
          exact ⟨hl', hshow⟩
        · rintro ⟨_, hshow'⟩
          cases found <;> cases spot <;> simp_all [Shows]
      · rw [walk_of_refused hstride]
        rw [List.nil_append] at hnone hdir
        constructor
        · intro he
          cases he
        · rintro ⟨_, hshow⟩
          cases spot with
          | taken m e' => simp [Shows, hnone] at hshow
          | free m => exact absurd hshow.2.2.2 hdir
    · have hlong : ∃ name ∈ l, maxName < name.utf8ByteSize := by
        simpa using hshort
      obtain ⟨e, hstride, _⟩ := stride_of_long follow hs hl hlong s.get?_root
      rw [walk_of_refused hstride]
      simp [Location.Short, hshort]

/-- A path that is refused is too long, or nothing is there. -/
theorem find_error (hs : s.Tree) (hl : ".." ∉ l) {e : Errno}
    (h : s.find here (Location.path l) follow = .error e) :
    e = .nameTooLong ∨ isAbsence e = true ∧ s.get? l = none := by
  rw [find_path] at h
  split at h
  · cases h
    exact Or.inl rfl
  · by_cases hshort : ∀ name ∈ l, name.utf8ByteSize ≤ maxName
    · rcases stride_of_short follow hs hl hshort s.get?_root with
        ⟨found, hstride, _⟩ | ⟨e', hstride, habs, hnone, _⟩
      · rw [walk_of_arrived hstride] at h
        cases h
      · rw [walk_of_refused hstride] at h
        cases h
        exact Or.inr ⟨habs, hnone⟩
    · have hlong : ∃ name ∈ l, maxName < name.utf8ByteSize := by
        simpa using hshort
      obtain ⟨e', hstride, hwhich⟩ := stride_of_long follow hs hl hlong s.get?_root
      rw [walk_of_refused hstride] at h
      cases h
      exact hwhich

/-! ## Other paths -/

end Store

/-- The location that a path leads to where nothing is a link. -/
def Path.location (here : Location) (p : Path) : Location :=
  p.parts.foldl Store.step (Store.startOf here p)

/-- The location that a spot is about. -/
def Spot.location : Spot → Location
  | .taken l _ => l
  | .free l => l

/-- What is at a spot once a file is put at a location. -/
def Spot.afterPut (l : Location) (c : Content) (spot : Spot) : Spot :=
  if spot.location = l then .taken l (.file c) else spot

namespace Store

variable {s t : Store} {follow : Bool} {here l : Location} {p : Path}

theorem foldl_step_of_plain {names : List String} (here : Location) (h : ".." ∉ names) :
    names.foldl step here = here ++ names := by
  induction names generalizing here with
  | nil => simp
  | cons name rest ih =>
      rw [List.mem_cons, not_or] at h
      rw [List.foldl_cons, step, if_neg (Ne.symm h.1), ih _ h.2]
      simp

theorem foldl_step_plain {names : List String} (h : ".." ∉ here) :
    ".." ∉ names.foldl step here := by
  induction names generalizing here with
  | nil => exact h
  | cons name rest ih =>
      rw [List.foldl_cons]
      refine ih ?_
      rw [step]
      split
      · exact fun hm => h (List.dropLast_subset _ hm)
      · rename_i hname
        simp [h, Ne.symm hname]

/-- The path of a location leads to it. -/
theorem location_path (here : Location) (hl : ".." ∉ l) : (Location.path l).location here = l := by
  rw [Path.location]
  exact (foldl_step_of_plain [] hl).trans (List.nil_append l)

theorem expand_of_linkFree (hs : s.LinkFree) (depth : Nat) (opened : List Location)
    (here : Location) (names : List String) :
    s.expand (depth + 1) opened here names = .ok (names.foldl step here) := by
  rw [expand]
  induction names generalizing here with
  | nil => rfl
  | cons name rest ih =>
      rw [List.foldl_cons, List.foldl_cons]
      by_cases hdots : name = ".."
      · rw [step, if_pos hdots]
        simp only [if_pos hdots]
        exact ih _
      · rw [step, if_neg hdots]
        simp only [if_neg hdots]
        cases hget : s.get? (here ++ [name]) with
        | none => exact ih _
        | some e =>
            cases e with
            | link target => exact absurd hget (hs _ target)
            | directory => exact ih _
            | file c => exact ih _

/-- Without links a path stands for the location it leads to. -/
theorem resolve_of_linkFree (hs : s.LinkFree) (here : Location) (p : Path) :
    s.resolve here p = .ok (p.location here) := by
  rw [resolve, expand_of_linkFree hs]
  rfl

/-- A stride between links arrives where its names say. -/
theorem stride_arrived (hs : s.Tree) :
    ∀ {names : List String} {here : Location} {spot : Spot},
      s.stride follow here names = .arrived spot → s.Shows (names.foldl step here) spot
  | [], here, spot, h => by
      rw [stride_nil] at h
      cases hh : s.get? here with
      | none => simp [hh] at h
      | some e =>
          rw [hh] at h
          cases h
          exact ⟨rfl, hh⟩
  | name :: rest, here, spot, h => by
      rw [List.foldl_cons]
      by_cases hh : s.get? here = some .directory
      · by_cases hdots : name = ".."
        · rw [stride] at h
          simp only [hh, if_pos hdots] at h
          rw [step, if_pos hdots]
          exact stride_arrived hs h
        · rw [step, if_neg hdots]
          by_cases hshort : name.utf8ByteSize ≤ maxName
          · rw [stride_cons_of_short follow rest hs.linkFree hh hdots hshort] at h
            split at h
            · rename_i hnone
              split at h
              · rename_i hrest
                cases h
                subst hrest
                exact ⟨rfl, hnone, by simp, by simpa using hh⟩
              · cases h
            · exact stride_arrived hs h
          · rw [stride_cons_of_long hh hdots (Nat.not_le.mp hshort)] at h
            cases h
      · obtain ⟨e, he, _⟩ := stride_cons_of_not_directory follow name rest hh
        rw [he] at h
        cases h

/-- There are no detours without links. -/
theorem stride_ne_detour (hs : s.LinkFree) :
    ∀ {names : List String} {here there : Location} {target : String} {rest : List String},
      s.stride follow here names ≠ .detour there target rest
  | [], here, _, _, _ => by
      rw [stride_nil]
      split <;> simp
  | name :: rest, here, there, target, rest' => by
      by_cases hh : s.get? here = some .directory
      · by_cases hdots : name = ".."
        · rw [stride]
          simp only [hh, if_pos hdots]
          exact stride_ne_detour hs
        · by_cases hshort : name.utf8ByteSize ≤ maxName
          · rw [stride_cons_of_short follow rest hs hh hdots hshort]
            split
            · split <;> simp
            · exact stride_ne_detour hs
          · rw [stride_cons_of_long hh hdots (Nat.not_le.mp hshort)]
            simp
      · obtain ⟨e, he, _⟩ := stride_cons_of_not_directory follow name rest hh
        rw [he]
        simp

/-- Without links it makes no difference whether they are followed. -/
theorem stride_unfollowed (hs : s.LinkFree) : ∀ (names : List String) (here : Location),
    s.stride follow here names = s.stride true here names
  | [], _ => rfl
  | name :: rest, here => by
      rw [stride, stride]
      simp only [stride_unfollowed hs rest]
      cases hname : s.get? (here ++ [name]) with
      | none => rfl
      | some e =>
          cases e with
          | link target => exact absurd hname (hs _ target)
          | directory => rfl
          | file c => rfl

theorem find_unfollowed (hs : s.LinkFree) (here : Location) (p : Path) :
    s.find here p follow = s.find here p true := by
  rw [find, find]
  split
  · rfl
  · have hsame : s.stride follow (startOf here p) p.parts = _ := stride_unfollowed hs _ _
    cases hstride : s.stride true (startOf here p) p.parts with
    | arrived spot => rw [walk_of_arrived hstride, walk_of_arrived (hsame.trans hstride)]
    | refused e => rw [walk_of_refused hstride, walk_of_refused (hsame.trans hstride)]
    | detour => exact absurd hstride (stride_ne_detour hs)

theorem walk_ok (hs : s.LinkFree) {links : Nat} {names : List String} {spot : Spot}
    (h : s.walk follow links here names = .ok spot) :
    s.stride follow here names = .arrived spot := by
  rw [walk] at h
  cases hstride : s.stride follow here names with
  | arrived found =>
      rw [hstride] at h
      cases h
      rfl
  | refused e =>
      rw [hstride] at h
      cases h
  | detour there target rest => exact absurd hstride (stride_ne_detour hs)

theorem find_ok_stride (hs : s.LinkFree) {spot : Spot} (h : s.find here p follow = .ok spot) :
    ¬ maxPath ≤ p.text.utf8ByteSize ∧
      s.stride follow (startOf here p) p.parts = .arrived spot := by
  rw [find] at h
  split at h
  · cases h
  · exact ⟨‹_›, walk_ok hs h⟩

/-- A path leads to what the store shows at its location. -/
theorem find_ok (hs : s.Tree) {spot : Spot} (h : s.find here p follow = .ok spot) :
    s.Shows (p.location here) spot :=
  stride_arrived hs (find_ok_stride hs.linkFree h).2

/-! ## Once a file is put -/

/-- How a stride ends once a file is put at a location. -/
def Stride.afterPut (l : Location) (c : Content) : Stride → Stride
  | .arrived spot => .arrived (spot.afterPut l c)
  | stride => stride

section Put

variable {c : Content} (hl : l ≠ []) (hfree : s.get? l ≠ some .directory)
  (hlink : ∀ target, s.get? l ≠ some (.link target))
include hl hfree hlink

/-- A stride that is not refused ends where it did once a file is put where no directory and no
link is, at the file if it ended there. -/
theorem stride_put :
    ∀ {names : List String} {here : Location} {stride : Stride},
      s.stride follow here names = stride → (∀ e, stride ≠ .refused e) →
      (s.put l (.file c)).stride follow here names = stride.afterPut l c
  | [], here, stride, h, hway => by
      rw [stride_nil] at h
      cases hh : s.get? here with
      | none =>
          rw [hh] at h
          exact absurd h.symm (hway _)
      | some e =>
          rw [hh] at h
          subst h
          rw [stride_nil, get?_put s l here _ hl, Stride.afterPut, Spot.afterPut, Spot.location]
          by_cases hhere : here = l
          · rw [if_pos hhere, if_pos hhere, hhere]
          · rw [if_neg hhere, if_neg hhere, hh]
  | name :: rest, here, stride, h, hway => by
      by_cases hh : s.get? here = some .directory
      · have hne : here ≠ l := fun he => hfree (he ▸ hh)
        have hh' : (s.put l (.file c)).get? here = some .directory := by
          rw [get?_put s l here _ hl, if_neg hne, hh]
        rw [Store.stride] at h ⊢
        simp only [hh, hh'] at h ⊢
        split at h
        · rw [if_pos ‹_›]
          exact stride_put h hway
        · rw [if_neg ‹_›]
          split at h
          · exact absurd h.symm (hway _)
          · rw [if_neg ‹_›, get?_put s l (here ++ [name]) _ hl]
            by_cases hname : here ++ [name] = l
            · -- the file is in the way, so it is where the stride arrives
              rw [if_pos hname]
              split at h
              · split at h
                · rename_i hrest
                  subst h hrest
                  rw [stride_nil, get?_put s l _ _ hl, if_pos hname, Stride.afterPut,
                    Spot.afterPut, Spot.location, if_pos hname, hname]
                · exact absurd h.symm (hway _)
              · rename_i hget
                exact absurd (hname ▸ hget) (hlink _)
              · exact stride_put h hway
            · rw [if_neg hname]
              split at h
              · split at h
                · subst h
                  rw [if_pos ‹_›, Stride.afterPut, Spot.afterPut, Spot.location, if_neg hname]
                · exact absurd h.symm (hway _)
              · split at h
                · subst h
                  rw [if_pos ‹_›, Stride.afterPut, Spot.afterPut, Spot.location, if_neg hname]
                · subst h
                  rw [if_neg ‹_›, Stride.afterPut]
                  nofun
              · exact stride_put h hway
      · obtain ⟨e, he, _⟩ := stride_cons_of_not_directory follow name rest hh
        exact absurd (he.symm.trans h).symm (hway _)

theorem walk_put {links : Nat} {spot : Spot} : ∀ {names : List String} {here : Location},
    s.walk follow links here names = .ok spot →
      (s.put l (.file c)).walk follow links here names = .ok (spot.afterPut l c) := by
  have harrives : ∀ {names here}, s.stride follow here names = .arrived spot →
      (s.put l (.file c)).stride follow here names = .arrived (spot.afterPut l c) :=
    fun hstride => stride_put hl hfree hlink hstride nofun
  induction links with
  | zero =>
      intro names here h
      rw [walk] at h
      split at h <;> cases h
      exact walk_of_arrived (harrives ‹_›)
  | succ links ih =>
      intro names here h
      rw [walk] at h
      split at h
      · cases h
        exact walk_of_arrived (harrives ‹_›)
      · cases h
      · rename_i hdetour
        rw [walk, stride_put hl hfree hlink hdetour nofun, Stride.afterPut]
        · exact ih h
        · nofun

/-- A path leads where it led once a file is put somewhere, to the file if it led there. -/
theorem find_afterPut {spot : Spot} (h : s.find here p follow = .ok spot) :
    (s.put l (.file c)).find here p follow = .ok (spot.afterPut l c) := by
  rw [find] at h ⊢
  split at h
  · cases h
  · rw [if_neg ‹_›]
    exact walk_put hl hfree hlink h

/-- A path leads to the file that was put where it led before. -/
theorem find_put {spot : Spot} (h : s.find here p follow = .ok spot) (hspot : spot.location = l) :
    (s.put l (.file c)).find here p follow = .ok (.taken l (.file c)) := by
  rw [find_afterPut hl hfree hlink h, Spot.afterPut, if_pos hspot]

end Put

/-! ## Stores that show the same -/

/-- Strides only ask what a store shows. -/
theorem stride_congr (h : s.get? = t.get?) (follow : Bool) :
    ∀ (here : Location) (names : List String),
      s.stride follow here names = t.stride follow here names
  | here, [] => by rw [stride_nil, stride_nil, h]
  | here, name :: rest => by
      rw [stride, stride, h]
      simp only [stride_congr h follow]

theorem walk_congr (h : s.get? = t.get?) (follow : Bool) :
    ∀ (links : Nat) (here : Location) (names : List String),
      s.walk follow links here names = t.walk follow links here names
  | 0, here, names => by rw [walk, walk, stride_congr h]
  | links + 1, here, names => by
      rw [walk, walk, stride_congr h]
      simp only [walk_congr h follow links]

/-- Finding only asks what a store shows. -/
theorem find_congr (h : s.get? = t.get?) (here : Location) (p : Path) (follow : Bool) :
    s.find here p follow = t.find here p follow := by
  rw [find, find, walk_congr h]

theorem stat_congr (h : s.get? = t.get?) (here : Location) (p : Path) :
    s.stat here p = t.stat here p := by
  rw [stat, stat, find_congr h]

/-! ## Stores with the same directories -/

/-- A stride to a directory starts in one. -/
theorem directory_of_stride (h : s.stride follow here names = .arrived (.taken l .directory)) :
    s.get? here = some .directory := by
  cases names with
  | nil =>
      rw [stride_nil] at h
      split at h <;> cases h
      assumption
  | cons name rest =>
      refine Decidable.byContradiction fun hhere => ?_
      obtain ⟨_, he, _⟩ := stride_cons_of_not_directory follow name rest hhere
      cases he.symm.trans h

section Directories

variable (hs : s.LinkFree) (ht : t.LinkFree)
  (hdir : ∀ m, s.get? m = some .directory → t.get? m = some .directory)
include hs ht hdir

/-- A stride to a directory comes through directories alone. -/
theorem stride_to_directory : ∀ {names : List String} {here : Location},
    s.stride follow here names = .arrived (.taken l .directory) →
      t.stride follow here names = .arrived (.taken l .directory)
  | [], here, h => by
      have hhere := directory_of_stride h
      rw [stride_nil, hhere] at h
      rw [stride_nil, hdir _ hhere, h]
  | name :: rest, here, h => by
      have hhere := directory_of_stride h
      by_cases hdots : name = ".."
      · rw [stride] at h ⊢
        simp only [hhere, hdir _ hhere, if_pos hdots] at h ⊢
        exact stride_to_directory h
      · by_cases hshort : name.utf8ByteSize ≤ maxName
        · rw [stride_cons_of_short follow rest hs hhere hdots hshort] at h
          rw [stride_cons_of_short follow rest ht (hdir _ hhere) hdots hshort]
          split at h
          · split at h <;> cases h
          · have hrest := stride_to_directory h
            rw [if_neg (by simp [directory_of_stride hrest]), hrest]
        · rw [stride_cons_of_long hhere hdots (Nat.not_le.mp hshort)] at h
          cases h

/-- A path that leads to a directory leads there wherever the directories are there. -/
theorem find_to_directory (h : s.find here p follow = .ok (.taken l .directory)) :
    t.find here p follow = .ok (.taken l .directory) := by
  obtain ⟨hshort, hstride⟩ := find_ok_stride hs h
  rw [find, if_neg hshort]
  exact walk_of_arrived (stride_to_directory hs ht hdir hstride)

end Directories

end Store

end Dossier
