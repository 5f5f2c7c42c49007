import Dossier.Proofs.Store.Calls
import Dossier.Proofs.Store.Links

/-!
# Stores that grow

A store *grows* if it goes on showing all that it shows, and no links are added.  A path that
leads somewhere leads there still, or to what was put there (`find_grown`).

A path can be followed in two parts: where its first names lead to a directory, the other
names are followed from there (`stride_append`, `walk_append`).  A directory that was just made
holds nothing, so nothing is found along a path through it.  That is why making the
directories above a path does not make anything where the path leads
(`ensureParent_staysFree`).

All this holds for paths through links as well.
-/

namespace Dossier

/-- What is at a spot once a store has changed. -/
def Spot.seenIn (t : Store) : Spot → Spot
  | .taken l e => .taken l e
  | .free l =>
    match t.get? l with
    | some e => .taken l e
    | none => .free l

/-- A path is that of its last name in its parent. -/
theorem Path.parent_extend (p : Path) (names : List String) :
    p.parent = p ∨ ∃ name ∈ p.parts, p.extend names = p.parent.extend (name :: names) := by
  by_cases hparts : p.parts = []
  · refine Or.inl ?_
    obtain ⟨anchor, parts⟩ := p
    obtain rfl : parts = [] := hparts
    rfl
  · refine Or.inr ⟨p.parts.getLast hparts, List.getLast_mem hparts, ?_⟩
    rw [extend, extend, parent, List.append_cons, List.dropLast_concat_getLast]

namespace Store

variable {s t u : Store} {follow : Bool} {here l m : Location} {names : List String} {e : Entry}
  {p : Path} {spot : Spot} {links : Nat}

/-! ## Growing -/

/-- A store has grown into another: all that it shows is still there, and there are no more
links. -/
structure GrowsInto (s t : Store) : Prop where
  /-- What was there is as it was. -/
  kept : ∀ {m e}, s.get? m = some e → t.get? m = some e
  /-- No links are added. -/
  plain : ∀ {m target}, t.get? m = some (.link target) → s.get? m = some (.link target)

namespace GrowsInto

theorem put (hfree : s.get? l = none) (he : ∀ target, e ≠ .link target) :
    GrowsInto s (s.put l e) := by
  have hl : l ≠ [] := by
    rintro rfl
    cases hfree.symm.trans s.get?_root
  refine ⟨fun {m f} hm => ?_, fun {m target} hm => ?_⟩
  · have hne : m ≠ l := by
      rintro rfl
      cases hfree.symm.trans hm
    rw [get?_put s l m e hl, if_neg hne, hm]
  · rw [get?_put s l m e hl] at hm
    split at hm
    · exact absurd (Option.some.inj hm) (he target)
    · exact hm

theorem put_directory (hfree : s.get? l = none) : GrowsInto s (s.put l .directory) :=
  .put hfree fun _ he => by cases he

end GrowsInto

/-! ## Paths in a store that has grown -/

/-- How a stride ends once a store has grown. -/
def Stride.seenIn (t : Store) : Stride → Stride
  | .arrived spot => .arrived (spot.seenIn t)
  | stride => stride

/-- A stride that is not refused and does not stop at a link ends where it did. -/
theorem stride_grown (h : GrowsInto s t) :
    ∀ {names : List String} {here : Location} {stride : Stride},
      s.stride follow here names = stride → (∀ e, stride ≠ .refused e) →
      (∀ l target, stride ≠ .arrived (.taken l (.link target))) →
      t.stride true here names = stride.seenIn t
  | [], here, stride, hstride, hway, _ => by
      rw [stride_nil] at hstride
      cases hh : s.get? here with
      | none =>
          rw [hh] at hstride
          exact absurd hstride.symm (hway _)
      | some e =>
          rw [hh] at hstride
          subst hstride
          rw [stride_nil, h.kept hh]
          rfl
  | name :: rest, here, stride, hstride, hway, hlink => by
      by_cases hh : s.get? here = some .directory
      · rw [Store.stride] at hstride
        rw [Store.stride]
        simp only [hh, h.kept hh] at hstride ⊢
        split at hstride
        · rw [if_pos ‹_›]
          exact stride_grown h hstride hway hlink
        · rw [if_neg ‹_›]
          split at hstride
          · exact absurd hstride.symm (hway _)
          · rw [if_neg ‹_›]
            cases hname : s.get? (here ++ [name]) with
            | none =>
                simp only [hname] at hstride
                split at hstride
                · -- a free place, which may be taken by now
                  rename_i hrest
                  subst hstride hrest
                  rw [Stride.seenIn, Spot.seenIn]
                  cases hnow : t.get? (here ++ [name]) with
                  | none => rfl
                  | some e =>
                      cases e with
                      | link target => cases hname.symm.trans (h.plain hnow)
                      | directory => simp only [stride_nil, hnow]
                      | file c => simp only [stride_nil, hnow]
                · exact absurd hstride.symm (hway _)
            | some e =>
                simp only [hname, h.kept hname] at hstride ⊢
                cases e with
                | link target =>
                    dsimp only at hstride ⊢
                    split at hstride
                    · exact absurd hstride.symm (hlink _ _)
                    · rw [if_neg (by simp), ← hstride]
                      rfl
                | directory => exact stride_grown h hstride hway hlink
                | file c => exact stride_grown h hstride hway hlink
      · obtain ⟨_, he, _⟩ := stride_cons_of_not_directory follow name rest hh
        exact absurd (he.symm.trans hstride).symm (hway _)

theorem walk_grown (h : GrowsInto s t) (hlink : ∀ l target, spot ≠ .taken l (.link target)) :
    ∀ {names : List String} {here : Location}, s.walk follow links here names = .ok spot →
      t.walk true links here names = .ok (spot.seenIn t) := by
  have harrives : ∀ {names here}, s.stride follow here names = .arrived spot →
      t.stride true here names = .arrived (spot.seenIn t) := fun hstride =>
    stride_grown h hstride (fun _ he => by cases he) fun l target he =>
      hlink l target (Stride.arrived.inj he)
  induction links with
  | zero =>
      intro names here hwalk
      rw [walk] at hwalk
      split at hwalk <;> cases hwalk
      exact walk_of_arrived (harrives ‹_›)
  | succ links ih =>
      intro names here hwalk
      rw [walk] at hwalk
      split at hwalk
      · cases hwalk
        exact walk_of_arrived (harrives ‹_›)
      · cases hwalk
      · rename_i hdetour
        rw [walk, stride_grown h hdetour (fun _ he => by cases he) fun _ _ he => by cases he]
        exact ih hwalk

/-- A path that leads somewhere, but not to a link, leads there once the store has grown. -/
theorem find_grown (h : GrowsInto s t) (hfind : s.find here p follow = .ok spot)
    (hlink : ∀ l target, spot ≠ .taken l (.link target)) :
    t.find here p true = .ok (spot.seenIn t) := by
  rw [find] at hfind ⊢
  split at hfind
  · cases hfind
  · rw [if_neg ‹_›]
    exact walk_grown h hlink hfind

/-- A directory that was made where a path led is where it leads. -/
theorem find_made (hfind : s.find here p false = .ok (.free l)) :
    (s.put l .directory).find here p true = .ok (.taken l .directory) := by
  obtain ⟨_, hfree, hl, _⟩ := find_shows hfind
  have hgrows : GrowsInto s (s.put l .directory) := .put_directory hfree
  have hmade : (s.put l .directory).get? l = some .directory := by
    rw [get?_put s l l _ hl, if_pos rfl]
  rw [find_grown hgrows hfind (fun _ _ he => by cases he), Spot.seenIn, hmade]

/-! ## Directories that are made -/

theorem find_of_hasDirectory (h : s.hasDirectory here p = .ok true) :
    ∃ l, s.find here p true = .ok (.taken l .directory) := by
  rw [hasDirectory, ask] at h
  split at h
  · cases h
  · rw [stat] at h
    cases hfind : s.find here p true with
    | error err =>
        rw [hfind] at h
        dsimp only at h
        split at h <;> cases h
    | ok spot =>
        rw [hfind] at h
        cases spot with
        | free m => simp [isAbsence] at h
        | taken m e =>
            cases e with
            | directory => exact ⟨m, rfl⟩
            | file c => cases h
            | link target => cases h

/-- A directory that is made, or that is there, is where its path leads. -/
theorem ensureDirectory_leads (h : (s.ensureDirectory here p).2 = none) :
    ∃ l, (s.ensureDirectory here p).1.find here p true = .ok (.taken l .directory) := by
  have hthere : ∀ err, s.unlessThere here p err = none →
      ∃ l, s.find here p true = .ok (.taken l .directory) := by
    intro err hu
    rw [unlessThere] at hu
    split at hu
    · exact find_of_hasDirectory ‹_›
    · cases hu
    · cases hu
  rw [ensureDirectory, makeDirectory] at h ⊢
  cases hfind : s.find here p false with
  | error err =>
      rw [hfind] at h
      cases err <;> first | cases h | exact hthere _ h
  | ok spot =>
      rw [hfind] at h
      cases spot with
      | taken m e => exact hthere _ h
      | free m => exact ⟨m, find_made hfind⟩

theorem ensureUpTo_leads (here : Location) : ∀ (depth : Nat) {s : Store} {p : Path},
    (s.ensureUpTo here depth p).2 = none →
      ∃ l, (s.ensureUpTo here depth p).1.find here p true = .ok (.taken l .directory)
  | 0, _, _, h => ensureDirectory_leads h
  | depth + 1, s, p, h => by
      rw [ensureUpTo] at h ⊢
      split at h
      · split at h
        · exact ensureDirectory_leads h
        · rename_i refused hnot
          exact (hnot _ (Prod.ext rfl h)).elim
      · exact ensureDirectory_leads h

/-- Directories that are made, or that are there, are where their path leads. -/
theorem ensureDirectories_leads (h : (s.ensureDirectories here p).2 = none) :
    ∃ l, (s.ensureDirectories here p).1.find here p true = .ok (.taken l .directory) :=
  ensureUpTo_leads here _ h

/-! ## Paths in two parts -/

/-- How a stride goes on with more names. -/
def Stride.andThen (s : Store) (follow : Bool) (names : List String) : Stride → Stride
  | .arrived (.taken l .directory) => s.stride follow l names
  | .arrived (.taken _ _) => .refused .notDirectory
  | .arrived (.free _) => .refused .noEntry
  | .detour there target rest => .detour there target (rest ++ names)
  | .refused e => .refused e

/-- A stride goes on from where its first names have led it. -/
theorem stride_append (s : Store) (follow : Bool) {more : List String} (hmore : more ≠ []) :
    ∀ (names : List String) (here : Location),
      s.stride follow here (names ++ more) = (s.stride true here names).andThen s follow more
  | [], here => by
      obtain ⟨name, rest, rfl⟩ := List.exists_cons_of_ne_nil hmore
      rw [stride_nil, List.nil_append]
      cases hh : s.get? here with
      | none => rw [stride, hh]; rfl
      | some e =>
          cases e with
          | directory => rfl
          | file c => rw [stride, hh]; rfl
          | link target => rw [stride, hh]; rfl
  | name :: rest, here => by
      rw [List.cons_append, stride, stride]
      cases hh : s.get? here with
      | none => rfl
      | some e =>
          cases e with
          | file c => rfl
          | link target => rfl
          | directory =>
              dsimp only
              by_cases hdots : name = ".."
              · rw [if_pos hdots, if_pos hdots]
                exact stride_append s follow hmore rest _
              · rw [if_neg hdots, if_neg hdots]
                by_cases hlong : maxName < name.utf8ByteSize
                · rw [if_pos hlong, if_pos hlong]
                  rfl
                · rw [if_neg hlong, if_neg hlong]
                  cases hname : s.get? (here ++ [name]) with
                  | none =>
                      dsimp only
                      rw [if_neg (by simp [hmore])]
                      split <;> rfl
                  | some f =>
                      cases f with
                      | link target =>
                          dsimp only
                          rw [if_neg (by simp [hmore]), if_neg (by simp)]
                          rfl
                      | directory => exact stride_append s follow hmore rest _
                      | file c => exact stride_append s follow hmore rest _

/-- Where the first names lead to a directory, the other names are followed from there, through
what links are left. -/
theorem walk_append : ∀ {names : List String} {here : Location},
    s.walk true links here names = .ok (.taken l .directory) →
      ∃ left, ∀ follow more, more ≠ [] →
        s.walk follow links here (names ++ more) = s.walk follow left l more := by
  have harrives : ∀ {links names here}, s.stride true here names = .arrived (.taken l .directory) →
      ∃ left, ∀ follow more, more ≠ [] →
        s.walk follow links here (names ++ more) = s.walk follow left l more := by
    intro links names here hstride
    refine ⟨links, fun follow more hmore => ?_⟩
    have hon : s.stride follow here (names ++ more) = s.stride follow l more := by
      rw [stride_append s follow hmore, hstride]
      rfl
    cases links <;> rw [walk, walk, hon]
  induction links with
  | zero =>
      intro names here hwalk
      rw [walk] at hwalk
      split at hwalk <;> cases hwalk
      exact harrives ‹_›
  | succ links ih =>
      intro names here hwalk
      rw [walk] at hwalk
      split at hwalk
      · cases hwalk
        exact harrives ‹_›
      · cases hwalk
      · rename_i hdetour
        obtain ⟨left, hleft⟩ := ih hwalk
        refine ⟨left, fun follow more hmore => ?_⟩
        rw [← hleft follow more hmore, walk, stride_append s follow hmore, hdetour]
        simp only [Stride.andThen, List.append_assoc]

/-- In a directory where a name is free, no path that begins with the name leads to anything. -/
theorem walk_free (hdir : s.get? l = some .directory) {name : String} {rest : List String}
    (hdots : name ≠ "..") (hfree : s.get? (l ++ [name]) = none) :
    s.walk follow links l (name :: rest) =
      if maxName < name.utf8ByteSize then .error .nameTooLong
      else if rest = [] then .ok (.free (l ++ [name])) else .error .noEntry := by
  have hstride : s.stride follow l (name :: rest) =
      if maxName < name.utf8ByteSize then .refused .nameTooLong
      else if rest = [] then .arrived (.free (l ++ [name])) else .refused .noEntry := by
    rw [stride]
    simp only [hdir, if_neg hdots, hfree]
  by_cases hlong : maxName < name.utf8ByteSize
  · rw [if_pos hlong] at hstride ⊢
    exact walk_of_refused hstride
  · rw [if_neg hlong] at hstride ⊢
    by_cases hrest : rest = []
    · rw [if_pos hrest] at hstride ⊢
      exact walk_of_arrived hstride
    · rw [if_neg hrest] at hstride ⊢
      exact walk_of_refused hstride

/-- A directory of a file system lies below directories only. -/
theorem WellFormed.grounded (h : s.WellFormed) (hdir : s.get? l = some .directory) :
    s.Grounded l := by
  intro m hm
  by_cases he : m = l
  · rw [he, hdir]
  · exact h.directory_above hdir hm he

/-! ## Where nothing is -/

/-- What a path leads to is what it led to before, or else nothing. -/
def StaysFree (s t : Store) (here : Location) (p : Path) : Prop :=
  t.stat here p = s.stat here p ∨ t.stat here p = .error .noEntry ∨
    t.stat here p = .error .nameTooLong ∧ ∃ name ∈ p.parts, maxName < name.utf8ByteSize

theorem StaysFree.trans (h : StaysFree s t here p) (h' : StaysFree t u here p) :
    StaysFree s u here p := by
  rcases h' with h' | h' | h'
  · rw [StaysFree, h']
    exact h
  · exact Or.inr (Or.inl h')
  · exact Or.inr (Or.inr h')

/-- Nothing is found along a path through a directory that was just made. -/
theorem staysFree_put (hs : s.WellFormed) (hfind : s.find here p false = .ok (.free l))
    (hne : names ≠ []) (hdots : ".." ∉ names) :
    StaysFree s (s.put l .directory) here (p.extend names) := by
  obtain ⟨_, hfree, hl, hup⟩ := find_shows hfind
  have hfree : s.get? l = none := hfree
  obtain ⟨name, rest, rfl⟩ := List.exists_cons_of_ne_nil hne
  have hdir : (s.put l .directory).get? l = some .directory := by
    rw [get?_put s l l _ hl, if_pos rfl]
  -- nothing lies in a place that was free
  have hbelow : (s.put l .directory).get? (l ++ [name]) = none := by
    rw [get?_put s l _ _ hl, if_neg (by simp)]
    cases hget : s.get? (l ++ [name]) with
    | none => rfl
    | some e =>
        have := hs _ e hget
        rw [List.dropLast_concat, hfree] at this
        cases this
  have hmade := find_made hfind
  rw [find] at hmade
  split at hmade
  · cases hmade
  · obtain ⟨left, hleft⟩ := walk_append hmade
    have hwalk := hleft true (name :: rest) (List.cons_ne_nil _ _)
    rw [walk_free hdir (fun h => hdots (h ▸ List.mem_cons_self)) hbelow] at hwalk
    rw [StaysFree, stat, stat, find, find]
    by_cases hlong : maxPath ≤ (p.extend (name :: rest)).text.utf8ByteSize
    · exact Or.inl (by rw [if_pos hlong, if_pos hlong])
    · rw [if_neg hlong, show (p.extend (name :: rest)).parts = p.parts ++ name :: rest from rfl,
        show startOf here (p.extend (name :: rest)) = startOf here p from rfl, hwalk]
      by_cases hname : maxName < name.utf8ByteSize
      · have hpart : name ∈ (p.extend (name :: rest)).parts :=
          List.mem_append_right p.parts List.mem_cons_self
        exact Or.inr (Or.inr ⟨by rw [if_pos hname], name, hpart, hname⟩)
      · rw [if_neg hname]
        by_cases hrest : rest = []
        · exact Or.inr (Or.inl (by rw [if_pos hrest]))
        · exact Or.inr (Or.inl (by rw [if_neg hrest]))

theorem wellFormed_put (hs : s.WellFormed) (hfind : s.find here p false = .ok (.free l)) :
    (s.put l .directory).WellFormed := by
  obtain ⟨_, hfree, hl, hup⟩ := find_shows hfind
  have hfree : s.get? l = none := hfree
  have hup : s.get? l.dropLast = some .directory := hup
  have hgrown : GrowsInto s (s.put l .directory) := .put_directory hfree
  intro m e hm
  rw [get?_put s l m _ hl] at hm
  split at hm
  · rename_i hml
    rw [hml]
    exact hgrown.kept hup
  · exact hgrown.kept (hs m e hm)

theorem ensureDirectory_wellFormed (hs : s.WellFormed) (here : Location) (p : Path) :
    (s.ensureDirectory here p).1.WellFormed := by
  rw [ensureDirectory, makeDirectory]
  cases hfind : s.find here p false with
  | error e => cases e <;> exact hs
  | ok spot =>
      cases spot with
      | taken m e => exact hs
      | free m => exact wellFormed_put hs hfind

theorem ensureUpTo_wellFormed (here : Location) :
    ∀ (depth : Nat) {s : Store} {p : Path}, s.WellFormed →
      (s.ensureUpTo here depth p).1.WellFormed
  | 0, _, p, hs => ensureDirectory_wellFormed hs here p
  | depth + 1, s, p, hs => by
      rw [ensureUpTo]
      split
      · have hup : (s.ensureUpTo here depth p.parent).1.WellFormed :=
          ensureUpTo_wellFormed here depth hs
        split
        · rename_i made hmade
          rw [hmade] at hup
          exact ensureDirectory_wellFormed hup here p
        · exact hup
      · exact ensureDirectory_wellFormed hs here p

/-- Making directories, as far as that goes, leaves a file system. -/
theorem ensureDirectories_wellFormed (hs : s.WellFormed) (here : Location) (p : Path) :
    (s.ensureDirectories here p).1.WellFormed :=
  ensureUpTo_wellFormed here p.parts.length hs

theorem ensureDirectory_staysFree (hs : s.WellFormed) (hne : names ≠ []) (hdots : ".." ∉ names) :
    StaysFree s (s.ensureDirectory here p).1 here (p.extend names) := by
  rw [ensureDirectory, makeDirectory]
  cases hfind : s.find here p false with
  | error e => cases e <;> exact Or.inl rfl
  | ok spot =>
      cases spot with
      | taken m e => exact Or.inl rfl
      | free m => exact staysFree_put hs hfind hne hdots

/-- Making directories, as far as that goes, leaves nothing where longer paths lead to
nothing. -/
theorem ensureUpTo_staysFree (here : Location) :
    ∀ (depth : Nat) {s : Store} {p : Path} {names : List String}, s.WellFormed →
      ".." ∉ p.parts → names ≠ [] → ".." ∉ names →
      StaysFree s (s.ensureUpTo here depth p).1 here (p.extend names)
  | 0, _, _, _, hs, _, hne, hdots => ensureDirectory_staysFree hs hne hdots
  | depth + 1, s, p, names, hs, hp, hne, hdots => by
      rw [ensureUpTo]
      split
      · -- what is made above the directory first
        have hwell : (s.ensureUpTo here depth p.parent).1.WellFormed :=
          ensureUpTo_wellFormed here depth hs
        have hup : StaysFree s (s.ensureUpTo here depth p.parent).1 here (p.extend names) := by
          have hp' : ".." ∉ p.parent.parts := fun hm => hp (List.dropLast_subset _ hm)
          rcases p.parent_extend names with hsame | ⟨name, hname, hsplit⟩
          · rw [hsame]
            exact ensureUpTo_staysFree here depth hs hp hne hdots
          · have hlonger : ".." ∉ name :: names := by
              rw [List.mem_cons, not_or]
              exact ⟨fun he => hp (he ▸ hname), hdots⟩
            rw [hsplit]
            exact ensureUpTo_staysFree here depth hs hp' (List.cons_ne_nil name names) hlonger
        split
        · rename_i made hmade
          rw [hmade] at hwell hup
          exact hup.trans (ensureDirectory_staysFree (p := p) hwell hne hdots)
        · exact hup
      · exact ensureDirectory_staysFree hs hne hdots

/-- A path that leads to a free place has a name for it. -/
theorem parts_ne_nil_of_free (hfind : s.find here p follow = .ok (.free l)) : p.parts ≠ [] := by
  intro hparts
  rw [find, hparts] at hfind
  have hstride := stride_nil s follow (startOf here p)
  cases hh : s.get? (startOf here p) with
  | none =>
      rw [hh] at hstride
      rw [walk_of_refused hstride] at hfind
      split at hfind <;> cases hfind
  | some e =>
      rw [hh] at hstride
      rw [walk_of_arrived hstride] at hfind
      split at hfind <;> cases hfind

/-- Making the directories above a path, as far as that goes, makes nothing where it leads. -/
theorem ensureParent_staysFree (hs : s.WellFormed) (hp : ".." ∉ p.parts) (here : Location) :
    StaysFree s (s.ensureDirectories here p.parent).1 here p := by
  by_cases hparts : p.parts = []
  · -- there is no directory above
    have hnone : (s.ensureDirectories here p.parent).1 = s := by
      rw [ensureDirectories, Path.parent, hparts, List.dropLast_nil]
      show (s.ensureDirectory here ⟨p.anchor, []⟩).1 = s
      rw [ensureDirectory, makeDirectory]
      cases hfind : s.find here ⟨p.anchor, []⟩ false with
      | error e => cases e <;> rfl
      | ok spot =>
          cases spot with
          | taken m e => rfl
          | free m => exact absurd rfl (parts_ne_nil_of_free hfind)
    rw [hnone]
    exact Or.inl rfl
  · have hwhole : p = p.parent.extend [p.parts.getLast hparts] := by
      rw [Path.extend, Path.parent, List.dropLast_concat_getLast]
    have hlast : ".." ∉ [p.parts.getLast hparts] := by
      rw [List.mem_singleton]
      exact fun he => hp (he ▸ List.getLast_mem hparts)
    have hup : ".." ∉ p.parent.parts := fun hm => hp (List.dropLast_subset _ hm)
    have hfree := ensureUpTo_staysFree here p.parent.parts.length hs hup (List.cons_ne_nil _ [])
      hlast
    rwa [← hwhole] at hfree

/-- Where something lies or not is asked by what lies there. -/
theorem hasEntry_of_stat (h : t.stat here p = s.stat here p) :
    t.hasEntry here p = s.hasEntry here p := by rw [hasEntry, hasEntry, ask, ask, h]

theorem hasEntry_of_error {err : Errno} (h : s.stat here p = .error err) :
    s.hasEntry here p ≠ .ok true := by
  rw [hasEntry, ask]
  split
  · simp
  · rw [h]
    dsimp only
    split <;> simp

/-- Where nothing is, nothing is after the directories above were made; and it can be asked for,
if its names are not too long. -/
theorem StaysFree.hasEntry (h : StaysFree s t here p) (hnone : s.hasEntry here p = .ok false) :
    t.hasEntry here p ≠ .ok true ∧
      ((∀ name ∈ p.parts, name.utf8ByteSize ≤ maxName) → t.hasEntry here p = .ok false) := by
  rcases h with h | h | ⟨h, name, hname, hlong⟩
  · rw [hasEntry_of_stat h, hnone]
    exact ⟨by simp, fun _ => rfl⟩
  · refine ⟨hasEntry_of_error h, fun _ => ?_⟩
    rw [Store.hasEntry, ask, h]
    split <;> rfl
  · exact ⟨hasEntry_of_error h, fun hshort => absurd hlong (Nat.not_lt.mpr (hshort name hname))⟩

/-- A path with names in it is followed from below directories only. -/
theorem grounded_of_find (hs : s.WellFormed) (hparts : p.parts ≠ []) {follow : Bool} {spot : Spot}
    (hfind : s.find here p follow = .ok spot) : s.Grounded (startOf here p) := by
  refine hs.grounded ?_
  obtain ⟨name, rest, hcons⟩ := List.exists_cons_of_ne_nil hparts
  by_cases hdir : s.get? (startOf here p) = some .directory
  · exact hdir
  · obtain ⟨_, hrefused, _⟩ := stride_cons_of_not_directory follow name rest hdir
    rw [find, hcons, walk_of_refused hrefused] at hfind
    split at hfind <;> cases hfind

/-- A file that is written is there, if something else is not where the program runs. -/
theorem hasEntry_of_write (hs : s.WellFormed) (hnul : p.holdsNul = false)
    (hfree : p.parts = [] → s.hasEntry here p ≠ .ok true) {c : Content}
    (h : s.write here p c = .ok t) : t.hasEntry here p = .ok true := by
  have hlink : ∀ spot, s.find here p true = .ok spot →
      ∀ target, s.get? spot.location ≠ some (.link target) := by
    intro spot hfind target hget
    by_cases hparts : p.parts = []
    · -- what the path leads to is there already
      cases spot with
      | free l => cases (find_shows hfind).2.1.symm.trans hget
      | taken l e =>
          apply hfree hparts
          rw [hasEntry, ask, if_neg (by simp [hnul]), stat, hfind]
    · exact find_ne_link (grounded_of_find hs hparts hfind) hfind target hget
  obtain ⟨l, hfind⟩ := find_of_write hlink h
  rw [hasEntry, ask, if_neg (by simp [hnul]), stat, hfind]

end Store

end Dossier
