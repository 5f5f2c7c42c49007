import Dossier.Proofs.Store.Find
import Dossier.Store.Calls

/-!
# Calls in a store with links

What can be said of a path that may lead through links.  If it leads anywhere, the store shows
what is there (`find_shows`), and if it does not, nothing is there or a name is too long
(`find_refused`).  So a file that is written is where the path of it led (`write_shows`), and
only a path that is too long cannot be asked for (`hasEntry_error`).

A path from the root never ends at a link, since every directory it comes through lies in
directories only.  So a file that is written along such a path has the size there that was
written (`sizeAt_of_write`).
-/

namespace Dossier.Store

variable {s t : Store} {follow : Bool} {here : Location} {p : Path} {e : Errno}

/-! ## Finding something -/

theorem stride_shows : ∀ {names : List String} {here : Location} {spot : Spot},
    s.stride follow here names = .arrived spot → s.Shows spot.location spot
  | [], here, spot, h => by
      rw [stride_nil] at h
      split at h <;> cases h
      exact ⟨rfl, ‹_›⟩
  | name :: rest, here, spot, h => by
      by_cases hh : s.get? here = some .directory
      · rw [stride] at h
        simp only [hh] at h
        split at h
        · exact stride_shows h
        · split at h
          · cases h
          · split at h
            · split at h <;> cases h
              exact ⟨rfl, ‹_›, by simp [Spot.location], by simp [Spot.location, hh]⟩
            · split at h <;> cases h
              exact ⟨rfl, ‹_›⟩
            · exact stride_shows h
      · obtain ⟨_, he, _⟩ := stride_cons_of_not_directory follow name rest hh
        rw [he] at h
        cases h

theorem walk_shows {links : Nat} {spot : Spot} : ∀ {names : List String} {here : Location},
    s.walk follow links here names = .ok spot → s.Shows spot.location spot := by
  induction links with
  | zero =>
      intro names here h
      rw [walk] at h
      split at h <;> cases h
      exact stride_shows ‹_›
  | succ links ih =>
      intro names here h
      rw [walk] at h
      split at h
      · cases h
        exact stride_shows ‹_›
      · cases h
      · exact ih h

theorem find_shows {spot : Spot} (h : s.find here p follow = .ok spot) :
    s.Shows spot.location spot := by
  rw [find] at h
  split at h
  · cases h
  · exact walk_shows h

/-- A file is written where its path leads, if no directory is there. -/
theorem write_inv {c : Content} (h : s.write here p c = .ok t) :
    ∃ spot, s.find here p true = .ok spot ∧ t = s.put spot.location (.file c) ∧
      spot.location ≠ [] ∧ s.get? spot.location ≠ some .directory := by
  rw [write, placeToWrite] at h
  cases hfind : s.find here p true with
  | error e =>
      rw [hfind] at h
      cases h
  | ok spot =>
      have hshows := find_shows hfind
      have hroot : ∀ l, s.get? l ≠ some .directory → l ≠ [] :=
        fun l hfree hnil => hfree (hnil ▸ s.get?_root)
      rw [hfind] at h
      cases spot with
      | free l =>
          cases h
          have hnone : s.get? l = none := hshows.2.1
          exact ⟨_, rfl, rfl, hshows.2.2.1, by simp [Spot.location, hnone]⟩
      | taken l e =>
          have hget : s.get? l = some e := hshows.2
          cases e with
          | directory => cases h
          | file _ | link _ =>
              have hfree : s.get? l ≠ some .directory := by simp [hget]
              cases h
              exact ⟨_, rfl, rfl, hroot l hfree, hfree⟩

/-- A location that is a directory, as all above it are. -/
def Grounded (s : Store) (here : Location) : Prop := ∀ l, l <+: here → s.get? l = some .directory

theorem grounded_root (s : Store) : s.Grounded [] := by
  intro l hl
  rw [List.prefix_nil.mp hl, get?_root]

theorem Grounded.dropLast (h : s.Grounded here) : s.Grounded here.dropLast :=
  fun l hl => h l (hl.trans (List.dropLast_prefix here))

theorem Grounded.child {name : String} (h : s.Grounded here)
    (hname : s.get? (here ++ [name]) = some .directory) : s.Grounded (here ++ [name]) := by
  intro l hl
  rcases List.prefix_concat_iff.mp hl with rfl | hl
  · exact hname
  · exact h l hl

/-- Where a stride ends that starts below directories only, if it follows links: not at a
link, or before one that lies below directories only. -/
def Stride.Settled (s : Store) : Stride → Prop
  | .arrived spot => ∀ target, s.get? spot.location ≠ some (.link target)
  | .detour there _ _ => s.Grounded there
  | .refused _ => True

theorem stride_settled : ∀ {names : List String} {here : Location}, s.Grounded here →
    (s.stride true here names).Settled s
  | [], here, hh => by
      have hdir := hh here (List.prefix_refl _)
      rw [stride_nil, hdir]
      simp [Stride.Settled, Spot.location, hdir]
  | name :: rest, here, hh => by
      have hdir := hh here (List.prefix_refl _)
      rw [stride]
      simp only [hdir]
      split
      · exact stride_settled hh.dropLast
      · split
        · trivial
        · cases hname : s.get? (here ++ [name]) with
          | none =>
              dsimp only
              split
              · simp [Stride.Settled, Spot.location, hname]
              · trivial
          | some e =>
              cases e with
              | directory => exact stride_settled (hh.child hname)
              | link target => simpa [Stride.Settled] using hh
              | file c =>
                  -- a file is arrived at, or it is in the way
                  cases rest with
                  | nil => simp [stride_nil, Stride.Settled, Spot.location, hname]
                  | cons next later =>
                      have hfile : s.get? (here ++ [name]) ≠ some .directory := by simp [hname]
                      obtain ⟨_, he, _⟩ := stride_cons_of_not_directory true next later hfile
                      simp [he, Stride.Settled]

theorem walk_ne_link {links : Nat} {spot : Spot} {target : String} :
    ∀ {names : List String} {here : Location}, s.Grounded here →
      s.walk true links here names = .ok spot → s.get? spot.location ≠ some (.link target) := by
  induction links with
  | zero =>
      intro names here hh h
      have hsettled := @stride_settled s names here hh
      rw [walk] at h
      split at h <;> cases h
      rename_i harrived
      rw [harrived] at hsettled
      exact hsettled target
  | succ links ih =>
      intro names here hh h
      have hsettled := @stride_settled s names here hh
      rw [walk] at h
      split at h
      · cases h
        rename_i harrived
        rw [harrived] at hsettled
        exact hsettled target
      · cases h
      · rename_i hdetour
        rw [hdetour] at hsettled
        refine ih ?_ h
        split
        · exact hsettled
        · exact s.grounded_root

/-- A path that is followed from below directories only does not end at a link. -/
theorem find_ne_link {spot : Spot} (hstart : s.Grounded (startOf here p))
    (hfind : s.find here p true = .ok spot) (target : String) :
    s.get? spot.location ≠ some (.link target) := by
  rw [find] at hfind
  split at hfind
  · cases hfind
  · exact walk_ne_link hstart hfind

/-- A file that is written is found where it was written, unless a link was there. -/
theorem find_of_write {c : Content}
    (hlink : ∀ spot, s.find here p true = .ok spot →
      ∀ target, s.get? spot.location ≠ some (.link target))
    (h : s.write here p c = .ok t) : ∃ l, t.find here p true = .ok (.taken l (.file c)) := by
  obtain ⟨spot, hfind, rfl, hne, hfree⟩ := write_inv h
  exact ⟨_, find_put hne hfree (hlink spot hfind) hfind rfl⟩

/-- A file that is written along a path from the root has its size there. -/
theorem sizeAt_of_write (hp : p.anchor ≠ .relative) {c : Content} (h : s.write here p c = .ok t) :
    t.sizeAt here p = .ok (Entry.file c).size := by
  have hroot : s.Grounded (startOf here p) := by simpa [startOf, hp] using s.grounded_root
  obtain ⟨l, hfind⟩ := find_of_write (fun _ => find_ne_link hroot) h
  rw [sizeAt, stat, hfind]
  rfl

/-! ## Finding nothing -/

theorem stride_refused : ∀ {names : List String} {here : Location},
    s.stride follow here names = .refused e → e = .nameTooLong ∨ isAbsence e = true
  | [], here, h => by
      rw [stride_nil] at h
      split at h <;> cases h
      exact Or.inr rfl
  | name :: rest, here, h => by
      by_cases hh : s.get? here = some .directory
      · rw [stride] at h
        simp only [hh] at h
        split at h
        · exact stride_refused h
        · split at h
          · cases h
            exact Or.inl rfl
          · split at h
            · split at h <;> cases h
              exact Or.inr rfl
            · split at h <;> cases h
            · exact stride_refused h
      · obtain ⟨_, he, rfl | rfl⟩ := stride_cons_of_not_directory follow name rest hh
        all_goals
          rw [he] at h
          cases h
          exact Or.inr rfl

theorem walk_refused {links : Nat} : ∀ {names : List String} {here : Location},
    s.walk follow links here names = .error e → e = .nameTooLong ∨ isAbsence e = true := by
  induction links with
  | zero =>
      intro names here h
      rw [walk] at h
      split at h <;> cases h
      · exact stride_refused ‹_›
      · exact Or.inr rfl
  | succ links ih =>
      intro names here h
      rw [walk] at h
      split at h
      · cases h
      · cases h
        exact stride_refused ‹_›
      · exact ih h

theorem find_refused (h : s.find here p follow = .error e) :
    e = .nameTooLong ∨ isAbsence e = true := by
  rw [find] at h
  split at h
  · cases h
    exact Or.inl rfl
  · exact walk_refused h

/-- A path that cannot be asked for is too long. -/
theorem ask_error {question : Entry → Bool} (h : s.ask here p question = .error e) :
    e = .nameTooLong := by
  rw [ask] at h
  split at h
  · cases h
  · rw [stat] at h
    cases hfind : s.find here p true with
    | ok spot =>
        rw [hfind] at h
        cases spot <;> cases h
    | error _ =>
        rw [hfind] at h
        dsimp only at h
        split at h
        · cases h
        · cases h
          exact (find_refused hfind).resolve_right ‹_›

end Dossier.Store
