import Dossier.Proofs.Store.Growth

/-!
# How paths end

A path whose parent leads to a directory ends in one of three ways (`Ends`): it leads to
something or to a free place, its last name is a link, or it is too long.  So a file along such
a path that cannot be removed, other than for not being there, is a directory, or its path is too
long (`Ends.unlink_error_iff`).  Then nothing could be written there either, and what was written
can be removed (`unlink_of_write`).

This holds in every file system, with or without links.
-/

namespace Dossier

/-- A path that, with every name in it, is short enough for a call. -/
def Path.Short (p : Path) : Prop :=
  p.text.utf8ByteSize < Store.maxPath ∧ ∀ name ∈ p.parts, name.utf8ByteSize ≤ Store.maxName

/-- The text of a path is as long as its anchor and its parts say. -/
theorem Path.size_text (p : Path) : p.text.utf8ByteSize =
    if p.anchor = .relative ∧ p.parts = [] then 1
    else (anchorText p.anchor).utf8ByteSize +
      (namesSize p.parts + (p.parts.length - 1)) := by
  rw [text]
  split
  · rfl
  · rw [String.utf8ByteSize_append, size_intercalate]

/-- The directory of a path that is short enough is written short enough. -/
theorem Path.text_parent_short {p : Path} (h : p.text.utf8ByteSize < Store.maxPath) :
    p.parent.text.utf8ByteSize < Store.maxPath := by
  by_cases hstart : p.parent.parts = []
  · -- where the path starts is written in two characters at most
    rw [size_text, hstart, show p.parent.anchor = p.anchor from rfl]
    cases p.anchor <;> decide
  · have hparts : p.parts ≠ [] := fun hnil => hstart (by rw [parent, hnil, List.dropLast_nil])
    refine Nat.lt_of_le_of_lt ?_ h
    rw [text, text, if_neg fun hdot => hstart hdot.2, if_neg fun hdot => hparts hdot.2,
      String.utf8ByteSize_append, String.utf8ByteSize_append]
    exact Nat.add_le_add_left (size_intercalate_dropLast p.parts) _

namespace Store

variable {s t : Store} {here l : Location} {p : Path} {c : Content} {e : Errno}

/-- How a path ends. -/
inductive Ends (s : Store) (here : Location) (p : Path) : Prop
  /-- It leads to something that is no link, or to a free place. -/
  | spot {spot : Spot} (found : ∀ follow, s.find here p follow = .ok spot)
      (plain : ∀ l target, spot ≠ .taken l (.link target))
  /-- Its last name is a link. -/
  | link {l : Location} {target : String} (named : p.parts ≠ [])
      (found : s.find here p false = .ok (.taken l (.link target)))
  /-- It is too long. -/
  | long (refused : ∀ follow, s.find here p follow = .error .nameTooLong) (long : ¬ p.Short)

/-- A name in a directory leads to something or to a free place, it is a link, or it is too
long. -/
theorem stride_name (hs : s.WellFormed) (hdir : s.get? l = some .directory) (name : String) :
    (∃ spot, (∀ follow, s.stride follow l [name] = .arrived spot) ∧
        ∀ m target, spot ≠ .taken m (.link target)) ∨
      (∃ m target, s.stride false l [name] = .arrived (.taken m (.link target))) ∨
        maxName < name.utf8ByteSize ∧
          ∀ follow, s.stride follow l [name] = .refused .nameTooLong := by
  by_cases hdots : name = ".."
  · have hup : s.get? l.dropLast = some .directory := hs l _ hdir
    refine Or.inl ⟨.taken l.dropLast .directory, fun follow => ?_, fun _ _ h => by cases h⟩
    simp only [stride, hdir, if_pos hdots, hup]
  · by_cases hlong : maxName < name.utf8ByteSize
    · exact Or.inr (Or.inr ⟨hlong, fun _ => stride_cons_of_long hdir hdots hlong⟩)
    · cases hget : s.get? (l ++ [name]) with
      | none =>
          refine Or.inl ⟨.free (l ++ [name]), fun follow => ?_, fun _ _ h => by cases h⟩
          simp only [stride, hdir, if_neg hdots, if_neg hlong, hget, if_true]
      | some e =>
          cases e with
          | link target =>
              refine Or.inr (Or.inl ⟨l ++ [name], target, ?_⟩)
              simp only [stride, hdir, if_neg hdots, if_neg hlong, hget, and_self, if_true]
          | directory =>
              refine Or.inl ⟨.taken (l ++ [name]) .directory, fun follow => ?_,
                fun _ _ h => by cases h⟩
              simp only [stride, hdir, if_neg hdots, if_neg hlong, hget]
          | file c =>
              refine Or.inl ⟨.taken (l ++ [name]) (.file c), fun follow => ?_,
                fun _ _ h => by cases h⟩
              simp only [stride, hdir, if_neg hdots, if_neg hlong, hget]

/-- A path whose parent leads to a directory ends in one of these ways. -/
theorem ends_of_parent (hs : s.WellFormed)
    (hparent : s.find here p.parent true = .ok (.taken l .directory)) : Ends s here p := by
  by_cases hlong : maxPath ≤ p.text.utf8ByteSize
  · exact .long (fun follow => by rw [find, if_pos hlong])
      fun hshort => absurd hshort.1 (Nat.not_lt.mpr hlong)
  have hfind : ∀ follow, s.find here p follow =
      s.walk follow maxLinks (startOf here p) p.parts := fun follow => by rw [find, if_neg hlong]
  have hdir : s.get? l = some .directory := (find_shows hparent).2
  rw [find] at hparent
  split at hparent
  · cases hparent
  · by_cases hparts : p.parts = []
    · -- the path is its own parent
      have hhere : s.get? (startOf here p) = some .directory := by
        rw [Path.parent, hparts, List.dropLast_nil] at hparent
        have hstride := stride_nil s true (startOf here p)
        cases hget : s.get? (startOf here p) with
        | none =>
            rw [hget] at hstride
            cases (walk_of_refused hstride).symm.trans hparent
        | some e =>
            rw [hget] at hstride
            cases (walk_of_arrived hstride).symm.trans hparent
            rfl
      have hfound : ∀ follow, s.find here p follow =
          .ok (.taken (startOf here p) .directory) := fun follow => by
        rw [hfind, hparts]
        exact walk_of_arrived (by rw [stride_nil, hhere])
      exact .spot hfound fun _ _ h => by cases h
    · -- the last name is looked for in the directory of the path
      obtain ⟨name, hname, hsplit⟩ : ∃ name ∈ p.parts, p.parts = p.parent.parts ++ [name] :=
        ⟨_, List.getLast_mem hparts, (List.dropLast_concat_getLast hparts).symm⟩
      obtain ⟨left, hleft⟩ := walk_append hparent
      have hlast : ∀ follow, s.find here p follow = s.walk follow left l [name] := fun follow => by
        rw [hfind, hsplit]
        exact hleft follow [name] (List.cons_ne_nil _ _)
      rcases stride_name hs hdir name with ⟨spot, hspot, hplain⟩ | ⟨m, target, hlink⟩ |
        ⟨hbytes, hrefused⟩
      · exact .spot (fun follow => (hlast follow).trans (walk_of_arrived (hspot follow))) hplain
      · exact .link hparts ((hlast false).trans (walk_of_arrived hlink))
      · exact .long (fun follow => (hlast follow).trans (walk_of_refused (hrefused follow)))
          fun hshort => absurd (hshort.2 name hname) (Nat.not_le.mpr hbytes)

/-! ## Removing a file -/

/-- What a path leads to cannot be removed, other than for not being there, if it is a directory
or the path is too long. -/
theorem Ends.unlink_error_iff (h : Ends s here p) :
    s.unlink here p = .error e ∧ e ≠ .noEntry ↔
      e = .isDirectory ∧ (∃ l, s.find here p false = .ok (.taken l .directory)) ∨
        e = .nameTooLong ∧ s.find here p false = .error .nameTooLong := by
  rw [unlink]
  cases h with
  | spot found plain =>
      rename_i spot
      rw [found false]
      cases spot with
      | free m => grind
      | taken m f => cases f <;> grind
  | link named found =>
      rw [found]
      grind
  | long refused long =>
      rw [refused false]
      grind

/-- Where nothing can be removed, other than for not being there, nothing can be written. -/
theorem Ends.write_of_unlink_error (h : Ends s here p) (hunlink : s.unlink here p = .error e)
    (hthere : e ≠ .noEntry) (c : Content) : s.write here p c = .error e := by
  rw [unlink] at hunlink
  rw [write, placeToWrite]
  cases h with
  | spot found plain =>
      rename_i spot
      rw [found false] at hunlink
      rw [found true]
      cases spot with
      | free m => grind
      | taken m f => cases f <;> grind [Except.map]
  | link named found =>
      rw [found] at hunlink
      cases hunlink
  | long refused long =>
      rw [refused false] at hunlink
      rw [refused true]
      exact hunlink

/-- What was written can be removed. -/
theorem unlink_of_write (hs : s.WellFormed) (h : Ends s here p)
    (hwrite : s.write here p c = .ok t) : ∃ u, t.unlink here p = .ok u := by
  obtain ⟨spot, hfind, rfl, hne, hfree⟩ := write_inv hwrite
  cases h with
  | @spot other found plain =>
      obtain rfl : spot = other := Except.ok.inj (hfind.symm.trans (found true))
      have hlink : ∀ target, s.get? spot.location ≠ some (.link target) := by
        intro target hget
        have hshows := find_shows hfind
        cases spot with
        | free m => cases hshows.2.1.symm.trans hget
        | taken m f =>
            obtain rfl := Option.some.inj (hshows.2.symm.trans hget)
            exact plain m target rfl
      refine ⟨(s.put spot.location (.file c)).erase spot.location, ?_⟩
      rw [unlink, find_put hne hfree hlink (found false) rfl]
  | @link m target named found =>
      -- the link stays where it was, since what it leads to is no link
      have hlink := find_ne_link (grounded_of_find hs named hfind) hfind
      have hget : s.get? m = some (.link target) := (find_shows found).2
      have hother : m ≠ spot.location := fun he => hlink target (he ▸ hget)
      refine ⟨(s.put spot.location (.file c)).erase m, ?_⟩
      rw [unlink, find_afterPut hne hfree hlink found, Spot.afterPut, Spot.location,
        if_neg hother]
  | long refused long => cases (refused true).symm.trans hfind

end Store

end Dossier
