import Dossier.Proofs.Packing
import Dossier.Proofs.Store.Links
import Dossier.Proofs.Store.Tree

/-!
# Packing what is no directory

Where a path leads to no directory there is nothing to list, but that is not refused: an archive
without members is written, in place of any that was there (`pack_of_receives`).  It is refused
only if the path is too long to be asked for, or if the archive has no place to be written to; then
nothing is changed (`pack_hollow`).
-/

namespace Dossier

namespace Store

variable {s : Store} {here l : Location} {p : Path} {e : Errno}

/-- A file can be written where a path leads: in place of what is there, if that is no directory,
or where nothing is yet. -/
def Receives (s : Store) (here : Location) (p : Path) (l : Location) : Prop :=
  ∃ spot : Spot, s.find here p true = .ok spot ∧ spot.location = l ∧ s.get? l ≠ some .directory

theorem receives_iff : s.Receives here p l ↔ s.placeToWrite here p = .ok l := by
  rw [placeToWrite]
  constructor
  · rintro ⟨spot, hfind, rfl, hfree⟩
    have hshows := find_shows hfind
    rw [hfind]
    cases spot with
    | free l => rfl
    | taken l e =>
        cases e with
        | directory => exact absurd hshows.2 hfree
        | file _ | link _ => rfl
  · intro h
    cases hfind : s.find here p true with
    | error e =>
        rw [hfind] at h
        cases h
    | ok spot =>
        have hshows := find_shows hfind
        rw [hfind] at h
        refine ⟨spot, hfind, ?_⟩
        cases spot with
        | free m =>
            have hnone : s.get? m = none := hshows.2.1
            cases h
            exact ⟨rfl, by simp [hnone]⟩
        | taken m e =>
            have hget : s.get? m = some e := hshows.2
            cases e with
            | directory => cases h
            | file _ | link _ =>
                cases h
                exact ⟨rfl, by simp [hget]⟩

end Store

namespace Packing

variable {env : Environment} {s s' : State} {p : Path} {l : Location} {fault : Fault}

/-! ## Nothing to list -/

/-- Listing asks whether the path leads to a directory, and for its place if so. -/
theorem place?_isSome (store : Store) (here : Location) (p : Path) :
    (place? store here p).map Option.isSome = store.hasDirectory here p := by
  rw [place?, Store.hasDirectory, Store.ask]
  split
  · rfl
  · cases store.stat here p with
    | ok found =>
        obtain ⟨l, e⟩ := found
        cases e <;> rfl
    | error e =>
        dsimp only
        split <;> rfl

/-- What is no directory has no place to list. -/
theorem place?_of_absent {store : Store} {here : Location}
    (h : store.hasDirectory here p = .ok false) : place? store here p = .ok none := by
  rw [← place?_isSome] at h
  cases hplace : place? store here p with
  | error e =>
      rw [hplace] at h
      cases h
  | ok place =>
      rw [hplace] at h
      cases place with
      | none => rfl
      | some l => cases h

theorem place?_of_error {store : Store} {here : Location} {e : Errno}
    (h : store.hasDirectory here p = .error e) : place? store here p = .error e := by
  rw [← place?_isSome] at h
  cases hplace : place? store here p with
  | error e' =>
      rw [hplace] at h
      cases h
      rfl
  | ok place =>
      rw [hplace] at h
      cases h

/-- What is no directory has no files. -/
theorem filesOf_of_absent (h : s.store.hasDirectory env.here p = .ok false) :
    filesOf p env s = .ok [] s := by
  rw [filesOf, Act.bind_of_ok (Disk.look_ok.mpr ⟨place?_of_absent h, rfl⟩),
    Act.bind_of_ok (Act.get_ok.mpr ⟨rfl, rfl⟩)]
  rfl

/-- What cannot be asked for is not listed. -/
theorem filesOf_of_error {e : Errno} (h : s.store.hasDirectory env.here p = .error e) :
    filesOf p env s = .error (Disk.refused e p) s := by
  refine Act.bind_error.mpr (Or.inl ?_)
  rw [Disk.look_eq, place?_of_error h]

/-! ## An archive without members -/

/-- What is no directory gets an archive without members where there is a place for it, and
whatever was there is gone. -/
theorem pack_of_receives (habsent : s.store.hasDirectory env.here p = .ok false)
    (hnul : (archivePath p).holdsNul = false) (h : s.store.Receives env.here (archivePath p) l) :
    pack p env s = .ok (archivePath p) { s with
      store := s.store.put l (.file (.archive []))
      notes := s.notes ++ [.archived (archivePath p) 0 (Archive.encode []).length] } :=
  pack_of_addable (filesOf_of_absent habsent) hnul (Store.receives_iff.mp h)
    fun _ hfile => absurd hfile List.not_mem_nil

/-- Where there is no place for the archive, packing is refused, and nothing is changed. -/
theorem pack_of_not_receives (habsent : s.store.hasDirectory env.here p = .ok false)
    (hnul : (archivePath p).holdsNul = false)
    (h : ∀ l, ¬ s.store.Receives env.here (archivePath p) l) :
    ∃ e, pack p env s = .error (.storage (.createArchive (archivePath p))
      (.system (.refused e (archivePath p)))) s := by
  cases hplace : s.store.placeToWrite env.here (archivePath p) with
  | ok l => exact absurd (Store.receives_iff.mpr hplace) (h l)
  | error e =>
      have hopening : Disk.create (archivePath p) (.archive []) env s =
          .error (Disk.refused e (archivePath p)) s := by
        rw [Disk.create_eq, if_neg (by simp [hnul]), hplace]
      exact ⟨e, pack_of_unopened (filesOf_of_absent habsent) hopening⟩

theorem pack_of_nul (habsent : s.store.hasDirectory env.here p = .ok false)
    (hnul : (archivePath p).holdsNul = true) : pack p env s = .error .nul s := by
  have hopening : Disk.create (archivePath p) (.archive []) env s = .error .nul s := by
    rw [Disk.create_eq, if_pos hnul]
  exact pack_of_unopened (filesOf_of_absent habsent) hopening

/-- Packing what is no directory is refused, with nothing changed, just if the path is too long to
be asked for or there is no place for the archive.  Otherwise an archive without members is written,
unless its path holds the character that no path may hold. -/
theorem pack_hollow (h : s.store.hasDirectory env.here p ≠ .ok true) :
    ((∃ cause, pack p env s = .error (.storage (.createArchive (archivePath p)) cause) s) ↔
      s.store.hasDirectory env.here p = .error .nameTooLong ∨
        (archivePath p).holdsNul = false ∧ ∀ l, ¬ s.store.Receives env.here (archivePath p) l) ∧
    (s.store.hasDirectory env.here p ≠ .error .nameTooLong →
      ((archivePath p).holdsNul = true → pack p env s = .error .nul s) ∧
      ((archivePath p).holdsNul = false → ∀ l, s.store.Receives env.here (archivePath p) l →
        pack p env s = .ok (archivePath p) { s with
          store := s.store.put l (.file (.archive []))
          notes := s.notes ++ [.archived (archivePath p) 0 (Archive.encode []).length] })) := by
  cases hasked : s.store.hasDirectory env.here p with
  | error e =>
      obtain rfl := Store.ask_error hasked
      have hrefused := pack_of_unlisted (filesOf_of_error hasked)
      exact ⟨⟨fun _ => Or.inl rfl, fun _ => ⟨_, hrefused⟩⟩, fun hshort => absurd rfl hshort⟩
  | ok there =>
      obtain rfl : there = false := eq_false_of_ne_true fun hthere => h (hthere ▸ hasked)
      refine ⟨⟨?clean, ?refused⟩, fun _ =>
        ⟨pack_of_nul hasked, fun hplain _ => pack_of_receives hasked hplain⟩⟩
      case clean =>
        rintro ⟨cause, hpack⟩
        have hplain : (archivePath p).holdsNul = false := eq_false_of_ne_true fun hnul => by
          cases (pack_of_nul hasked hnul).symm.trans hpack
        refine Or.inr ⟨hplain, fun l hl => ?_⟩
        cases (pack_of_receives hasked hplain hl).symm.trans hpack
      case refused =>
        rintro (hlong | ⟨hplain, hnone⟩)
        · cases hlong
        · obtain ⟨e, hpack⟩ := pack_of_not_receives hasked hplain hnone
          exact ⟨_, hpack⟩

/-! ## An archive that is lost -/

/-- An archive, and no directory that it is the archive of. -/
def orphan : State where
  store := ⟨[(["d.zip"], .file (.archive [⟨"d/a", [1], .deflated⟩]))]⟩

theorem orphan_absent : orphan.store.hasDirectory [] (Path.ofString "d") = .ok false :=
  Act.ok_of_toOption (by decide +kernel)

theorem orphan_receives : orphan.store.Receives [] (archivePath (Path.ofString "d")) ["d.zip"] :=
  ⟨.taken ["d.zip"] (.file (.archive [⟨"d/a", [1], .deflated⟩])),
    Act.ok_of_toOption (by decide +kernel), rfl, by decide +kernel⟩

/-- It is replaced by one without members. -/
theorem orphan_hollow : ∃ t, pack (Path.ofString "d") {} orphan = .ok (Path.ofString "d.zip") t ∧
    t.store.get? ["d.zip"] = some (.file (.archive [])) := by
  have hpath : archivePath (Path.ofString "d") = Path.ofString "d.zip" := by decide +kernel
  have habsent : orphan.store.hasDirectory ({} : Environment).here (Path.ofString "d") =
      .ok false := orphan_absent
  obtain ⟨_, hother⟩ := @pack_hollow {} orphan (Path.ofString "d") (habsent ▸ nofun)
  have hpack := (hother (habsent ▸ nofun)).2 (by decide +kernel) _ orphan_receives
  exact ⟨_, hpath ▸ hpack, by decide +kernel⟩

theorem not_all_refused_cleanly :
    ¬ ∀ (p : Path) (env : Environment) (s : State), s.store.Tree →
      s.store.hasDirectory env.here p ≠ .ok true →
        ∃ cause t, pack p env s = .error (.storage (.createArchive (archivePath p)) cause) t ∧
          t.store.get? = s.store.get? := by
  intro hall
  have hpack : pack (Path.ofString "d") {} orphan = _ :=
    pack_of_receives orphan_absent (by decide +kernel) orphan_receives
  obtain ⟨_, _, hrefused, _⟩ := hall (Path.ofString "d") {} orphan (by decide +kernel)
    (fun hthere => by cases orphan_absent.symm.trans hthere)
  cases hpack.symm.trans hrefused

end Packing

end Dossier
