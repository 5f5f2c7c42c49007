import Dossier.Proofs.Act.Lapses
import Dossier.Proofs.Packing
import Dossier.Proofs.Store.Paving

/-!
# Archives mirror directories

What packing a directory does, for a directory that is given by any path that ends in its name
(`archive_mirrors`).  The archive lies beside it, and its members are the files below it, in the
order of their paths (`Mirrors`).  They depend neither on the order in which the store holds them
nor on what lay where the archive is written.

The directory is listed along the path that it is given by.  If something in it is so deep down that
this path does not carry there (`Path.Carries`), this is refused, and nothing is changed.  All this
is for directories whose files the system lets be added to an archive (`Stored`).
-/

namespace Dossier

/-! ## Paths to directories -/

/-- A path that ends in the name of what it leads to. -/
structure Path.Named (p : Path) : Prop where
  /-- There is a name. -/
  named : p.name ≠ ""
  /-- The name does not lead up. -/
  down : p.name ≠ ".."
  /-- The name is a single one. -/
  single : '/' ∉ p.name.toList

/-- A path carries to what lies below the directory it leads to if it is not too long with the way
from there, and no name on the way from the root is too long. -/
def Path.Carries (p : Path) (directory below : Location) : Prop :=
  (p.extend below).text.utf8ByteSize < Store.maxPath ∧
    ∀ name ∈ directory ++ below, name.utf8ByteSize ≤ Store.maxName

instance (p : Path) (directory below : Location) : Decidable (p.Carries directory below) :=
  inferInstanceAs (Decidable (_ ∧ _))

namespace Path

variable {p : Path} {here : Location}

theorem Named.parts_ne_nil (h : p.Named) : p.parts ≠ [] := fun hnil =>
  h.named (by rw [name, hnil]; rfl)

theorem Named.parts_eq (h : p.Named) : p.parts = p.parent.parts ++ [p.name] := by
  rw [name, List.getLast?_eq_some_getLast h.parts_ne_nil, Option.getD_some]
  exact (List.dropLast_concat_getLast h.parts_ne_nil).symm

/-- A path that is read from a text ends in a single name, if in any. -/
theorem named_ofString {text : String} (hname : (ofString text).name ≠ "")
    (hdown : (ofString text).name ≠ "..") : (ofString text).Named where
  named := hname
  down := hdown
  single := by
    have hparts : (ofString text).parts ≠ [] := fun hnil => hname (by rw [name, hnil]; rfl)
    rw [name, List.getLast?_eq_some_getLast hparts, Option.getD_some]
    exact not_mem_of_mem_parts (List.getLast_mem hparts)

/-- What a path ends in lies in the directory of the path. -/
theorem Named.location_eq (h : p.Named) (here : Location) :
    p.location here = p.parent.location here ++ [p.name] := by
  rw [location, location, h.parts_eq, List.foldl_append, List.foldl_cons, List.foldl_nil,
    Store.step, if_neg h.down]
  rfl

end Path

namespace Packing

open Store (Listing)

variable {env : Environment} {s t : State} {p : Path} {directory : Location}

/-! ## Archives beside directories -/

/-- The path of an archive leads to it. -/
theorem location_archivePath (hp : p.Named) (here : Location) :
    (archivePath p).location here = (p.location here).archive := by
  have hdots : p.name ++ ".zip" ≠ ".." := Location.append_zip_ne _ (by decide)
  rw [archivePath_of_plain hp.single, hp.location_eq here, Location.archive, List.dropLast_concat,
    List.getLast?_concat, Option.getD_some, Path.location, Path.extend, List.foldl_append,
    List.foldl_cons, List.foldl_nil, Store.step, if_neg hdots]
  rfl

/-- No archive lies in its own directory. -/
theorem not_below_archive (hp : p.Named) (here : Location) :
    ¬ p.location here <+: (p.location here).archive := by
  intro habove
  refine Location.archive_ne (p.location here) (habove.eq_of_length ?_).symm
  rw [hp.location_eq here, Location.archive]
  simp

/-- The archive of what lies at a location has one member for each file below it, called by the
name of the directory and the path from there, with the bytes of the file, deflated. -/
theorem members_of_named (hp : p.Named) (files : List (Location × Content)) :
    members p files =
      files.map fun file => ⟨"/".intercalate (p.name :: file.1), file.2.bytes, .deflated⟩ := by
  rw [members]
  refine List.map_congr_left fun file _ => ?_
  rw [member, memberName, if_neg hp.named]
  rfl

/-! ## What packing does -/

/-- Every file below a directory can be added to an archive. -/
def Stored (p : Path) (env : Environment) (s : Store) : Prop :=
  ∀ below c, s.get? (p.location env.here ++ below) = some (.file c) →
    snag? env.toMachine (p.extend below) = none

/-- A store got the archive of a directory, beside it: the members are the files below the
directory, in the order of their paths, each called by its path from the parent of the directory,
with its bytes, deflated.  Nothing else is different. -/
def Mirrors (p : Path) (here : Location) (s t : Store) : Prop :=
  ∃ files, Listing s (p.location here) files ∧
    t.get? = fun l => if l = (p.location here).archive then
      some (.file (.archive (files.map fun file =>
        ⟨"/".intercalate (p.name :: file.1), file.2.bytes, .deflated⟩))) else s.get? l

/-- What packing a directory does. -/
inductive Packed (p : Path) (env : Environment) (s : State) : Prop
  /-- It mirrors the directory, whatever file was where the archive is written. -/
  | mirrored {t : State}
      (carries : ∀ below e, below ≠ [] → s.store.get? (p.location env.here ++ below) = some e →
        p.Carries (p.location env.here) below)
      (packed : pack p env s = .ok (archivePath p) t)
      (mirrors : Mirrors p env.here s.store t.store)
      (regardless : ∀ v : State, v.store.Tree →
        v.store.get? (p.location env.here).archive ≠ some .directory →
        (∀ l, l ≠ (p.location env.here).archive → v.store.get? l = s.store.get? l) →
        ∃ u, pack p env v = .ok (archivePath p) u ∧ u.store.get? = t.store.get?)
  /-- It comes to something that its path does not carry to, and changes nothing. -/
  | refused {below : Location} {e : Entry} {t : State} (named : below ≠ [])
      (there : s.store.get? (p.location env.here ++ below) = some e)
      (far : ¬ p.Carries (p.location env.here) below)
      (refused : pack p env s = .error (.storage (.createArchive (archivePath p))
        (.system (.refused .nameTooLong (p.extend below)))) t)
      (store : t.store = s.store)

/-- Only what the path of a directory does not carry to is an obstacle in it. -/
theorem obstacleAt?_below (hs : s.store.Tree) {below : Location} {e : Entry}
    (h : s.store.get? (directory ++ below) = some e) :
    s.store.obstacleAt? p directory (directory ++ below) =
      if p.Carries directory below then none else some .nameTooLong := by
  rw [Store.obstacleAt?_of_some hs p h, List.drop_left]
  rfl

/-- Where nothing is an obstacle, the path carries everywhere. -/
theorem carries_of_clear (hs : s.store.Tree) (hclear : s.store.obstacle? p directory = none)
    {below : Location} {e : Entry} (hne : below ≠ [])
    (h : s.store.get? (directory ++ below) = some e) : p.Carries directory below := by
  have hself : directory ++ below ≠ directory := fun he => hne (List.append_right_eq_self.mp he)
  have hnone := Store.obstacle?_eq_none_iff.mp hclear (directory ++ below)
    ((Store.mem_below hs).mpr ⟨⟨e, h⟩, List.prefix_append _ _, hself⟩)
  rw [obstacleAt?_below hs h] at hnone
  exact Decidable.byContradiction fun hfar => by simp [hfar] at hnone

section Directory

variable (hs : s.store.Tree) (hp : p.Named) (hnul : p.holdsNul = false)
  (hstat : s.store.stat env.here p = .ok (p.location env.here, .directory))

include hnul hstat in
/-- Where something in a directory is an obstacle, packing it is refused. -/
theorem pack_refused {q : Path} {e : Errno}
    (hobstacle : s.store.obstacle? p (p.location env.here) = some (q, e)) :
    pack p env s =
      .error (.storage (.createArchive (archivePath p)) (.system (.refused e q))) s := by
  have hlisting : filesOf p env s = .error (Disk.refused e q) s := by
    rw [filesOf_of_stat hnul hstat, hobstacle]
  exact pack_of_unlisted hlisting

include hnul hstat in
theorem clear_of_pack {path : Path} (h : pack p env s = .ok path t) :
    s.store.obstacle? p (p.location env.here) = none := by
  cases hobstacle : s.store.obstacle? p (p.location env.here) with
  | none => rfl
  | some found => cases (pack_refused hnul hstat hobstacle).symm.trans h

include hs hp hnul hstat

/-- Where nothing in it is one and its files can be added, its archive is written beside it. -/
theorem pack_of_clear (hstored : Stored p env s.store) (hshort : (archivePath p).Short)
    (hfree : s.store.get? (p.location env.here).archive ≠ some .directory)
    (hclear : s.store.obstacle? p (p.location env.here) = none) :
    ∃ t, pack p env s = .ok (archivePath p) t ∧
      t.store = s.store.put (p.location env.here).archive
        (.file (.archive (members p (s.store.filesBelow (p.location env.here))))) := by
  have hfiles : filesOf p env s = .ok (s.store.filesBelow (p.location env.here)) s := by
    rw [filesOf_of_stat hnul hstat, hclear]
  have hparent : s.store.find env.here (archivePath p).parent true =
      .ok (.taken (p.location env.here).dropLast .directory) := by
    rw [archivePath_of_plain hp.single, Path.extend, Path.parent, List.dropLast_concat]
    exact Store.find_parent hs hp.parts_ne_nil hp.down (Store.find_of_stat hstat)
  have hplace := location_archivePath hp env.here
  have hopen := Store.placeToWrite_of_parent hs hparent hshort (hplace ▸ hfree)
  rw [hplace] at hopen
  have hadd : Addable env.toMachine p (s.store.filesBelow (p.location env.here)) :=
    fun file hfile => hstored file.1 file.2 ((Store.mem_filesBelow_iff hs hclear).mp hfile).2
  exact ⟨_, pack_of_addable hfiles (holdsNul_archivePath hnul) hopen hadd, rfl⟩

/-- The same archive is written whatever file was there, if any, and in whatever order the store
holds the rest. -/
theorem pack_regardless {v : State} (hstored : Stored p env s.store) (hv : v.store.Tree)
    (hshort : (archivePath p).Short)
    (hfree : s.store.get? (p.location env.here).archive ≠ some .directory)
    (hvfree : v.store.get? (p.location env.here).archive ≠ some .directory)
    (hsame : ∀ l, l ≠ (p.location env.here).archive → v.store.get? l = s.store.get? l)
    (hclear : s.store.obstacle? p (p.location env.here) = none) :
    ∃ u, pack p env v = .ok (archivePath p) u ∧
      u.store = v.store.put (p.location env.here).archive
        (.file (.archive (members p (s.store.filesBelow (p.location env.here))))) := by
  have hbelow : ∀ l, p.location env.here <+: l → s.store.get? l = v.store.get? l :=
    fun l hl => (hsame l fun he => not_below_archive hp env.here (he ▸ hl)).symm
  have hdirs : ∀ l, s.store.get? l = some .directory → v.store.get? l = some .directory :=
    fun l hl => (hsame l fun he => hfree (he ▸ hl)).trans hl
  have hvstat : v.store.stat env.here p = .ok (p.location env.here, .directory) := by
    rw [Store.stat, Store.find_to_directory hs.linkFree hv.linkFree hdirs
      (Store.find_of_stat hstat)]
  have hvstored : Stored p env v.store := fun below c hfile =>
    hstored below c ((hbelow _ (List.prefix_append _ _)).trans hfile)
  rw [Store.filesBelow_congr hs hv hbelow]
  exact pack_of_clear hv hp hnul hvstat hvstored hshort hvfree
    (Store.obstacle?_congr hs hv hbelow hclear)

end Directory

/-- What an archive is written over is seen there and nowhere else. -/
theorem get?_put_archive (store : Store) (base l : Location) (e : Entry) :
    (store.put base.archive e).get? l = if l = base.archive then some e else store.get? l :=
  Store.get?_put _ _ _ _ (List.append_ne_nil_of_right_ne_nil _ (List.cons_ne_nil _ _))

/-- Packing a directory mirrors it, or comes to something that its path does not carry to.  The path
of the archive is that of the directory with another ending, and it lies beside the directory. -/
theorem archive_mirrors (hs : s.store.Tree) (hp : p.Named) (hnul : p.holdsNul = false)
    (hstat : s.store.stat env.here p = .ok (p.location env.here, .directory))
    (hstored : Stored p env s.store) (hshort : (archivePath p).Short)
    (hfree : s.store.get? (p.location env.here).archive ≠ some .directory) :
    archivePath p = p.parent.extend [p.name ++ ".zip"] ∧
      (archivePath p).location env.here = (p.location env.here).archive ∧ Packed p env s := by
  refine ⟨archivePath_of_plain hp.single, location_archivePath hp env.here, ?_⟩
  cases hobstacle : s.store.obstacle? p (p.location env.here) with
  | some found =>
      obtain ⟨q, err⟩ := found
      obtain ⟨l, hl, hat, rfl⟩ := Store.obstacle?_some hobstacle
      obtain ⟨⟨e, he⟩, ⟨below, rfl⟩, hne⟩ := (Store.mem_below hs).mp hl
      rw [List.drop_left] at hobstacle
      rw [obstacleAt?_below hs he] at hat
      split at hat
      · cases hat
      · rename_i hfar
        cases hat
        exact .refused (fun hnil => hne (by rw [hnil, List.append_nil])) he hfar
          (pack_refused hnul hstat hobstacle) rfl
  | none =>
      obtain ⟨t, hpack, hstore⟩ := pack_of_clear hs hp hnul hstat hstored hshort hfree hobstacle
      refine .mirrored (fun _ _ hne => carries_of_clear hs hobstacle hne) hpack
        ⟨_, Store.listing_filesBelow hs hobstacle, ?view⟩ ?regardless
      case view =>
        rw [hstore, members_of_named hp]
        funext l
        exact get?_put_archive _ _ l _
      case regardless =>
        intro v hv hvfree hsame
        obtain ⟨u, hagain, hustore⟩ :=
          pack_regardless hs hp hnul hstat hstored hv hshort hfree hvfree hsame hobstacle
        refine ⟨u, hagain, ?_⟩
        rw [hustore, hstore]
        funext l
        rw [get?_put_archive, get?_put_archive]
        split
        · rfl
        · exact hsame l ‹_›

/-! ## A file after a directory -/

/-- A directory with a file in a directory in it, and with one whose name begins with the name of
that directory.  Something else lies where its archive is written. -/
def nested : State where
  store := ⟨[(["d"], .directory), (["d", "a.txt"], .file (.plain [2])),
    (["d.zip"], .file (.plain [0])), (["d", "a"], .directory),
    (["d", "a", "b"], .file (.plain [1]))]⟩

theorem nested_tree : nested.store.Tree := by decide +kernel

/-- What is in a directory comes before what is named after it. -/
theorem nested_listing : Listing nested.store ["d"]
    [(["a", "b"], .plain [1]), (["a.txt"], .plain [2])] where
  mem below c := by
    constructor
    · intro h
      simp only [List.mem_cons, Prod.mk.injEq, List.not_mem_nil, or_false] at h
      obtain ⟨rfl, rfl⟩ | ⟨rfl, rfl⟩ := h <;> decide +kernel
    · rintro ⟨hne, hfile⟩
      have hmem := (nested_tree.mem_entries_iff (List.cons_ne_nil _ _)).mpr hfile
      simpa [nested, hne, or_comm] using hmem
  increasing := by
    refine List.pairwise_pair.mpr ?_
    exact (Store.locationLE_iff.mp (by decide +kernel)).resolve_left (by decide)

theorem nested_mirrored : ∃ t, pack (Path.ofString "d") {} nested =
    .ok (Path.ofString "d.zip") t ∧ t.store.get? ["d.zip"] = some (.file (.archive
      [⟨"d/a/b", [1], .deflated⟩, ⟨"d/a.txt", [2], .deflated⟩])) := by
  have hplace : (Path.ofString "d").location [] = ["d"] := by decide +kernel
  have hstat : nested.store.stat ({} : Environment).here (Path.ofString "d") =
      .ok ((Path.ofString "d").location ({} : Environment).here, .directory) :=
    Act.ok_of_toOption (by decide +kernel)
  obtain ⟨hpath, _, hpacked⟩ := archive_mirrors nested_tree
    (Path.named_ofString (by decide +kernel) (by decide +kernel)) (by decide +kernel) hstat
    (fun _ _ _ => rfl) ⟨by decide +kernel, by decide +kernel⟩ (by decide +kernel)
  have hzip : archivePath (Path.ofString "d") = Path.ofString "d.zip" :=
    hpath.trans (by decide +kernel)
  cases hpacked with
  | mirrored carries packed mirrors =>
      obtain ⟨files, hlisting, hview⟩ := mirrors
      rw [hplace] at hlisting hview
      obtain rfl := hlisting.unique nested_listing fun _ _ => rfl
      refine ⟨_, hzip ▸ packed, ?_⟩
      rw [hview]
      rfl
  | refused named there far =>
      rw [hplace] at there far
      have hmem := (nested_tree.mem_entries_iff (List.cons_ne_nil _ _)).mpr there
      have hall : ∀ x ∈ nested.store.entries, (Path.ofString "d").Carries ["d"] (x.1.drop 1) := by
        decide +kernel
      exact absurd (hall _ hmem) far

/-! ## A long way to a directory -/

/-- A name that is as long as a name may be. -/
def broad : String := String.ofList (List.replicate 255 'x')

/-- A name that is a little shorter. -/
def narrow : String := String.ofList (List.replicate 220 'n')

/-- A directory beside one with a long name, and in it a file with a long name. -/
def distant : State where
  store := ⟨[([broad], .directory), (["d"], .directory), (["d", narrow], .file (.plain [97]))]⟩

/-- The way to it fifteen times through the other one. -/
def winding : Path := ⟨.relative, (List.replicate 15 [broad, ".."]).flatten ++ ["d"]⟩

theorem distant_tree : distant.store.Tree := by decide +kernel

theorem winding_stat : distant.store.stat [] winding = .ok (["d"], .directory) := by
  refine Act.ok_of_toOption ?_
  rw [Store.stat, Store.find, Path.size_text]
  decide +kernel

theorem winding_archive_short : (winding.parent.extend ["d.zip"]).Short := by
  refine ⟨?_, by decide +kernel⟩
  rw [Path.size_text]
  decide +kernel

theorem not_winding_carries : ¬ winding.Carries ["d"] [narrow] := by
  rw [Path.Carries, Path.size_text]
  decide +kernel

/-- The path is not too long, nor is that of the archive, but that of the file is. -/
theorem not_all_mirrored :
    ¬ ∀ (p : Path) (env : Environment) (s : State), s.store.Tree → p.Named → p.holdsNul = false →
      s.store.stat env.here p = .ok (p.location env.here, .directory) →
      Stored p env s.store → (archivePath p).Short →
      s.store.get? (p.location env.here).archive ≠ some .directory →
        ∃ t, pack p env s = .ok (archivePath p) t := by
  intro hall
  have hplace : winding.location ({} : Environment).here = ["d"] :=
    (Store.stat_ok distant_tree winding_stat).1.symm
  have hp : winding.Named := ⟨by decide +kernel, by decide +kernel, by decide +kernel⟩
  have hnul : winding.holdsNul = false := by
    have hx : ∀ n, (String.ofList (List.replicate n 'x')).toList.contains '\x00' = false := by
      simp [List.mem_replicate]
    have hbroad : broad.toList.contains '\x00' = false := hx 255
    rw [Path.holdsNul, winding, List.any_append, List.any_flatten, List.any_replicate,
      List.any_cons, hbroad]
    rfl
  have hstat : distant.store.stat ({} : Environment).here winding =
      .ok (winding.location ({} : Environment).here, .directory) := by
    rw [hplace]
    exact winding_stat
  have hshort : (archivePath winding).Short := by
    rw [archivePath_of_plain hp.single]
    exact winding_archive_short
  obtain ⟨t, hpack⟩ := hall winding {} distant distant_tree hp hnul hstat
    (fun _ _ _ => rfl) hshort
    (by rw [hplace]; decide +kernel)
  have hclear := clear_of_pack hnul hstat hpack
  have hfile : distant.store.get? (winding.location ({} : Environment).here ++ [narrow]) =
      some (.file (.plain [97])) := by
    rw [hplace]
    exact (distant_tree.mem_entries_iff (List.cons_ne_nil _ _)).mp (by simp [distant])
  have hcarries := carries_of_clear distant_tree hclear (List.cons_ne_nil _ _) hfile
  rw [hplace] at hcarries
  exact not_winding_carries hcarries

end Packing

end Dossier
