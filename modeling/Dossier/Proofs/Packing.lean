import Dossier.Proofs.Act.Inward
import Dossier.Proofs.Script.Shape
import Dossier.Proofs.Store.Progress

/-!
# What packing does

Files are listed, the archive is opened, and the files are added to it one by one,
up to the first that cannot be added.  So packing ends in one of four ways (`Ends`,
`pack_ends`).  It writes the archive and nothing else (`pack_ok`), however it ends
(`pack_store`).  Whether it succeeds is a matter of what the store shows and of what
the system says of the files (`pack_congr`).

The archive lies beside the directory, named after it (`archivePath_of_plain`,
`archivePlace_eq`).  Only if that is the root of the store does the archive lie
in it (`archivePlace_not_below`).
-/

namespace Dossier

/-! ## Names without slashes -/

namespace Path

/-- A text without slashes is a single part, unless it is empty or a dot. -/
theorem ofString_of_plain {text : String} (h : '/' ∉ text.toList) :
    ofString text = ⟨.relative, [text].filter isPart⟩ := by
  have hcut : ∀ c ∈ text.toList, (c == '/') = false := fun c hc => by
    simpa using fun he : c = '/' => h (he ▸ hc)
  have hhead : text.toList.takeWhile (· == '/') = [] := by
    cases htext : text.toList with
    | nil => rfl
    | cons c cs =>
        have hc := hcut c (htext ▸ List.mem_cons_self ..)
        rw [List.takeWhile_cons_of_neg (by simp [hc])]
  rw [ofString, hhead, Text.piecesOf, Text.pieces_of_uncut hcut, List.map_singleton,
    String.ofList_toList]
  rfl

/-- The parts of a path that is read from a text have no slashes. -/
theorem not_mem_of_mem_parts {text name : String} (h : name ∈ (ofString text).parts) :
    '/' ∉ name.toList := by
  obtain ⟨cs, hcs, rfl⟩ := List.mem_map.mp (List.mem_filter.mp h).1
  rw [String.toList_ofList]
  intro hm
  simpa using (Text.mem_of_mem_pieces hcs hm).2

end Path

/-- The location of the archive of what lies at a location. -/
def Location.archive (l : Location) : Location := l.dropLast ++ [l.getLast?.getD "" ++ ".zip"]

/-- A name with the ending of an archive is none of the short names with a meaning of their own. -/
theorem Location.append_zip_ne {short : String} (name : String) (h : short.toList.length < 4) :
    name ++ ".zip" ≠ short := by
  have hzip : ".zip".toList.length = 4 := by decide
  rintro rfl
  rw [String.toList_append, List.length_append, hzip] at h
  omega

theorem Location.not_mem_archive {l : Location} (h : ".." ∉ l) : ".." ∉ l.archive := by
  rw [Location.archive, List.mem_append, not_or, List.mem_singleton]
  exact ⟨fun hm => h (List.dropLast_subset _ hm), Ne.symm (append_zip_ne _ (by decide))⟩

/-- The archive of a directory is not the directory. -/
theorem Location.archive_ne (l : Location) : l.archive ≠ l := by
  intro he
  have hlast := congrArg List.getLast? he
  rw [Location.archive, List.getLast?_append] at hlast
  cases hl : l.getLast? with
  | none => simp [hl] at hlast
  | some name =>
      have hlen : (name ++ ".zip").toList.length = name.toList.length := by
        simpa [hl] using congrArg (fun x : Option String => (x.getD "").toList.length) hlast
      have hzip : ".zip".toList.length = 4 := by decide
      rw [String.toList_append, List.length_append, hzip] at hlen
      omega

namespace Packing

open Act (Keeps)

variable {env : Environment} {s s' t : State} {output l : Location} {p : Path}

/-! ## Places -/

/-- Where the archive of an output directory is written. -/
def archivePlace (env : Environment) (output : Location) : Location :=
  (archivePath (Location.path output)).location env.here

/-- The archive of an output directory. -/
def archiveOf (output : Location) (store : Store) : Content :=
  .archive (members (Location.path output) (store.filesBelow output))

/-- The path of the archive of a directory whose name has no slash in it. -/
theorem archivePath_of_plain (hname : '/' ∉ p.name.toList) :
    archivePath p = p.parent.extend [p.name ++ ".zip"] := by
  have hzip : '/' ∉ (p.name ++ ".zip").toList := by
    rw [String.toList_append, List.mem_append, not_or]
    exact ⟨hname, by decide⟩
  have hpart : Path.isPart (p.name ++ ".zip") = true := by
    simp [Path.isPart, Location.append_zip_ne p.name (by decide : "".toList.length < 4),
      Location.append_zip_ne p.name (by decide : ".".toList.length < 4)]
  rw [archivePath, Path.sibling, Path.child, Path.ofString_of_plain hzip, Path.join, if_pos rfl,
    List.filter_cons_of_pos hpart]
  rfl

theorem archivePath_eq (hname : '/' ∉ (output.getLast?.getD "").toList) :
    archivePath (Location.path output) = Location.path output.archive :=
  archivePath_of_plain hname

/-- The archive lies beside the output directory. -/
theorem archivePlace_eq (env : Environment) (ho : ".." ∉ output)
    (hname : '/' ∉ (output.getLast?.getD "").toList) :
    archivePlace env output = output.archive := by
  rw [archivePlace, archivePath_eq hname, Store.location_path _ (Location.not_mem_archive ho)]

/-- The archive is not written to two dots. -/
theorem not_mem_archivePlace (env : Environment) (output : Location) :
    ".." ∉ archivePlace env output := by
  refine Store.foldl_step_plain ?_
  have hanchor : (archivePath (Location.path output)).anchor ≠ .relative := by
    rw [archivePath, Path.sibling, Path.child, Path.join]
    split
    · exact Anchor.noConfusion
    · assumption
  rw [Store.startOf, if_neg hanchor]
  exact List.not_mem_nil

/-- Names that are not walked do not come after a place. -/
theorem not_prefix_foldl_step {base here : Location} {last : String} {names : List String}
    (hlast : last ∉ names) (h : ¬ base ++ [last] <+: here) :
    ¬ base ++ [last] <+: names.foldl Store.step here := by
  induction names generalizing here with
  | nil => exact h
  | cons name rest ih =>
      rw [List.mem_cons, not_or] at hlast
      rw [List.foldl_cons]
      refine ih hlast.2 ?_
      rw [Store.step]
      split
      · exact fun hp => h (hp.trans (List.dropLast_prefix here))
      · intro hp
        by_cases he : base ++ [last] = here ++ [name]
        · exact hlast.1 (List.append_inj_right' he rfl |> List.singleton_inj.mp)
        · have hup := Store.prefix_dropLast hp he
          rw [List.dropLast_concat] at hup
          exact h hup

/-- No name is a piece of itself with an ending. -/
theorem not_mem_parts_zip (name : String) : name ∉ (Path.ofString (name ++ ".zip")).parts := by
  intro hmem
  obtain ⟨cs, hcs, rfl⟩ := List.mem_map.mp (List.mem_filter.mp hmem).1
  have hwhole : Text.pieces (· == '/') (String.ofList cs ++ ".zip").toList =
      [(String.ofList cs ++ ".zip").toList] := by
    refine Text.pieces_of_uncut fun c hc => ?_
    rw [String.toList_append, String.toList_ofList, List.mem_append] at hc
    cases hc with
    | inl hc => exact (Text.mem_of_mem_pieces hcs hc).2
    | inr hc =>
        have hzip : ".zip".toList.all (fun c => !(c == '/')) = true := by decide
        simpa using List.all_eq_true.mp hzip c hc
  rw [hwhole, List.mem_singleton, String.toList_append, String.toList_ofList] at hcs
  have hlen := congrArg List.length hcs
  rw [List.length_append] at hlen
  have hzip : ".zip".toList.length = 4 := by decide
  omega

/-- The archive does not lie in the output directory, unless that is the root. -/
theorem archivePlace_not_below (env : Environment) (ho : ".." ∉ output) (hne : output ≠ []) :
    ¬ output <+: archivePlace env output := by
  have houtput : output.dropLast ++ [output.getLast hne] = output :=
    List.dropLast_concat_getLast hne
  have hname : (Location.path output).name = output.getLast hne := by
    show output.getLast?.getD "" = _
    rw [List.getLast?_eq_some_getLast hne, Option.getD_some]
  have hlast := not_mem_parts_zip (output.getLast hne)
  have hshort : ∀ here : Location, here.length < output.length →
      ¬ output.dropLast ++ [output.getLast hne] <+: here := by
    intro here hlen hp
    have := hp.length_le
    rw [houtput] at this
    omega
  have hpos := List.length_pos_iff.mpr hne
  rw [archivePlace, archivePath, Path.sibling, hname, Path.child, Path.join]
  split
  · -- the archive is looked for from the directory above
    show ¬ output <+: List.foldl Store.step [] (output.dropLast ++ _)
    rw [List.foldl_append, Store.foldl_step_of_plain [] fun hm => ho (List.dropLast_subset _ hm)]
    have := not_prefix_foldl_step hlast (hshort ([] ++ output.dropLast) (by simp; omega))
    rwa [houtput] at this
  · rename_i hanchor
    rw [Path.location, Store.startOf, if_neg hanchor]
    have := not_prefix_foldl_step hlast (hshort [] (by simpa using hpos))
    rwa [houtput] at this

/-- Nor does it lie in a directory in the output directory. -/
theorem ne_archivePlace_of_below (env : Environment) (ho : ".." ∉ output) {below l : Location}
    (hne : below ≠ []) (hp : output ++ below <+: l) (hl : l ≠ output ++ below) :
    l ≠ archivePlace env output := by
  rintro rfl
  by_cases hroot : output = []
  · subst hroot
    have hlen : (archivePlace env []).length = 1 := rfl
    have hpos := List.length_pos_iff.mpr hne
    exact hl (hp.eq_of_length_le (by rw [hlen]; exact hpos)).symm
  · exact archivePlace_not_below env ho hroot ((List.prefix_append _ _).trans hp)

/-! ## Adding files -/

/-- All files below a directory can be added to an archive. -/
def Addable (machine : Machine) (p : Path) (files : List (Location × Content)) : Prop :=
  ∀ file ∈ files, snag? machine (p.extend file.1) = none

/-- The files below a directory can be added up to one that cannot, for a fault. -/
inductive Stops (machine : Machine) (p : Path) :
    List (Location × Content) → List (Location × Content) → Fault → Prop
  | after {before rest : List (Location × Content)} {file : Location × Content} {fault : Fault}
      (added : Addable machine p before) (snag : snag? machine (p.extend file.1) = some fault) :
      Stops machine p (before ++ file :: rest) before fault

theorem addable_or_stops (machine : Machine) (p : Path) : ∀ files : List (Location × Content),
    Addable machine p files ∨ ∃ before fault, Stops machine p files before fault
  | [] => Or.inl fun _ h => absurd h List.not_mem_nil
  | file :: rest => by
      cases hsnag : snag? machine (p.extend file.1) with
      | some fault =>
          exact Or.inr ⟨[], fault, .after (fun _ h => absurd h List.not_mem_nil) hsnag⟩
      | none =>
          rcases addable_or_stops machine p rest with hadd | ⟨_, fault, ⟨hadded, hstop⟩⟩
          · exact Or.inl (List.forall_mem_cons.mpr ⟨hsnag, hadd⟩)
          · exact Or.inr ⟨_, fault, .after (List.forall_mem_cons.mpr ⟨hsnag, hadded⟩) hstop⟩

/-- A file is added and the rest after it, unless it has a snag. -/
theorem addAll_cons (made : List Archive.Member) (file : Location × Content)
    (rest : List (Location × Content)) :
    addAll p l made (file :: rest) env s = match snag? env.toMachine (p.extend file.1) with
      | some fault => .error fault s
      | none => addAll p l (made ++ [member p file]) rest env { s with
          store := s.store.put l (.file (.archive (made ++ [member p file]))) } := by
  show EStateM.bind (Disk.failIf (snag? env.toMachine (p.extend file.1)) env) _ s = _
  cases snag? env.toMachine (p.extend file.1) <;> rfl

/-- What a state is left with when an archive is written at a place. -/
abbrev leaving (s : State) (l : Location) (made : List Archive.Member) : State :=
  { s with store := s.store.put l (.file (.archive made)) }

/-- All files are added that can be. -/
theorem addAll_of_addable {files : List (Location × Content)}
    (h : Addable env.toMachine p files) (made : List Archive.Member) :
    addAll p l made files env (leaving s l made) =
      .ok (made ++ members p files) (leaving s l (made ++ members p files)) := by
  induction files generalizing made with
  | nil => rw [members, List.map_nil, List.append_nil]; rfl
  | cons file rest ih =>
      obtain ⟨hfile, hrest⟩ := List.forall_mem_cons.mp h
      have hlast := ih hrest (made ++ [member p file])
      rw [List.append_assoc] at hlast
      rw [addAll_cons, hfile]
      dsimp only
      rw [Store.put_put]
      exact hlast

/-- Before a file that cannot be added, those that come first are. -/
theorem addAll_of_stops {files before : List (Location × Content)} {fault : Fault}
    (h : Stops env.toMachine p files before fault) (made : List Archive.Member) :
    addAll p l made files env (leaving s l made) =
      .error fault (leaving s l (made ++ members p before)) := by
  obtain ⟨hadded, hsnag⟩ := h
  induction before generalizing made with
  | nil => rw [List.nil_append, addAll_cons, hsnag, members, List.map_nil, List.append_nil]
  | cons file before ih =>
      obtain ⟨hfile, hbefore⟩ := List.forall_mem_cons.mp hadded
      have hlast := ih (made ++ [member p file]) hbefore
      rw [List.append_assoc] at hlast
      rw [List.cons_append, addAll_cons, hfile]
      dsimp only
      rw [Store.put_put]
      exact hlast

/-! ## How packing ends -/

/-- Listing files changes nothing. -/
theorem follows_filesOf (p : Path) : Act.Follows env (fun s t => t = s) (filesOf p) :=
  (Act.Chained.part id).follows_filesOf p

/-- How packing a directory ends. -/
inductive Ends (p : Path) (env : Environment) (s : State) :
    EStateM.Result Fault State Path → Prop
  /-- The files cannot be listed. -/
  | unlisted {fault : Fault} (listing : filesOf p env s = .error fault s) :
      Ends p env s (.error (Disk.asTask (.createArchive (archivePath p)) fault) s)
  /-- The archive cannot be opened. -/
  | unopened {files : List (Location × Content)} {fault : Fault}
      (listing : filesOf p env s = .ok files s)
      (opening : Disk.create (archivePath p) (.archive []) env s = .error fault s) :
      Ends p env s (.error (Disk.asTask (.createArchive (archivePath p)) fault) s)
  /-- A file cannot be added.  The archive has those before it. -/
  | stopped {files before : List (Location × Content)} {l : Location} {fault : Fault}
      (listing : filesOf p env s = .ok files s) (plain : (archivePath p).holdsNul = false)
      (place : s.store.placeToWrite env.here (archivePath p) = .ok l)
      (stops : Stops env.toMachine p files before fault) :
      Ends p env s (.error (Disk.asTask (.createArchive (archivePath p)) fault)
        (leaving s l (members p before)))
  /-- All files are added, and that is noted. -/
  | packed {files : List (Location × Content)} {l : Location}
      (listing : filesOf p env s = .ok files s) (plain : (archivePath p).holdsNul = false)
      (place : s.store.placeToWrite env.here (archivePath p) = .ok l)
      (addable : Addable env.toMachine p files) :
      Ends p env s (.ok (archivePath p) { leaving s l (members p files) with notes := s.notes ++
        [.archived (archivePath p) files.length (Archive.encode (members p files)).length] })

section Listed

variable {files before : List (Location × Content)} {fault : Fault}
  (hfiles : filesOf p env s = .ok files s) (hnul : (archivePath p).holdsNul = false)
  (hplace : s.store.placeToWrite env.here (archivePath p) = .ok l)

/-- Files that cannot be listed are not packed. -/
theorem pack_of_unlisted (h : filesOf p env s = .error fault s) :
    pack p env s = .error (Disk.asTask (.createArchive (archivePath p)) fault) s :=
  Act.bind_error.mpr (Or.inl (Act.mapFault_error.mpr ⟨_, Act.bind_error.mpr (Or.inl h), rfl⟩))

include hfiles

/-- Nor are files whose archive cannot be opened. -/
theorem pack_of_unopened
    (h : Disk.create (archivePath p) (.archive []) env s = .error fault s) :
    pack p env s = .error (Disk.asTask (.createArchive (archivePath p)) fault) s :=
  Act.bind_error.mpr (Or.inl (Act.mapFault_error.mpr ⟨fault, Act.bind_error.mpr
    (Or.inr ⟨files, s, hfiles, Act.bind_error.mpr (Or.inl h)⟩), rfl⟩))

include hnul hplace

/-- An archive is empty when it is opened, and the files are added to it then. -/
theorem adding_eq : (do
    let files ← filesOf p
    let place ← Disk.create (archivePath p) (.archive [])
    addAll p place [] files) env s = addAll p l [] files env (leaving s l []) := by
  rw [Act.bind_of_ok hfiles, Act.bind_of_ok (Disk.create_ok.mpr ⟨hnul, hplace, rfl⟩)]

theorem pack_of_stops (h : Stops env.toMachine p files before fault) :
    pack p env s = .error (Disk.asTask (.createArchive (archivePath p)) fault)
      (leaving s l (members p before)) :=
  Act.bind_error.mpr (Or.inl (Act.mapFault_error.mpr
    ⟨fault, (adding_eq hfiles hnul hplace).trans (addAll_of_stops h []), rfl⟩))

theorem pack_of_addable (h : Addable env.toMachine p files) :
    pack p env s = .ok (archivePath p) { leaving s l (members p files) with notes := s.notes ++
      [.archived (archivePath p) files.length (Archive.encode (members p files)).length] } := by
  have hadded := (adding_eq hfiles hnul hplace).trans (addAll_of_addable h [])
  rw [pack, Act.bind_of_ok (Disk.during_ok.mpr hadded), Act.bind_note, List.nil_append, members,
    List.length_map]
  rfl

end Listed

/-- Packing ends in one of these ways. -/
theorem pack_ends (p : Path) (env : Environment) (s : State) : Ends p env s (pack p env s) := by
  cases hfiles : filesOf p env s with
  | error fault t =>
      obtain rfl : t = s := (follows_filesOf p).error hfiles
      rw [pack_of_unlisted hfiles]
      exact .unlisted hfiles
  | ok files t =>
      obtain rfl : t = s := (follows_filesOf p).ok hfiles
      cases hcreate : Disk.create (archivePath p) (.archive []) env t with
      | error fault u =>
          obtain rfl := Disk.create_error hcreate
          rw [pack_of_unopened hfiles hcreate]
          exact .unopened hfiles hcreate
      | ok l u =>
          obtain ⟨hnul, hplace, rfl⟩ := Disk.create_ok.mp hcreate
          rcases addable_or_stops env.toMachine p files with hadd | ⟨before, fault, hstops⟩
          · rw [pack_of_addable hfiles hnul hplace hadd]
            exact .packed hfiles hnul hplace hadd
          · rw [pack_of_stops hfiles hnul hplace hstops]
            exact .stopped hfiles hnul hplace hstops

/-- Packing writes the archive, or leaves the store as it is. -/
theorem pack_store (p : Path) :
    ((pack p).final env s).store = s.store ∨ ∃ content,
      s.store.write env.here (archivePath p) content =
        .ok ((pack p).final env s).store := by
  have hends := pack_ends p env s
  rw [Act.final]
  cases hpack : pack p env s with
  | ok path t =>
      rw [hpack] at hends
      cases hends with
      | packed _ _ place => exact Or.inr ⟨_, Store.write_of_place place _⟩
  | error fault t =>
      rw [hpack] at hends
      cases hends with
      | unlisted | unopened => exact Or.inl rfl
      | stopped _ _ place => exact Or.inr ⟨_, Store.write_of_place place _⟩

/-! ## Packing where a path leads to a directory -/

/-- The files of a directory are listed unless something in it is an obstacle. -/
theorem filesOf_of_stat (hnul : p.holdsNul = false)
    (hstat : s.store.stat env.here p = .ok (l, .directory)) :
    filesOf p env s = match s.store.obstacle? p l with
      | some (path, e) => .error (Disk.refused e path) s
      | none => .ok (s.store.filesBelow l) s := by
  have hplace : place? s.store env.here p = .ok (some l) := by
    rw [place?, if_neg (by simp [hnul]), hstat]
  rw [filesOf, Act.bind_of_ok (Disk.look_ok.mpr ⟨hplace, rfl⟩),
    Act.bind_of_ok (Act.get_ok.mpr ⟨rfl, rfl⟩)]
  dsimp only
  cases s.store.obstacle? p l <;> rfl

/-! ## Packing a directory -/

section Directory

variable (hs : s.store.Tree) (ho : ".." ∉ output) (hnul : (Location.path output).holdsNul = false)
  (hdir : s.store.get? output = some .directory)
include hs ho hnul hdir

/-- The path of a directory that is found is short enough. -/
theorem short_of_place? {place : Option Location}
    (h : place? s.store env.here (Location.path output) = .ok place) : output.Short := by
  rw [place?, hnul, Store.stat] at h
  cases hf : s.store.find env.here (Location.path output) true with
  | ok spot => exact ((Store.find_ok_iff hs ho).mp hf).1
  | error e =>
      rw [hf] at h
      rcases Store.find_error hs ho hf with rfl | ⟨_, hnone⟩
      · simp [Store.isAbsence] at h
      · cases hdir.symm.trans hnone

/-- The files of a directory are listed if its path is short enough and nothing in it
is an obstacle. -/
theorem filesOf_ok_iff {files : List (Location × Content)} :
    filesOf (Location.path output) env s = .ok files s' ↔
      output.Short ∧ s.store.obstacle? (Location.path output) output = none ∧
        files = s.store.filesBelow output ∧ s' = s := by
  by_cases hshort : output.Short
  · rw [filesOf_of_stat hnul (Store.stat_of_some hs ho hshort hdir)]
    cases s.store.obstacle? (Location.path output) output <;> simp [hshort, eq_comm]
  · refine iff_of_false (fun h => ?_) fun h => hshort h.1
    obtain ⟨_, _, hlook, _⟩ := Act.bind_ok.mp h
    exact hshort (short_of_place? hs ho hnul hdir (Disk.look_ok.mp hlook).1)

/-- What it takes to pack a directory, and what is left: the archive is written, and
that is noted. -/
theorem pack_ok_iff {path : Path} :
    pack (Location.path output) env s = .ok path s' ↔
      path = archivePath (Location.path output) ∧ output.Short ∧
        s.store.obstacle? (Location.path output) output = none ∧
        Addable env.toMachine (Location.path output) (s.store.filesBelow output) ∧
        path.holdsNul = false ∧
        ∃ l, s.store.placeToWrite env.here path = .ok l ∧
          s' = { s with
            store := s.store.put l (.file (archiveOf output s.store))
            notes := s.notes ++ [.archived path (s.store.filesBelow output).length
              (Archive.encode (members (Location.path output)
                (s.store.filesBelow output))).length] } := by
  constructor
  · intro h
    have hends := pack_ends (Location.path output) env s
    rw [h] at hends
    cases hends with
    | packed listing plain place addable =>
        obtain ⟨hshort, hobstacle, rfl, _⟩ := (filesOf_ok_iff hs ho hnul hdir).mp listing
        exact ⟨rfl, hshort, hobstacle, addable, plain, _, place, rfl⟩
  · rintro ⟨rfl, hshort, hobstacle, hadd, hplain, l, hplace, rfl⟩
    exact pack_of_addable ((filesOf_ok_iff hs ho hnul hdir).mpr ⟨hshort, hobstacle, rfl, rfl⟩)
      hplain hplace hadd

/-- Packing writes the archive and nothing else. -/
theorem pack_ok {path : Path} (h : pack (Location.path output) env s = .ok path s') :
    path = archivePath (Location.path output) ∧ s'.store.Tree ∧ s'.accounts = s.accounts ∧
      s'.store.stat env.here path =
        .ok (archivePlace env output, .file (archiveOf output s.store)) ∧
      ∀ l, s'.store.get? l = if l = archivePlace env output then
        some (.file (archiveOf output s.store)) else s.store.get? l := by
  obtain ⟨rfl, _, _, _, _, l, hplace, rfl⟩ := (pack_ok_iff hs ho hnul hdir).mp h
  have hput := Store.write_of_place hplace (archiveOf output s.store)
  have htree := hs.write (not_mem_archivePlace env output) hput
  obtain ⟨hwritten, hne, _, _, hstat⟩ := Store.write_ok hs hput
  refine ⟨rfl, htree, ?_, hstat, fun m => ?_⟩
  · simp [State.accounts, State.ledger, Note.isEntry]
  · dsimp only
    rw [hwritten]
    exact Store.get?_put _ _ m _ hne

end Directory

/-! ## Packing alike -/

/-- A directory can be packed in trees that show the same alike. -/
theorem pack_congr {path : Path} (hs : s.store.Tree) (ht : t.store.Tree) (ho : ".." ∉ output)
    (hnul : (Location.path output).holdsNul = false)
    (hdir : s.store.get? output = some .directory) (h : s.store.get? = t.store.get?)
    (hpack : pack (Location.path output) env s = .ok path s') :
    ∃ t', pack (Location.path output) env t = .ok path t' := by
  obtain ⟨hpath, hshort, hobstacle, hadd, hplain, l, hplace, _⟩ :=
    (pack_ok_iff hs ho hnul hdir).mp hpack
  have halike : ∀ l, output <+: l → s.store.get? l = t.store.get? l := fun l _ => congrFun h l
  rw [Store.filesBelow_congr hs ht halike] at hadd
  rw [Store.placeToWrite_congr h] at hplace
  exact ⟨_, (pack_ok_iff ht ho hnul (congrFun h output ▸ hdir)).mpr ⟨hpath, hshort,
    Store.obstacle?_congr hs ht halike hobstacle, hadd, hplain, l, hplace, rfl⟩⟩

/-- What was just packed is packed again on the same machine, into the same archive, and the
store shows the same afterwards. -/
theorem pack_again {env' : Environment} (hmachine : env'.toMachine = env.toMachine) {path : Path}
    (hs : s.store.Tree) (ht : t.store.Tree) (ho : ".." ∉ output) (hroot : output ≠ [])
    (hnul : (Location.path output).holdsNul = false)
    (hdir : s.store.get? output = some .directory)
    (hpack : pack (Location.path output) env s = .ok path s')
    (hsame : t.store.get? = s'.store.get?) :
    ∃ store size, store.get? = t.store.get? ∧ pack (Location.path output) env' t = .ok path
      { t with store := store, notes := t.notes ++
        [.archived path (t.store.filesBelow output).length size] } := by
  obtain ⟨hpath, _, _, hstat, hview⟩ := pack_ok hs ho hnul hdir hpack
  obtain ⟨_, hshort, hobstacle, hadd, hplain, _⟩ := (pack_ok_iff hs ho hnul hdir).mp hpack
  rw [← hsame] at hview
  rw [← Store.stat_congr hsame] at hstat
  have halike : ∀ l, output <+: l → s.store.get? l = t.store.get? l := by
    intro l hl
    have hne : l ≠ archivePlace env output := fun he =>
      archivePlace_not_below env ho hroot (he ▸ hl)
    rw [hview, if_neg hne]
  have hplace : t.store.placeToWrite env'.here path = .ok (archivePlace env output) := by
    rw [hmachine, Store.placeToWrite, Store.find_of_stat hstat]
  have harchive : archiveOf output t.store = archiveOf output s.store := by
    rw [archiveOf, archiveOf, Store.filesBelow_congr hs ht halike]
  rw [← hmachine, Store.filesBelow_congr hs ht halike] at hadd
  refine ⟨_, _, ?_, (pack_ok_iff ht ho hnul (halike output (List.prefix_refl _) ▸ hdir)).mpr
    ⟨hpath, hshort, Store.obstacle?_congr hs ht halike hobstacle, hadd, hplain, _, hplace, rfl⟩⟩
  funext l
  rw [Store.get?_put _ _ _ _ (Store.ne_nil_of_file ((Store.stat_ok ht hstat).2)), harchive]
  split
  · rename_i he
    rw [hview, if_pos he]
  · rfl

end Packing

end Dossier
