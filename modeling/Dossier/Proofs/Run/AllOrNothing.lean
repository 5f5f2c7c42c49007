import Dossier.Proofs.Run.Release

/-!
# The archive of a run, all or nothing

Nothing that a run does before it packs its output directory reaches the archive beside it
(`drained_untouched`).  But packing empties the archive before files are added to it.  A run
that fails after that is *unfinished*: a file cannot be added, or all are added and the time
that the run took cannot be told.  It leaves an archive with the files that were added, while
a run that fails in any other way leaves what was there (`run_allOrNothing`).

A run that completes packs only after everything that it opened is closed, and makes no
more calls.  Its archive has exactly the files of the output directory in it.
-/

namespace Dossier

open Script (Directive Source Action)
open Act (Follows Keeps)
open Custody (Orderly)
open State (Contained)

variable {settings : Settings} {given : Provided} {env : Environment} {s s' t : State}
  {output l : Location} {p : Path} {directives : List Directive} {fault : Fault}

/-! ## The place of the archive -/

namespace Location

theorem length_archive (hne : output ≠ []) : output.archive.length = output.length := by
  have hpos := List.length_pos_iff.mpr hne
  rw [archive, List.length_append, List.length_dropLast, List.length_singleton]
  omega

/-- What lies at the place of the archive or below it does not lie in the directory. -/
theorem not_prefix_of_archive (hne : output ≠ []) (hl : output.archive <+: l) :
    ¬ output <+: l := by
  intro hp
  have hsame := List.prefix_of_prefix_length_le hl hp (length_archive hne).le
  exact output.archive_ne (hsame.eq_of_length (length_archive hne))

/-- Nor above it. -/
theorem archive_not_above (hne : output ≠ []) (hl : output.archive <+: l) : ¬ l <+: output :=
  fun hp => output.archive_ne ((hl.trans hp).eq_of_length (length_archive hne))

end Location

namespace Run

/-! ## Draining -/

/-- Where a run has drained its rows, the place of its archive shows what it showed in the
beginning. -/
theorem drained_untouched (line : Option Int) {name : String} {rest : List Directive}
    (hplain : output.Plain) (hne : output ≠ []) (hlater : ∀ directive ∈ rest, directive.IsLater)
    (hopen : opening settings given name env s = .ok (Location.path output) t)
    (hgrows : Store.Grows output s.store t.store) (hdir : t.store.get? output = some .directory)
    (hend : (draining settings given (Location.path output) rest).final env t = s') :
    s'.store.Tree ∧ s'.store.get? output = some .directory ∧
      ∀ l, output.archive <+: l → s'.store.get? l = s.store.get? l := by
  have hrows : Contained output
      (Removable settings given env s (⟨line, .archiveName name⟩ :: rest) output) t
      ((rows settings (Location.path output) rest).final env t) :=
    rows_contained hplain.not_mem hlater (show rest = [] ++ (rest ++ []) by simp) rfl hopen rfl
  have hwithin := hrows hgrows.tree hdir
  rw [← drain_store given, hend] at hwithin
  refine ⟨hwithin.tree, (hwithin.outside (Store.not_below_self output)).trans hdir,
    fun l hl => ?_⟩
  rw [hwithin.outside fun hbelow => Location.not_prefix_of_archive hne hl hbelow.1]
  by_contra hchanged
  exact Location.archive_not_above hne hl (hgrows.made l hchanged).1

/-! ## Completing -/

/-- A run that has drained its rows fails once it has opened its archive, for a fault.  The
archive has some members then. -/
inductive Unfinished (p : Path) (env : Environment) (s : State) :
    List Archive.Member → Fault → Prop
  /-- A file cannot be added.  The archive has those before it. -/
  | stopped {files before : List (Location × Content)} {l : Location} {fault : Fault}
      (listing : Packing.filesOf p env s = .ok files s)
      (plain : (Packing.archivePath p).holdsNul = false)
      (place : s.store.placeToWrite env.here (Packing.archivePath p) = .ok l)
      (stops : Packing.Stops env.toMachine p files before fault) :
      Unfinished p env s (Packing.members p before)
        (Disk.asTask (.createArchive (Packing.archivePath p)) fault)
  /-- All files are added, but the time that the run took cannot be told. -/
  | untold {files : List (Location × Content)} {l : Location} {cause : Duration.Fault}
      (listing : Packing.filesOf p env s = .ok files s)
      (plain : (Packing.archivePath p).holdsNul = false)
      (place : s.store.placeToWrite env.here (Packing.archivePath p) = .ok l)
      (addable : Packing.Addable env.toMachine p files)
      (between : Duration.between s.report.startTime s.clock = .error cause) :
      Unfinished p env s (Packing.members p files) (.clock cause)

/-- A run whose time cannot be told fails when it has packed. -/
theorem complete_of_untold {path : Path} {cause : Duration.Fault}
    (hpack : Packing.pack p env s = .ok path t)
    (hbetween : Duration.between t.report.startTime t.clock = .error cause) :
    ∃ u, complete p env s = .error (.clock cause) u ∧ u.store = t.store := by
  have htold : Duration.between (closingReport t.report path t.clock).startTime t.clock =
      .error cause := hbetween
  rw [complete_eq, hpack]
  dsimp only
  rw [htold]
  exact ⟨_, rfl, rfl⟩

/-- A run that is unfinished fails, and leaves the members that were added. -/
theorem Unfinished.complete_error {made : List Archive.Member} (h : Unfinished p env s made fault) :
    ∃ l t, s.store.placeToWrite env.here (Packing.archivePath p) = .ok l ∧
      complete p env s = .error fault t ∧ t.store = s.store.put l (.file (.archive made)) := by
  cases h with
  | @stopped _ before l f listing plain place stops =>
      have hfails : complete p env s =
          .error (Disk.asTask (.createArchive (Packing.archivePath p)) f)
            (Packing.leaving s l (Packing.members p before)) := by
        rw [complete_eq, Packing.pack_of_stops listing plain place stops]
      exact ⟨l, _, place, hfails, rfl⟩
  | untold listing plain place addable between =>
      obtain ⟨t, hfails, hstore⟩ :=
        complete_of_untold (Packing.pack_of_addable listing plain place addable) between
      exact ⟨_, t, place, hfails, hstore⟩

/-- Completing a run that fails writes nothing, unless the run is unfinished. -/
theorem complete_fails (h : complete p env s = .error fault s') :
    s'.store = s.store ∨ ∃ made, Unfinished p env s made fault := by
  have hends := Packing.pack_ends p env s
  rw [complete_eq] at h
  cases hpack : Packing.pack p env s with
  | error f t =>
      rw [hpack] at h hends
      cases h
      cases hends with
      | unlisted | unopened => exact Or.inl rfl
      | stopped listing plain place stops => exact Or.inr ⟨_, .stopped listing plain place stops⟩
  | ok path t =>
      rw [hpack] at h hends
      cases hends with
      | packed listing plain place addable =>
          dsimp only at h
          split at h
          · rename_i hbetween
            cases h
            exact Or.inr ⟨_, .untold listing plain place addable hbetween⟩
          · cases h

/-- The members that were added are in the archive beside the output directory. -/
theorem Unfinished.shows {made : List Archive.Member} (hs : s.store.Tree) (hplain : output.Plain)
    (h : Unfinished (Location.path output) env s made fault)
    (hfails : complete (Location.path output) env s = .error fault s') :
    s'.store.get? output.archive = some (.file (.archive made)) := by
  obtain ⟨l, t, hplace, hfails', hstore⟩ := h.complete_error
  cases hfails.symm.trans hfails'
  obtain ⟨_, hne, _, _, hstat⟩ :=
    Store.write_ok hs (Store.write_of_place hplace (.archive made))
  rw [hstore]
  have hthere := (Store.stat_ok (hs.write (Packing.not_mem_archivePlace env output)
    (Store.write_of_place hplace (.archive made))) hstat).2
  rwa [← Packing.archivePlace_eq env hplain.not_mem hplain.not_mem_last]

/-! ## Runs -/

/-- Everything that a run opened is closed: all its calls are orderly, and no session is
held but one that was handed to it, and no browser unless one was. -/
structure Shut (given : Provided) (env : Environment) (s t : State) : Prop where
  calls : ∃ added, t.trace = s.trace ++ added ∧
    Orderly env s.trace (s.handles.custody given.session) added (t.handles.custody given.session)
  browser : given.browser = false → t.handles = {}

/-- A report tells of an archive that has the files of a directory in it, each once, with
their contents. -/
def Archives (env : Environment) (output : Location) (report : Report) (store : Store) : Prop :=
  ∃ path files, report.archivePath = some path ∧
    store.stat env.here path =
      .ok (output.archive, .file (.archive (Packing.members (Location.path output) files))) ∧
    (files.map Prod.fst).Nodup ∧
    ∀ below c, (below, c) ∈ files ↔ store.get? (output ++ below) = some (.file c)

/-- A directory that is packed has an archive with its files. -/
theorem archives_of_pack (hs : s.store.Tree) (hplain : output.Plain) (hne : output ≠ [])
    (hnul : (Location.path output).holdsNul = false)
    (hdir : s.store.get? output = some .directory) {path : Path} {report : Report}
    (hpack : Packing.pack (Location.path output) env s = .ok path t)
    (hpath : report.archivePath = some path) : Archives env output report t.store := by
  obtain ⟨rfl, _, _, hstat, hview⟩ := Packing.pack_ok hs hplain.not_mem hnul hdir hpack
  obtain ⟨_, _, hclear, _⟩ := (Packing.pack_ok_iff hs hplain.not_mem hnul hdir).mp hpack
  rw [Packing.archivePlace_eq env hplain.not_mem hplain.not_mem_last] at hstat hview
  refine ⟨_, s.store.filesBelow output, hpath, hstat, Store.nodup_filesBelow hs output,
    fun below c => ?_⟩
  have hother : output ++ below ≠ output.archive := fun he =>
    Location.not_prefix_of_archive hne (List.prefix_refl _) (he ▸ List.prefix_append _ _)
  rw [Store.mem_filesBelow_iff hs hclear, hview, if_neg hother]
  refine ⟨And.right, fun hfile => ⟨?_, hfile⟩⟩
  rintro rfl
  rw [List.append_nil, hdir] at hfile
  cases hfile

/-- Where a run has drained its rows it is shut, unless something of it did not close. -/
theorem shut_draining (hpaired : s.handles.Paired) {name : String} {rest : List Directive}
    (hopen : opening settings given name env s = .ok p t)
    (hend : (draining settings given p rest).final env t = s') : Shut given env s s' := by
  obtain ⟨hhandles, hopened⟩ := (opening_manages settings given env s name).2 p t hopen
  obtain ⟨_, hnone, hdrained⟩ := draining_manages settings given p rest (hhandles ▸ hpaired) hend
  obtain ⟨added, htrace, horderly, _⟩ := hopened.trans hdrained
  exact ⟨⟨added, htrace, horderly⟩, hnone⟩

/-- A run comes to its archive in a state: its rows are carried out, and everything that it
opened is closed. -/
def Drained (settings : Settings) (given : Provided) (env : Environment) (s : State)
    (directives : List Directive) (p : Path) (t : State) : Prop :=
  ∃ u, Opened settings given env s directives p u ∧
    draining settings given p directives.tail env u = .ok () t

theorem Drained.run_eq (h : Drained settings given env s directives p t) :
    run settings given directives env s = complete p env t := by
  obtain ⟨u, hopened, hdrain⟩ := h
  rw [hopened.run_eq, Act.bind_of_ok hdrain]

section Drained

variable {line : Option Int} {name : String} {rest : List Directive} (hs : s.store.Tree)
  (hhere : env.here.Plain) (hplain : output.Plain) (hne : output ≠ [])
  (hout : output = (settings.outputRoot.child name).location env.here)
  (hlater : ∀ directive ∈ rest, directive.IsLater)
include hs hhere hplain hne hout hlater

/-- Nothing has come to the place of the archive when a run comes to it. -/
theorem Drained.untouched
    (h : Drained settings given env s (⟨line, .archiveName name⟩ :: rest) p t) :
    p = Location.path output ∧ (Location.path output).holdsNul = false ∧ t.store.Tree ∧
      t.store.get? output = some .directory ∧
        ∀ l, output.archive <+: l → t.store.get? l = s.store.get? l := by
  obtain ⟨u, ⟨_, _, _, hparts, hopen⟩, hdrain⟩ := h
  cases hparts
  have hgrows := opening_grows given hs hhere.not_mem hout
  rw [Act.final_of_ok hopen] at hgrows
  obtain ⟨rfl, hbegun⟩ := opening_ok hs hhere.not_mem hout hopen
  exact ⟨rfl, hbegun.nul, drained_untouched line hplain hne hlater hopen hgrows
    hbegun.opens.directory (Act.final_of_ok hdrain)⟩

/-- A run that fails leaves what is at the place of its archive, unless it fails when it has
come to it. -/
theorem run_error_cases
    (h : run settings given (⟨line, .archiveName name⟩ :: rest) env s = .error fault s') :
    (∀ l, output.archive <+: l → s'.store.get? l = s.store.get? l) ∨
      ∃ t, Drained settings given env s (⟨line, .archiveName name⟩ :: rest)
        (Location.path output) t ∧ complete (Location.path output) env t = .error fault s' := by
  have hgrows := opening_grows given hs hhere.not_mem hout
  rw [run_phases] at h
  rcases Act.bind_error.mp h with hopen | ⟨p, t, hopen, hrest⟩
  · -- only directories above the output directory were made
    rw [Act.final_of_error hopen] at hgrows
    refine Or.inl fun l hl => ?_
    by_contra hchanged
    exact Location.archive_not_above hne hl (hgrows.made l hchanged).1
  · rw [Act.final_of_ok hopen] at hgrows
    obtain ⟨rfl, hbegun⟩ := opening_ok hs hhere.not_mem hout hopen
    rcases Act.bind_error.mp hrest with hdrain | ⟨_, u, hdrain, hcomplete⟩
    · exact Or.inl (drained_untouched line hplain hne hlater hopen hgrows
        hbegun.opens.directory (Act.final_of_error hdrain)).2.2
    · exact Or.inr ⟨u, ⟨t, ⟨line, name, rest, rfl, hopen⟩, hdrain⟩, hcomplete⟩

end Drained

/-- However a run fails, what was at the place of its archive is there afterwards, and so is
all below it, unless it is unfinished.  Then there is an archive with the members that were
added.  If a run completes, it packed in a state in which everything that it had opened was
closed and nothing had come to the place of the archive, and made no more calls.  The archive
has the files in it that the output directory has at the end. -/
theorem run_allOrNothing {text root : String} (hparse : Script.parse text = .ok directives)
    (given : Provided) (hs : s.store.Tree) (hhere : env.here.Plain)
    (hroot : settings.outputRoot = Path.ofString root)
    (hout : output = outputOf settings env directives) (hne : output ≠ [])
    (hpaired : s.handles.Paired) :
    (∀ fault s', run settings given directives env s = .error fault s' →
      (∀ t made, Drained settings given env s directives (Location.path output) t →
        Unfinished (Location.path output) env t made fault →
          s'.store.get? output.archive = some (.file (.archive made))) ∧
      ((¬ ∃ t made, Drained settings given env s directives (Location.path output) t ∧
          Unfinished (Location.path output) env t made fault) →
        ∀ l, output.archive <+: l → s'.store.get? l = s.store.get? l)) ∧
    ∀ report s', run settings given directives env s = .ok report s' →
      report.status = "completed" ∧ Archives env output report s'.store ∧
      ∃ t, Shut given env s t ∧ (∀ l, output.archive <+: l → t.store.get? l = s.store.get? l) ∧
        complete (Location.path output) env t = .ok report s' ∧ s'.trace = t.trace := by
  obtain ⟨line, name, rest, rfl, hname, hlater⟩ := Script.parse_shape hparse
  have hplain : output.Plain := by
    rw [hout, outputOf, hroot]
    exact plain_child hhere hname
  have hout' : output = (settings.outputRoot.child name).location env.here := hout
  constructor
  · intro fault s' hrun
    constructor
    · intro t made hdrained hunfinished
      obtain ⟨_, _, htree, _⟩ := hdrained.untouched hs hhere hplain hne hout' hlater
      exact hunfinished.shows htree hplain (hdrained.run_eq.symm.trans hrun)
    · intro hfinished l hl
      rcases run_error_cases hs hhere hplain hne hout' hlater hrun with
        hsame | ⟨t, hdrained, hcomplete⟩
      · exact hsame l hl
      · rcases complete_fails hcomplete with hstore | ⟨made, hunfinished⟩
        · obtain ⟨_, _, _, _, huntouched⟩ := hdrained.untouched hs hhere hplain hne hout' hlater
          rw [hstore]
          exact huntouched l hl
        · exact absurd ⟨t, made, hdrained, hunfinished⟩ hfinished
  · intro report s' hrun
    obtain ⟨p, u, t, hopened, hdrain, hcomplete⟩ := run_ok hrun
    obtain ⟨rfl, hnul, htree, hdir, huntouched⟩ :=
      Drained.untouched hs hhere hplain hne hout' hlater ⟨u, hopened, hdrain⟩
    obtain ⟨path, v, _, hpack, rfl, rfl⟩ := complete_steps hcomplete
    obtain ⟨_, _, _, hparts, hopen⟩ := hopened
    cases hparts
    have harchives : Archives env output (closingReport v.report path v.clock) v.store :=
      archives_of_pack htree hplain hne hnul hdir hpack rfl
    exact ⟨rfl, harchives, t,
      shut_draining hpaired hopen (Act.final_of_ok hdrain), huntouched, hcomplete,
      State.trace_of_dealings ((State.inward_dealings.follows_complete _).ok hcomplete)⟩

/-! ## An archive that is not finished -/

/-- There is an archive of an earlier run, and there are two files to be packed. -/
def olderArchive : State :=
  { store := ⟨[(["output"], .directory), (["output", "q.zip"], .file (.plain [90])),
      (["output", "q"], .directory), (["output", "q", "a.txt"], .file (.plain [97])),
      (["output", "q", "b.txt"], .file (.plain [98]))]⟩ }

/-- One of them is dated too early for an archive. -/
def backdated : Environment :=
  { year := fun file => if file.name = "b.txt" then 1970 else 2000 }

/-- A script without rows. -/
def emptyText : String := "zip-name q"

def emptyScript : List Directive := [⟨some 1, .archiveName "q"⟩]

theorem emptyText_parses : Script.parse emptyText = .ok emptyScript :=
  Script.parse_of_toOption (by decide +kernel)

/-- The file that comes before it is added, and the run fails then.  No time has passed. -/
theorem backdated_fails :
    ∃ s', run {} {} emptyScript backdated olderArchive = .error (.date .early) s' ∧
      s'.store.get? ["output", "q.zip"] =
        some (.file (.archive [⟨"q/a.txt", [97], .deflated⟩])) ∧
      (s'.clock - olderArchive.clock).isFinite = true := by
  obtain ⟨fault, s', hrun, hcheck⟩ := Act.exists_of_breaksIn (by decide +kernel :
    (run {} {} emptyScript).BreaksIn backdated olderArchive (fun fault s' =>
      fault == .date .early && s'.store.get? ["output", "q.zip"] == some (.file (.archive
        [⟨"q/a.txt", [97], .deflated⟩])) && (s'.clock - olderArchive.clock).isFinite) = true)
  simp only [Bool.and_eq_true, beq_iff_eq] at hcheck
  obtain ⟨⟨rfl, hleft⟩, hclock⟩ := hcheck
  exact ⟨s', hrun, hleft, hclock⟩

/-- The run is unfinished. -/
theorem backdated_unfinished :
    ∃ s' t made, run {} {} emptyScript backdated olderArchive = .error (.date .early) s' ∧
      Drained {} {} backdated olderArchive emptyScript (Location.path ["output", "q"]) t ∧
      Unfinished (Location.path ["output", "q"]) backdated t made (.date .early) ∧
      s'.store.get? ["output", "q.zip"] = some (.file (.archive made)) ∧
      made.map Archive.Member.name = ["q/a.txt"] := by
  obtain ⟨s', hrun, hleft, _⟩ := backdated_fails
  obtain ⟨hmade, huntouched⟩ := (run_allOrNothing emptyText_parses {}
    (by decide +kernel : olderArchive.store.Tree) (by decide +kernel : backdated.here.Plain)
    (by decide +kernel : ({} : Settings).outputRoot = Path.ofString "output")
    (by decide +kernel : ["output", "q"] = outputOf {} backdated emptyScript) nofun
    (rfl : olderArchive.handles.Paired)).1 _ s' hrun
  by_cases hunfinished : ∃ t made,
      Drained {} {} backdated olderArchive emptyScript (Location.path ["output", "q"]) t ∧
        Unfinished (Location.path ["output", "q"]) backdated t made (.date .early)
  · obtain ⟨t, made, hdrained, hmembers⟩ := hunfinished
    have hthere := hmade t made hdrained hmembers
    cases hthere.symm.trans hleft
    exact ⟨s', t, _, hrun, hdrained, hmembers, hleft, rfl⟩
  · have hsame := huntouched hunfinished ["output", "q.zip"] (by decide +kernel)
    rw [hleft] at hsame
    exact absurd hsame (by decide +kernel)

/-- Although the output directory is not the root and no time passes, a run that fails may
leave something else at the place of its archive than what was there. -/
theorem not_all_orNothing : ¬ ∀ (settings : Settings) (given : Provided) (env : Environment)
    (s s' : State) (text root : String) (directives : List Directive) (output : Location)
    (fault : Fault), Script.parse text = .ok directives → s.store.Tree → env.here.Plain →
      settings.outputRoot = Path.ofString root → output = outputOf settings env directives →
      output ≠ [] → s.handles.Paired → (s'.clock - s.clock).isFinite = true →
      run settings given directives env s = .error fault s' →
        s'.store.get? output.archive = s.store.get? output.archive := by
  intro h
  obtain ⟨s', hrun, hleft, hclock⟩ := backdated_fails
  have hsame := h {} {} backdated olderArchive s' emptyText "output" emptyScript ["output", "q"]
    (.date .early) emptyText_parses (by decide +kernel) (by decide +kernel) (by decide +kernel)
    (by decide +kernel) nofun rfl hclock hrun
  have harchive : Location.archive ["output", "q"] = ["output", "q.zip"] := by decide +kernel
  rw [harchive, hleft] at hsame
  exact absurd hsame (by decide +kernel)

end Run

end Dossier
