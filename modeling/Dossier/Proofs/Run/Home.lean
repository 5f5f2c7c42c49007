import Dossier.Proofs.Run.Containment

/-!
# The home of a run

The home of a run is the directory that it saves to, where the name of the script
leads from the output root.  A run makes it and, if it completes, packs it into
the archive beside it (`run_home`).

For every name but two the home is the directory of that name in the output root,
and the archive lies in the output root as well.  But a dot and two dots are names
too.  With two dots the home is the directory above the output root, so that a run
saves there and writes its archive beside that directory (`not_all_home_in_root`).
-/

namespace Dossier.Run

open Script (Directive Source Action)

variable {settings : Settings} {given : Provided} {env : Environment} {s s' : State}
  {output root : Location} {name : String} {report : Report}

/-- A run that completes has packed its output directory. -/
theorem run_packed {line : Option Int} {rest : List Directive} (hs : s.store.Tree)
    (hhere : ".." ∉ env.here) (hout : output = (settings.outputRoot.child name).location env.here)
    (hlater : ∀ directive ∈ rest, directive.IsLater)
    (h : run settings given (⟨line, .archiveName name⟩ :: rest) env s = .ok report s') :
    ∃ t, Packed env output t s' report := by
  rw [run_phases] at h
  obtain ⟨p, t, hopen, h⟩ := Act.bind_ok.mp h
  obtain ⟨_, u, hdrain, hcomplete⟩ := Act.bind_ok.mp h
  obtain ⟨rfl, hbegun⟩ := opening_ok hs hhere hout hopen
  obtain ⟨v, hrows⟩ := rows_of_draining hdrain
  have hstore : _ = ((rows settings (Location.path output) rest).final env t).store :=
    drain_store given (Location.path output)
  rw [Act.final_of_ok hdrain, Act.final_of_ok hrows] at hstore
  have hwithin := rows_cleared hbegun.plain hlater hrows hbegun.opens.tree hbegun.opens.directory
  have hdir := hwithin.directory.trans hbegun.opens.directory
  rw [← hstore] at hwithin hdir
  exact ⟨u, complete_ok hwithin.tree hbegun.plain hbegun.nul hdir hcomplete⟩

/-- The archive of a home lies in the output root, under the name, if the home
does. -/
theorem archive_homeOf_eq_iff (root : Location) (name : String) :
    (homeOf root name).archive = root ++ [name ++ ".zip"] ↔ name ≠ "." ∧ name ≠ ".." := by
  have hshort : ∀ home : Location, home.length ≤ root.length → root ≠ [] →
      home.archive ≠ root ++ [name ++ ".zip"] := by
    intro home hle hroot he
    have hlen := congrArg List.length he
    simp only [Location.archive, List.length_append, List.length_dropLast,
      List.length_singleton] at hlen
    have hpos := List.length_pos_iff.mpr hroot
    omega
  rw [homeOf]
  split
  · rename_i hdot
    subst hdot
    refine iff_of_false (fun he => ?_) fun h => h.1 rfl
    by_cases hroot : root = []
    · subst hroot
      exact absurd he (by decide)
    · exact hshort root (Nat.le_refl _) hroot he
  · rename_i hdot
    split
    · rename_i hdots
      subst hdots
      refine iff_of_false (fun he => ?_) fun h => h.2 rfl
      by_cases hroot : root = []
      · subst hroot
        exact absurd he (by decide)
      · exact hshort root.dropLast (by simp) hroot he
    · rename_i hdots
      refine iff_of_true ?_ ⟨hdot, hdots⟩
      simp [Location.archive]

/-- A run saves to the directory where the name of its script leads from the output
root, and packs it into the archive beside that directory.  The directory has that
name and lies in the output root, and so does the archive, unless the name is a dot
or two dots. -/
theorem run_home {text path : String} {directives : List Directive} (given : Provided)
    (hparse : Script.parse text = .ok directives) (hs : s.store.Tree) (hhere : env.here.Plain)
    (hpath : settings.outputRoot = Path.ofString path)
    (hroot : s.store.resolve env.here settings.outputRoot = .ok root)
    (hname : name = Script.archiveName directives) :
    s.store.resolve env.here (settings.outputRoot.child name) = .ok (homeOf root name) ∧
    (∀ p t, prepare settings name env s = .ok p t →
      p = Location.path (homeOf root name) ∧
        t.store.get? (homeOf root name) = some .directory) ∧
    (∀ report s', run settings given directives env s = .ok report s' →
      report.archivePath = some (Location.path (homeOf root name).archive) ∧
        ∃ members, s'.store.get? (homeOf root name).archive = some (.file (.archive members))) ∧
    (homeOf root name = root ++ [name] ↔ name ≠ "." ∧ name ≠ "..") ∧
    ((homeOf root name).archive = root ++ [name ++ ".zip"] ↔ name ≠ "." ∧ name ≠ "..") := by
  obtain ⟨line, name, rest, rfl, hvalid, hlater⟩ := Script.parse_shape hparse
  obtain rfl := hname
  rw [Store.resolve_of_linkFree hs.linkFree] at hroot
  obtain rfl := Except.ok.inj hroot
  have hhome : (settings.outputRoot.child name).location env.here = _ :=
    location_child_name hvalid settings.outputRoot
  have hplain : (homeOf (settings.outputRoot.location env.here) name).Plain := by
    rw [← hhome, hpath]
    exact plain_child hhere hvalid
  refine ⟨?_, fun p t h => ?_, fun report s' h => ?_, homeOf_eq_iff _ _,
    archive_homeOf_eq_iff _ _⟩
  · rw [Store.resolve_of_linkFree hs.linkFree]
    exact congrArg Except.ok hhome
  · obtain ⟨hp, _, hopens, _⟩ := prepare_ok hs hhere.not_mem hhome.symm h
    exact ⟨hp, hopens.directory⟩
  · obtain ⟨t, hpacked⟩ := run_packed hs hhere.not_mem hhome.symm hlater h
    refine ⟨?_, ?_⟩
    · rw [hpacked.path, Packing.archivePath_eq hplain.not_mem_last]
    · rw [hpacked.view, Packing.archivePlace_eq env hplain.not_mem hplain.not_mem_last, if_pos rfl]
      exact ⟨_, rfl⟩

/-! ## A run above its output root -/

/-- A script whose archive has two dots for a name. -/
def dotsText : String := "zip-name ..\nsave-text x as a.txt"

def dotsScript : List Directive :=
  [⟨some 1, .archiveName ".."⟩, ⟨some 2, .save (.text "x") "a.txt"⟩]

/-- The output root lies in another directory. -/
def inSite : Settings := { outputRoot := ⟨.relative, ["site", "output"]⟩ }

theorem dotsText_parses : Script.parse dotsText = .ok dotsScript :=
  Script.parse_of_toOption (by decide +kernel)

theorem empty_tree : ({} : State).store.Tree := by decide +kernel

theorem dots_resolves : ({} : State).store.resolve ({} : Environment).here inSite.outputRoot =
    .ok ["site", "output"] :=
  (Store.resolve_of_linkFree empty_tree.linkFree _ _).trans (congrArg _ (by decide +kernel))

theorem dots_run : ∃ report s', run inSite {} dotsScript {} {} = .ok report s' ∧
    s'.store.get? ["site", "a.txt"] = some (.file (.plain [120])) := by
  have hrun : (run inSite {} dotsScript).EndsIn {} {} (fun _ s' =>
      decide (s'.store.get? ["site", "a.txt"] = some (.file (.plain [120])))) = true := by
    decide +kernel
  obtain ⟨report, s', hrun, hcheck⟩ := Act.exists_of_endsIn hrun
  exact ⟨report, s', hrun, of_decide_eq_true hcheck⟩

/-- The run saves above its output root, and writes its archive above that. -/
theorem dots_home : ∃ report s', run inSite {} dotsScript {} {} = .ok report s' ∧
    s'.store.get? ["site", "a.txt"] = some (.file (.plain [120])) ∧
      report.archivePath = some (Location.path ["site.zip"]) ∧
        ∃ members, s'.store.get? ["site.zip"] = some (.file (.archive members)) := by
  obtain ⟨report, s', hrun, hsaved⟩ := dots_run
  obtain ⟨_, _, hpacked, _⟩ := run_home {} dotsText_parses empty_tree
    (by decide : ({} : Environment).here.Plain)
    (by decide +kernel : inSite.outputRoot = Path.ofString "site/output") dots_resolves rfl
  exact ⟨report, s', hrun, hsaved, hpacked report s' hrun⟩

/-- It is not so that every run saves to the directory of its name in the output
root and packs it into an archive there. -/
theorem not_all_home_in_root :
    ¬ ∀ (text path : String) (directives : List Directive) (settings : Settings)
        (given : Provided) (env : Environment) (s : State) (root : Location),
      Script.parse text = .ok directives → s.store.Tree → env.here.Plain →
      settings.outputRoot = Path.ofString path →
      s.store.resolve env.here settings.outputRoot = .ok root →
      (∀ p t, prepare settings (Script.archiveName directives) env s = .ok p t →
        p = Location.path (root ++ [Script.archiveName directives])) ∧
      ∀ report s', run settings given directives env s = .ok report s' →
        report.archivePath =
          some (Location.path (root ++ [Script.archiveName directives ++ ".zip"])) := by
  intro hall
  have hprepared : (prepare inSite "..").EndsIn {} {} (fun p _ =>
      decide (p = Location.path ["site"])) = true := by
    decide +kernel
  obtain ⟨p, t, hprepare, hp⟩ := Act.exists_of_endsIn hprepared
  obtain ⟨hdirectory, _⟩ := hall dotsText "site/output" dotsScript inSite {} {} {} _
    dotsText_parses empty_tree (by decide) (by decide +kernel) dots_resolves
  have hroot := hdirectory p t hprepare
  rw [of_decide_eq_true hp] at hroot
  exact absurd hroot (by decide)

end Dossier.Run
