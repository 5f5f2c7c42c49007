import Dossier.Proofs.Act.Faults
import Dossier.Proofs.Run.Whole

/-!
# Runs that fail on the network

Only saving a file behind a URL fails on the network.  A download that fails in
this way leaves nothing at its destination but the directories above it, whether
there was no response or the response was cut short (`Saving.file_broken`).

A run that fails on the network carried out its rows up to one that failed so
(`run_broken`), and nothing happens to the store after that.  Without a subject
and a threshold this one was to save a file at a free place (`run_stopped`).
-/

namespace Dossier

open Act (FailsWith Keeps)

/-- The URL that a fault of the network is about. -/
def NetworkFault.url : NetworkFault → String
  | .unreachable url _ => url
  | .interrupted url _ => url

variable {env : Environment} {s s' : State} {l : Location} {fault : NetworkFault}

/-! ## Downloads -/

namespace Saving

theorem unanswered_network {url : String} {cause : TransportFault}
    (h : unanswered url cause = .network fault) : fault.url = url := by
  cases cause <;> cases h
  rfl

theorem noteStatus_local (url : String) (response : Response) :
    FailsWith Fault.IsLocal (noteStatus url response) := by
  unfold noteStatus
  split
  · exact .pure _
  · exact .modify _

theorem unlinkIfThere_local (file : Path) : FailsWith Fault.IsLocal (Disk.unlinkIfThere file) := by
  refine (Disk.covered_local.change file _).rescue fun f hf => ?_
  split
  · exact .pure _
  · exact .throw hf

/-- What is discarded for a fault of the network is removed. -/
theorem discard_broken {file : Path} {f : Fault}
    (h : discard file f env s = .error (.network fault) s') :
    f = .network fault ∧ Disk.unlinkIfThere file env s = .ok () s' := by
  unfold discard at h
  split at h
  · rcases Act.bind_error.mp h with hunlink | ⟨_, t, hunlink, hthrow⟩
    · exact nomatch unlinkIfThere_local file _ _ _ _ hunlink
    · obtain ⟨hfault, rfl⟩ := Act.throw_error.mp hthrow
      exact ⟨hfault, hunlink⟩
  · rcases Act.bind_error.mp h with hunlink | ⟨_, t, _, hthrow⟩
    · exact nomatch unlinkIfThere_local file _ _ _ _ hunlink
    · cases (Act.throw_error.mp hthrow).1
  · rename_i hnetwork _
    exact absurd (Act.throw_error.mp h).1 (hnetwork fault)

/-- A file that was written where nothing was is gone once it is discarded. -/
theorem unlinkIfThere_written (hs : s.store.Tree) (hl : ".." ∉ l) (hfree : s.store.get? l = none)
    {data : Bytes} {t : State}
    (hwrite : Disk.write (Location.path l) (.plain data) env s = .ok () t)
    (hunlink : Disk.unlinkIfThere (Location.path l) env t = .ok () s') :
    s'.store.Tree ∧ s'.store.get? = s.store.get? := by
  obtain ⟨hnul, store, hput, rfl⟩ := Disk.change_ok.mp hwrite
  obtain ⟨_, hne, hdir, _, _⟩ := Store.write_ok hs hput
  rw [Store.location_path env.here hl] at hne hdir
  have hopen := Store.View.opened_of_directory hs hdir
  have hsaved := saved_of_write hl hs hopen.symm hwrite rfl rfl
  have hfile : store.get? l = some (.file (.plain data)) := by
    rw [show store.get? = _ from hsaved.view, Store.View.saved, if_pos rfl]
  have herase : Disk.unlink (Location.path l) env { s with store := store } =
      .ok () { s with store := store.erase l } :=
    Disk.change_ok.mpr ⟨hnul, _, Store.unlink_of_file hsaved.tree hl hsaved.short hfile, rfl⟩
  rw [Disk.unlinkIfThere, Act.rescue, herase] at hunlink
  cases hunlink
  refine ⟨hsaved.tree.erase hne (by simp [hfile]), ?_⟩
  have hview : (store.erase l).get? = Store.View.erased store.get? l := by
    funext m
    exact Store.get?_erase store l m hne
  rw [hview, show store.get? = _ from hsaved.view, Store.View.erased_saved hne hfree, hopen]

theorem receive_broken (hs : s.store.Tree) (hl : ".." ∉ l) (hfree : s.store.get? l = none)
    {url : String} {response : Response}
    (h : receive url (Location.path l) response env s = .error (.network fault) s') :
    fault.url = url ∧ s'.store.Tree ∧ s'.store.get? = s.store.get? := by
  rcases Act.bind_error.mp h with hnote | ⟨_, t, hnote, hrest⟩
  · exact nomatch noteStatus_local _ _ _ _ _ _ hnote
  · obtain ⟨hstore, _⟩ := State.holdings_inj ((keeps_noteStatus url response).ok hnote)
    rcases Act.bind_error.mp hrest with hrescue | ⟨_, t', _, hpure⟩
    · obtain ⟨f, t', hwritten, hdiscard⟩ := Act.rescue_error.mp hrescue
      obtain ⟨rfl, hunlink⟩ := discard_broken hdiscard
      obtain ⟨⟨message, rfl⟩, hwrite⟩ := writeBody_network hwritten
      rw [← hstore] at hs hfree ⊢
      exact ⟨rfl, unlinkIfThere_written hs hl hfree hwrite hunlink⟩
    · cases hpure

/-- A download that fails on the network leaves the directories above its
destination. -/
theorem file_broken (hs : s.store.Tree) (hl : ".." ∉ l) (hfree : s.store.get? l = none)
    {url : String} {cookies : Cookies} {timeout : Timeout}
    (h : Saving.file url (Location.path l) cookies timeout env s = .error (.network fault) s') :
    fault.url = url ∧ s'.store.Tree ∧
      s'.store.get? = Store.View.opened s.store.get? l.dropLast := by
  rcases Act.bind_error.mp h with hparent | ⟨_, t, hparent, hrest⟩
  · exact nomatch Disk.ensureParent_local _ _ _ _ _ hparent
  obtain ⟨htree, hview⟩ := ensureParent_ok hs hl hparent
  rcases Act.bind_error.mp hrest with hrequest | ⟨response, t', hrequest, hreceived⟩
  · -- there is no response
    rcases Act.bind_error.mp hrequest with hasked | ⟨outcome, t', hasked, hanswer⟩
    · cases hasked
    · obtain ⟨cause, _, hfault, rfl⟩ := Act.ofExcept_error.mp hanswer
      obtain ⟨hstore, _⟩ := State.holdings_inj ((Act.keeps_request _).ok hasked)
      rw [hstore]
      exact ⟨unanswered_network hfault.symm, htree, hview⟩
  · -- the response is cut short
    obtain ⟨hstore, _⟩ := State.holdings_inj
      (((Act.Quiet.holdings env).follows_fileRequest url cookies timeout).ok hrequest)
    have hnone : t'.store.get? l = none := by
      have hne : l ≠ [] := fun hnil => by simp [hnil] at hfree
      rw [hstore, hview, Store.View.opened_dropLast_self hne, hfree]
    rcases Act.andAlways_error.mp hreceived with ⟨_, u, _, hclosed⟩ | ⟨u, hbroken, hclosed⟩ |
      ⟨_, u, _, hclosed⟩
    · cases hclosed
    · obtain ⟨hurl, htree', hview'⟩ := receive_broken (hstore ▸ htree) hl hnone hbroken
      obtain ⟨hstore', _⟩ := State.holdings_inj ((Act.keeps_record _).ok hclosed)
      rw [hstore']
      exact ⟨hurl, htree', by rw [hview', hstore, hview]⟩
    · cases hclosed

end Saving

/-! ## Rows -/

namespace Run

open Script (Directive Source Action)

variable {settings : Settings} {given : Provided} {output : Location} {report : Report}

theorem skip_local (category destination : String) :
    FailsWith Fault.IsLocal (skip category destination) := .modify _

/-- Setting cookies fails only if they cannot be decoded. -/
theorem setCookies_error {line : Option Int} {blob : String} {f : Fault}
    (h : setCookies line blob env s = .error f s') :
    ∃ cause, Cookies.decode blob = .error cause ∧
      f = .script (.malformed line (.cookiesBlob cause)) ∧ s' = s := by
  rcases Act.bind_error.mp h with hread | ⟨_, _, _, hset⟩
  · exact Act.ofExcept_error.mp hread
  · cases hset

/-- Fetching fails on the network only behind a URL of a file. -/
theorem fetch_broken (hs : s.store.Tree) (hl : ".." ∉ l) (hfree : s.store.get? l = none)
    {source : Source}
    (h : fetch settings source (Location.path l) env s = .error (.network fault) s') :
    source = .file fault.url ∧ s'.store.Tree ∧
      s'.store.get? = Store.View.opened s.store.get? l.dropLast := by
  rcases Act.bind_error.mp h with hget | ⟨_, t, hget, hsave⟩
  · cases hget
  obtain ⟨rfl, rfl⟩ := Act.get_ok.mp hget
  cases source with
  | file url =>
      obtain ⟨rfl, hopened⟩ := Saving.file_broken hs hl hfree hsave
      exact ⟨rfl, hopened⟩
  | page url => exact nomatch Saving.page_local _ _ _ _ _ _ _ _ hsave
  | text content => exact nomatch Saving.text_local _ _ _ _ _ _ hsave

/-- What is wanted and fails on the network is a file that was to be fetched to a
free place. -/
theorem saveIfWanted_broken (hsubject : settings.subject = none)
    (hthreshold : settings.threshold = none) (hs : s.store.Tree) (ho : ".." ∉ output)
    (hnul : (Location.path output).holdsNul = false) {source : Source} {d : String}
    (hd : Script.Destination.Safe d)
    (h : saveIfWanted settings (Location.path output) source d env s =
      .error (.network fault) s') :
    source = .file fault.url ∧ s.store.get? (place output d) = none ∧ s'.store.Tree ∧
      s'.store.get? = Store.View.opened s.store.get? (place output d).dropLast := by
  rcases Act.bind_error.mp h with hreach | ⟨decision, t, hreach, hafter⟩
  · exact nomatch Verdict.reach_local _ _ _ _ _ _ _ hreach
  rcases reach_ok hsubject hs ho hnul hd hreach with
    ⟨rfl, rfl, hfree⟩ | ⟨rfl, _⟩ | ⟨_, _, _, _, _, ⟨_, hsome, _⟩, _⟩
  · rcases Act.bind_error.mp hafter with hannounce | ⟨_, t', hannounce, hacquire⟩
    · cases hannounce
    obtain ⟨_, rfl⟩ := Act.pure_ok.mp hannounce
    rcases Act.bind_error.mp hacquire with hfetch | ⟨_, _, _, hcounted⟩
    · obtain ⟨hsource, hopened⟩ := fetch_broken hs (not_mem_place ho hd) hfree hfetch
      exact ⟨hsource, hfree, hopened⟩
    · cases hcounted
  · exact nomatch skip_local _ _ _ _ _ _ hafter
  · rw [hthreshold] at hsome
    cases hsome

/-- A row that fails on the network was to fetch a file to a free place.  It
leaves the directories above that place. -/
theorem row_broken (hsubject : settings.subject = none) (hthreshold : settings.threshold = none)
    (hs : s.store.Tree) (ho : ".." ∉ output) (hnul : (Location.path output).holdsNul = false)
    {directive : Directive} (hlater : directive.IsLater)
    (h : row settings (Location.path output) directive env s = .error (.network fault) s') :
    ∃ d, directive.action = .save (.file fault.url) d ∧ s.store.get? (place output d) = none ∧
      s'.store.Tree ∧
      s'.store.get? = Store.View.opened s.store.get? (place output d).dropLast := by
  rw [row] at h
  rw [Directive.IsLater] at hlater
  cases haction : directive.action with
  | archiveName name => rw [haction] at hlater; exact hlater.elim
  | cookies blob =>
      rw [haction] at h
      obtain ⟨_, _, hmalformed, _⟩ := setCookies_error h
      cases hmalformed
  | save source d =>
      rw [haction] at h hlater
      cases hout : settings.leavesOut source with
      | true =>
          simp only [save_of_leftOut hout] at h
          have hlocal : FailsWith Fault.IsLocal (do
              Act.note (.pagesDisabled d)
              skip "pdf_disabled" d) := (FailsWith.modify _).bind fun _ => skip_local _ _
          exact absurd (hlocal _ _ _ _ h) Bool.false_ne_true
      | false =>
          simp only [save_of_wanted hout] at h
          obtain ⟨rfl, hrest⟩ := saveIfWanted_broken hsubject hthreshold hs ho hnul hlater h
          exact ⟨d, rfl, hrest⟩

/-- Rows that fail were carried out up to one that failed. -/
theorem rows_error {p : Path} {f : Fault} {directives : List Directive}
    (h : rows settings p directives env s = .error f s') :
    ∃ before directive after t, directives = before ++ directive :: after ∧
      rows settings p before env s = .ok () t ∧ row settings p directive env t = .error f s' := by
  induction directives generalizing s with
  | nil => cases h
  | cons directive rest ih =>
      rcases Act.bind_error.mp h with hrow | ⟨_, t, hrow, hrest⟩
      · exact ⟨[], directive, rest, s, rfl, rfl, hrow⟩
      · obtain ⟨before, d, after, t', rfl, hbefore, hd⟩ := ih hrest
        exact ⟨directive :: before, d, after, t', rfl, Act.bind_ok.mpr ⟨(), t, hrow, hbefore⟩, hd⟩

/-! ## Runs -/

theorem noteReport_local : FailsWith Fault.IsLocal noteReport :=
  FailsWith.get.bind fun _ => .modify _

theorem conclude_local (status : String) : FailsWith Fault.IsLocal (conclude status) :=
  FailsWith.get.bind fun _ => .modify _

theorem resolve_local (p : Path) : FailsWith Fault.IsLocal (resolve p) :=
  (Disk.covered_local.checkPath p).bind fun _ => FailsWith.environment.bind fun _ =>
    FailsWith.get.bind fun _ => (FailsWith.ofExcept (P := Fault.IsLocal) (fun _ => rfl) _).bind
      fun _ => .pure _

theorem prepare_local (name : String) : FailsWith Fault.IsLocal (prepare settings name) :=
  (resolve_local _).bind fun _ =>
    (Disk.during_local (Disk.covered_local.ensureDirectories _)).bind fun _ =>
      (FailsWith.modify _).bind fun _ => .pure _

theorem complete_local (p : Path) : FailsWith Fault.IsLocal (complete p) :=
  (Packing.pack_local p).bind fun _ => (FailsWith.modify _).bind fun _ =>
    (conclude_local _).bind fun _ => FailsWith.get.bind fun _ =>
      (FailsWith.ofExcept (P := Fault.IsLocal) (fun _ => rfl) _).bind fun _ =>
        (FailsWith.modify _).bind fun _ => noteReport_local.bind fun _ => .pure _

theorem recordAll_local : ∀ events : Trace, FailsWith Fault.IsLocal (recordAll events)
  | [] => .pure ()
  | _ :: rest => (FailsWith.modify _).bind fun _ => recordAll_local rest

theorem closing_local (given : Provided) :
    FailsWith Fault.IsLocal (if given.browser then pure () else Browser.close) := by
  split
  · exact .pure ()
  · exact Browser.close_local

/-- A fault that ended a run is passed on, and the store is left as it is. -/
theorem fail_error {f g : Fault} (h : fail f env s = .error g s') : g = f ∧ s'.store = s.store := by
  unfold fail at h
  split at h <;> cases h <;> exact ⟨rfl, rfl⟩

/-- Draining fails on the network only if a row does. -/
theorem drain_broken {p : Path} {directives : List Directive}
    (h : drain settings given p directives env s = .error (.network fault) s') :
    ∃ t t', t.holdings = s.holdings ∧
      rows settings p directives env t = .error (.network fault) t' ∧ s'.store = t'.store := by
  have hkeep : Keeps State.holdings (if given.browser then pure () else Browser.close) :=
    fun env => .ite (.pure (.part _) ()) (Browser.keeps_close env)
  rcases Act.bind_error.mp h with hopened | ⟨_, t, hopened, hdrained⟩
  · exact nomatch recordAll_local _ _ _ _ _ hopened
  have hfault : ¬ (Fault.network fault).IsLocal := Bool.false_ne_true
  obtain ⟨t₂, hclosed, hlast⟩ := (recordAll_local _).error_of_andAlways hfault hdrained
  obtain ⟨t₁, hcarried, hbrowser⟩ := (closing_local given).error_of_andAlways hfault hclosed
  obtain ⟨f, t', hrows, hfail⟩ := Act.rescue_error.mp hcarried
  obtain ⟨rfl, hstore⟩ := fail_error hfail
  have hstore₁ := (State.holdings_inj (hkeep.ok hbrowser)).1
  have hstore₂ := (State.holdings_inj ((keeps_recordAll _).ok hlast)).1
  exact ⟨t, t', (keeps_recordAll _).ok hopened, hrows, by rw [hstore₂, hstore₁, hstore]⟩

/-- A run that fails on the network has begun, and a row of it failed so after
the rows before it were carried out. -/
theorem run_broken {text : String} {directives : List Directive}
    (hparse : Script.parse text = .ok directives) (hs : s.store.Tree) (hhere : ".." ∉ env.here)
    (hout : output = outputOf settings env directives)
    (h : run settings given directives env s = .error (.network fault) s') :
    ∃ t t', Begun output s t ∧ (∀ directive ∈ directives.tail, directive.IsLater) ∧
      rows settings (Location.path output) directives.tail env t = .error (.network fault) t' ∧
      s'.store = t'.store := by
  obtain ⟨line, name, rest, rfl, _, hlater⟩ := Script.parse_shape hparse
  rcases Act.bind_error.mp h with hstart | ⟨_, t₁, hstart, h₁⟩
  · cases hstart
  rcases Act.bind_error.mp h₁ with hnote | ⟨_, t₂, hnote, h₂⟩
  · cases hnote
  rcases Act.bind_error.mp h₂ with hprepare | ⟨p, t, hprepare, h₃⟩
  · exact nomatch prepare_local name _ _ _ _ hprepare
  obtain ⟨rfl, hbegun⟩ := begin_ok hs hhere hout hstart hnote hprepare
  rcases Act.bind_error.mp h₃ with hdrain | ⟨_, t₃, _, hcomplete⟩
  · obtain ⟨t', t'', hkeep, hrows, hstore⟩ := drain_broken hdrain
    exact ⟨t', t'', hbegun.of_holdings hkeep, hlater, hrows, hstore⟩
  · exact nomatch complete_local _ _ _ _ _ hcomplete

/-- What a run has done that failed on the network: it carried out the rows
before a directive, which was to save a file at a free place, and left the
directories above that place. -/
structure Stopped (settings : Settings) (env : Environment) (output : Location) (s t u s' : State)
    (before : List Directive) (directive : Directive) (fault : NetworkFault) (d : String) :
    Prop where
  begun : Begun output s t
  carried : rows settings (Location.path output) before env t = .ok () u
  turns : Turns settings env output t (before.map Directive.action) u
  fails : ∃ u', row settings (Location.path output) directive env u = .error (.network fault) u'
  action : directive.action = .save (.file fault.url) d
  free : u.store.get? (place output d) = none
  tree : s'.store.Tree
  view : s'.store.get? = Store.View.opened u.store.get? (place output d).dropLast

/-- Without a subject and a threshold, a run that fails on the network was
stopped by a row that saves a file. -/
theorem run_stopped {text : String} {directives : List Directive}
    (hparse : Script.parse text = .ok directives) (hsubject : settings.subject = none)
    (hthreshold : settings.threshold = none) (hs : s.store.Tree) (hhere : ".." ∉ env.here)
    (hout : output = outputOf settings env directives)
    (h : run settings given directives env s = .error (.network fault) s') :
    ∃ before directive after t u d, directives.tail = before ++ directive :: after ∧
      Stopped settings env output s t u s' before directive fault d := by
  obtain ⟨t, v, hbegun, hlater, hrows, hstore⟩ := run_broken hparse hs hhere hout h
  obtain ⟨before, directive, after, u, htail, hbefore, hrow⟩ := rows_error hrows
  rw [htail] at hlater
  have hturns := rows_turns hsubject hbegun.plain hbegun.nul hbegun.opens.tree
    (fun e he => hlater e (List.mem_append_left _ he)) hbefore
  obtain ⟨d, haction, hfree, htree, hview⟩ := row_broken hsubject hthreshold
    (hturns.tree hbegun.opens.tree) hbegun.plain hbegun.nul
    (hlater directive (List.mem_append_right _ (List.mem_cons_self ..))) hrow
  exact ⟨before, directive, after, t, u, d, htail, hbegun, hbefore, hturns, ⟨v, hrow⟩, haction,
    hfree, hstore ▸ htree, by rw [hstore, hview]⟩

end Run

end Dossier
