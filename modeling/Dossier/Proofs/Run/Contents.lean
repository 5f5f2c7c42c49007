import Dossier.Proofs.Run.Broken

/-!
# What a run leaves

If what the network and the browser give depends on the URL only, the files that
a run leaves in its output directory can be told from its script.  Without a
subject and a threshold they are the files that were there before, unchanged,
and the destinations that were free, each with what the first row naming it
saves (`run_contents`).

If the run fails on the network the same holds of the rows before the one that
failed, and nothing lies at the destination of that row.
-/

namespace Dossier

open Script (Directive Source Action)

/-- What an environment gives for a URL is always the same, whatever went
before. -/
structure Environment.Serves (env : Environment) (bodies pages : String → Bytes) : Prop where
  /-- A response that arrives in full has the body of its URL. -/
  body : ∀ trace url headers timeout response,
    (env.reply (trace ++ [.requested url headers timeout])).outcome = .ok response →
      response.broken = none → response.body = bodies url
  /-- A page that was just visited is printed as the page of its URL. -/
  page : ∀ trace url timeout file format data,
    (env.react (trace ++ [.visited url timeout, .printed file format])).output = some data →
      data = pages url

/-- The contents that are served for a source. -/
def Script.Source.served (bodies pages : String → Bytes) : Source → Bytes
  | .file url => bodies url
  | .page url => pages url
  | .text content => Saving.textBytes content

theorem Environment.Serves.yields {env : Environment} {bodies pages : String → Bytes}
    (h : env.Serves bodies pages) {source : Source} {data : Bytes}
    (hyields : source.Yields env data) :
    data = source.served bodies pages := by
  cases source with
  | file url =>
      obtain ⟨trace, headers, timeout, response, hreply, hbroken, rfl⟩ := hyields
      exact h.body trace url headers timeout response hreply hbroken
  | page url =>
      obtain ⟨trace, timeout, file, format, hreact⟩ := hyields
      exact h.page trace url timeout file format data hreact
  | text content => exact hyields.symm

/-- The source of the first action that saves to a destination, those left out
apart. -/
def Settings.firstSource (settings : Settings) (destination : String) : List Action → Option Source
  | [] => none
  | .save source d :: rest =>
    if d = destination ∧ settings.leavesOut source = false then some source
    else settings.firstSource destination rest
  | _ :: rest => settings.firstSource destination rest

theorem Settings.mem_of_firstSource {settings : Settings} {destination : String}
    {source : Source} {actions : List Action}
    (h : settings.firstSource destination actions = some source) :
    destination ∈ Script.destinations actions := by
  induction actions with
  | nil => cases h
  | cons action rest ih =>
      cases action with
      | save _ d =>
          rw [firstSource] at h
          rw [Script.destinations_save]
          split at h
          · rename_i hd
            rw [hd.1]
            exact List.mem_cons_self ..
          · exact List.mem_cons_of_mem _ (ih h)
      | cookies blob => exact ih h
      | archiveName name => exact ih h

/-- A location is a free place of a destination before, and the contents are what
the first of the actions naming it saves. -/
def Settings.Fills (settings : Settings) (bodies pages : String → Bytes) (output : Location)
    (actions : List Action) (before : Store) (l : Location) (c : Content) : Prop :=
  before.get? l = none ∧ ∃ d source, l = Run.place output d ∧
    settings.firstSource d actions = some source ∧ c = .plain (source.served bodies pages)

namespace Run

variable {settings : Settings} {env : Environment} {s s' : State}
  {output : Location} {bodies pages : String → Bytes} {ds : List String}

/-! ## Rows -/

/-- A file that is saved to the free place of a destination is filled, and so is
whatever later actions fill. -/
theorem fills_save_iff (hfree : Script.PrefixFree ds) {source : Source} {d : String}
    {rest : List Action} (hmem : ∀ e ∈ Script.destinations (.save source d :: rest), e ∈ ds)
    (hwanted : settings.leavesOut source = false) {store store' : Store}
    (hnone : store.get? (place output d) = none)
    (hview : store'.get? = Store.View.saved store.get? (place output d)
      (.plain (source.served bodies pages))) (l : Location) (c : Content) :
    (store'.get? l = some (.file c) ∨ settings.Fills bodies pages output rest store' l c) ↔
      (store.get? l = some (.file c) ∨
        settings.Fills bodies pages output (.save source d :: rest) store l c) := by
  have hfirst : settings.firstSource d (.save source d :: rest) = some source := by
    rw [Settings.firstSource, if_pos ⟨rfl, hwanted⟩]
  have hother : ∀ e, e ≠ d → settings.firstSource e (.save source d :: rest) =
      settings.firstSource e rest := fun e he => by
    rw [Settings.firstSource, if_neg fun h => he h.1.symm]
  by_cases hl : l = place output d
  · subst hl
    rw [Settings.Fills, Settings.Fills, hview, Store.View.saved, if_pos rfl, hnone]
    constructor
    · rintro (h | ⟨h, _⟩)
      · cases h
        exact Or.inr ⟨rfl, d, source, rfl, hfirst, rfl⟩
      · cases h
    · rintro (h | ⟨_, e, found, hplace, hfound, rfl⟩)
      · cases h
      · obtain rfl := place_inj hplace
        rw [hfirst] at hfound
        cases hfound
        exact Or.inl rfl
  · rw [Settings.Fills, Settings.Fills, hview, Store.View.saved, if_neg hl,
      Store.View.opened_eq_file_iff]
    have hnot : ∀ e ∈ Script.destinations (.save source d :: rest),
        ¬ place output e <+: (place output d).dropLast := fun e he =>
      not_prefix_dropLast_place hfree (hmem d (by simp)) (hmem e he)
    refine or_congr_right ?_
    constructor
    · rintro ⟨hopened, e, found, rfl, hfound, rfl⟩
      have he : e ≠ d := fun h => hl (h ▸ rfl)
      rw [Store.View.opened_of_not_prefix (hnot e (List.mem_cons_of_mem _
        (Settings.mem_of_firstSource hfound)))] at hopened
      exact ⟨hopened, e, found, rfl, (hother e he).trans hfound, rfl⟩
    · rintro ⟨hstore, e, found, rfl, hfound, rfl⟩
      have he : e ≠ d := fun h => hl (h ▸ rfl)
      rw [Store.View.opened_of_not_prefix (hnot e (Settings.mem_of_firstSource hfound))]
      exact ⟨hstore, e, found, rfl, (hother e he).symm.trans hfound, rfl⟩

/-- An action that is left out, or whose destination is taken, fills nothing. -/
theorem fills_skip_iff {source : Source} {d : String} {rest : List Action} {store : Store}
    (h : settings.leavesOut source = true ∨ store.get? (place output d) ≠ none) (l : Location)
    (c : Content) :
    settings.Fills bodies pages output (.save source d :: rest) store l c ↔
      settings.Fills bodies pages output rest store l c := by
  have hsame : ∀ e, store.get? (place output e) = none →
      settings.firstSource e (.save source d :: rest) = settings.firstSource e rest := by
    intro e he
    rw [Settings.firstSource, if_neg]
    rintro ⟨rfl, hwanted⟩
    rcases h with hout | hsome
    · rw [hout] at hwanted
      cases hwanted
    · exact hsome he
  constructor
  · rintro ⟨hnone, e, found, rfl, hfound, hc⟩
    exact ⟨hnone, e, found, rfl, (hsame e hnone).symm.trans hfound, hc⟩
  · rintro ⟨hnone, e, found, rfl, hfound, hc⟩
    exact ⟨hnone, e, found, rfl, (hsame e hnone).trans hfound, hc⟩

/-- The files that turns leave are those there were before and those that were
filled. -/
theorem Turns.contents {actions : List Action} (hthreshold : settings.threshold = none)
    (hserves : env.Serves bodies pages) (hfree : Script.PrefixFree ds)
    (hturns : Turns settings env output s actions s') :
    (∀ d ∈ Script.destinations actions, d ∈ ds) → ∀ l c,
      (s'.store.get? l = some (.file c) ↔ s.store.get? l = some (.file c) ∨
        settings.Fills bodies pages output actions s.store l c) := by
  induction hturns with
  | done =>
      intro _ l c
      refine ⟨Or.inl, fun h => h.resolve_right ?_⟩
      rintro ⟨_, _, _, _, hfound, _⟩
      cases hfound
  | @next s t s' action rest turn _ ih =>
      intro hmem l c
      have hrest : ∀ d ∈ Script.destinations rest, d ∈ ds := fun d hd => hmem d <| by
        rw [Script.destinations_cons]
        exact List.mem_append_right _ hd
      rw [ih hrest l c]
      cases turn with
      | cookies _ store _ =>
          rw [store]
          exact Iff.rfl
      | leftOut out store _ =>
          rw [store, fills_skip_iff (Or.inl out)]
      | present _ there _ _ store _ =>
          rw [store, fills_skip_iff (Or.inr (by simp [there]))]
      | fetched wanted free yields _ _ _ view _ =>
          rw [hserves.yields yields] at view
          exact fills_save_iff hfree hmem wanted free view l c
      | refetched _ _ small _ _ _ _ _ =>
          obtain ⟨_, hsome, _⟩ := small
          rw [hthreshold] at hsome
          cases hsome

/-! ## Runs -/

/-- Below its output directory a store has the files there were before and those
that actions fill. -/
def Filled (settings : Settings) (bodies pages : String → Bytes) (output : Location)
    (actions : List Action) (before after : Store) : Prop :=
  ∀ l c, output <+: l → (after.get? l = some (.file c) ↔
    before.get? l = some (.file c) ∨ settings.Fills bodies pages output actions before l c)

/-- Making the output directory adds no files. -/
theorem Begun.filled {t t' : State} {actions : List Action} (hbegun : Begun output s t)
    (h : ∀ l c, t'.store.get? l = some (.file c) ↔ t.store.get? l = some (.file c) ∨
      settings.Fills bodies pages output actions t.store l c) :
    Filled settings bodies pages output actions s.store t'.store := by
  intro l c hl
  rw [h l c, hbegun.opens.view, Store.View.opened_eq_file_iff]
  refine or_congr_right ?_
  rw [Settings.Fills, Settings.Fills]
  refine and_congr_left ?_
  rintro ⟨d, source, rfl, _⟩
  rw [hbegun.opens.view, Store.View.opened_of_not_prefix]
  intro hp
  exact output_ne_place output d (hl.eq_of_length_le hp.length_le)

/-- A run carries out the rows before a directive and fails on the network in
the directive. -/
def StopsAt (settings : Settings) (env : Environment) (output : Location) (s : State)
    (before : List Directive) (directive : Directive) (fault : NetworkFault) : Prop :=
  ∃ t t' t'', Begun output s t ∧ rows settings (Location.path output) before env t = .ok () t' ∧
    row settings (Location.path output) directive env t' = .error (.network fault) t''

/-- Without a subject and a threshold a run leaves the files there were in its
output directory, and at the destinations that were free what the first row
naming them saves.  If it fails on the network this holds of the rows before the
one that failed, and nothing lies at the destination of that one. -/
theorem run_contents (given : Provided) {text : String} {directives : List Directive}
    (hparse : Script.parse text = .ok directives)
    (hfree : Script.PrefixFree (Script.destinations (directives.map Directive.action)))
    (hsubject : settings.subject = none) (hthreshold : settings.threshold = none)
    (hs : s.store.Tree) (hhere : ".." ∉ env.here) (hserves : env.Serves bodies pages)
    (hout : output = outputOf settings env directives) (hroot : output ≠ []) :
    (∀ report s', run settings given directives env s = .ok report s' →
      Filled settings bodies pages output (directives.map Directive.action) s.store s'.store) ∧
    (∀ fault s', run settings given directives env s = .error (.network fault) s' →
      ∃ before directive after d, directives.tail = before ++ directive :: after ∧
        StopsAt settings env output s before directive fault ∧
        directive.action = .save (.file fault.url) d ∧
        Filled settings bodies pages output (before.map Directive.action) s.store s'.store ∧
        s'.store.get? (place output d) = none) := by
  obtain ⟨line, name, rest, rfl, _, _⟩ := Script.parse_shape hparse
  constructor
  · intro report s' hrun
    obtain ⟨t, t', hbegun, _, hturns, _, hpacked⟩ :=
      run_completed hparse hsubject hs hhere hout hrun
    have hfilled := hbegun.filled (hturns.contents hthreshold hserves hfree fun _ hd => hd)
    intro l c hl
    have hne : l ≠ Packing.archivePlace env output := fun h =>
      Packing.archivePlace_not_below env hbegun.plain hroot (h ▸ hl)
    rw [hpacked.view, if_neg hne]
    exact hfilled l c hl
  · intro fault s' hrun
    obtain ⟨before, directive, after, t, u, d, htail, hstopped⟩ :=
      run_stopped hparse hsubject hthreshold hs hhere hout hrun
    obtain ⟨u', hfails⟩ := hstopped.fails
    refine ⟨before, directive, after, d, htail,
      ⟨t, u, u', hstopped.begun, hstopped.carried, hfails⟩, hstopped.action, ?_, ?_⟩
    · refine hstopped.begun.filled fun l c => ?_
      rw [hstopped.view, Store.View.opened_eq_file_iff]
      refine hstopped.turns.contents hthreshold hserves hfree (fun e he => ?_) l c
      rw [List.map_cons, Script.destinations_archiveName, show rest = _ from htail, List.map_append,
        Script.destinations_append]
      exact List.mem_append_left _ he
    · rw [hstopped.view, Store.View.opened_dropLast_self (place_ne_nil output d), hstopped.free]

/-! ## A run and one that fails -/

/-- What is behind a URL is its own text, and its page is that text after one
more byte. -/
def echoBody (url : String) : Bytes := Utf8.encode url.toList

def echoPage (url : String) : Bytes := 80 :: echoBody url

/-- An environment that gives the text of every URL, but may not reach one of
them. -/
def echo (unreachable : Option String) : Environment where
  reply trace :=
    match trace.getLast? with
    | some (.requested url _ _) =>
      if some url = unreachable then ⟨0, .error (.connection "refused")⟩
      else ⟨0, .ok { chunks := [echoBody url] }⟩
    | _ => {}
  react trace :=
    match trace.reverse with
    | .printed _ _ :: .visited url _ :: _ => { output := some (echoPage url) }
    | _ => {}

theorem echo_serves (unreachable : Option String) :
    (echo unreachable).Serves echoBody echoPage where
  body trace url headers timeout response hreply _ := by
    simp only [echo, List.getLast?_concat] at hreply
    split at hreply
    · cases hreply
    · cases hreply
      simp [Response.body]
  page trace url timeout file format data hreact := by
    simp only [echo, List.reverse_append, List.reverse_cons, List.reverse_nil, List.nil_append,
      List.cons_append] at hreact
    exact (Option.some.inj hreact).symm

/-- A script that names one of its destinations twice. -/
def twiceText : String :=
  "zip-name q\nsave-file u as f\nsave-pdf p as a/p\nsave-text x_y as f\nsave-file v as a/g"

def twiceScript : List Directive :=
  [⟨some 1, .archiveName "q"⟩, ⟨some 2, .save (.file "u") "f"⟩, ⟨some 3, .save (.page "p") "a/p"⟩,
    ⟨some 4, .save (.text "x_y") "f"⟩, ⟨some 5, .save (.file "v") "a/g"⟩]

theorem twiceText_parses : Script.parse twiceText = .ok twiceScript :=
  Script.parse_of_toOption (by decide +kernel)

theorem twice_output (unreachable : Option String) :
    ["output", "q"] = outputOf {} (echo unreachable) twiceScript := by
  show ["output", "q"] = outputOf {} {} twiceScript
  decide +kernel

/-- The script leaves what its rows save, and if one of its URLs is not reached,
what the rows before that one save. -/
theorem twice_contents :
    (∃ report s', run {} {} twiceScript (echo none) {} = .ok report s' ∧
      Filled {} echoBody echoPage ["output", "q"] (twiceScript.map Directive.action) {} s'.store) ∧
    (∃ fault s', run {} {} twiceScript (echo (some "v")) {} = .error (.network fault) s' ∧
      ∃ before directive after d, twiceScript.tail = before ++ directive :: after ∧
        StopsAt {} (echo (some "v")) ["output", "q"] {} before directive fault ∧
        directive.action = .save (.file fault.url) d ∧
        Filled {} echoBody echoPage ["output", "q"] (before.map Directive.action) {} s'.store ∧
        s'.store.get? (place ["output", "q"] d) = none) := by
  have hcontents := fun unreachable => run_contents {} (s := {}) twiceText_parses
    (by decide +kernel) rfl rfl (by decide) List.not_mem_nil (echo_serves unreachable)
    (twice_output unreachable) (List.cons_ne_nil _ _)
  constructor
  · have hends : (run {} {} twiceScript).EndsIn (echo none) {} (fun _ _ => true) = true := by
      decide +kernel
    obtain ⟨report, s', hrun, _⟩ := Act.exists_of_endsIn hends
    exact ⟨report, s', hrun, (hcontents none).1 report s' hrun⟩
  · have hbreaks : (run {} {} twiceScript).BreaksIn (echo (some "v")) {} (fun fault _ =>
        match fault with
        | .network _ => true
        | _ => false) = true := by
      decide +kernel
    obtain ⟨fault, s', hrun, hnetwork⟩ := Act.exists_of_breaksIn hbreaks
    cases fault with
    | network cause => exact ⟨cause, s', hrun, (hcontents (some "v")).2 cause s' hrun⟩
    | _ => cases hnetwork

end Run

end Dossier
