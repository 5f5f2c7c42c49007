import Dossier.Proofs.Run.Scenes

/-!
# Rows that are carried out

An environment is *flawless* if every request is answered in full, no call on
the browser fails, and the browser prints a page whenever it is asked to.  There
a row is carried out whenever its action is ready (`row_of_ready`), and rows are
whenever their actions are playable (`rows_of_playable`).
-/

namespace Dossier

open Script (Directive Source Action)

/-- Requests are answered in full, and calls on the browser do not fail. -/
structure Environment.Flawless (env : Environment) : Prop where
  browser : env.hasBrowser = true
  reply : ∀ trace, ∃ response, (env.reply trace).outcome = .ok response ∧ response.broken = none
  react : ∀ trace, (env.react trace).failure = none
  /-- A page that was just visited is printed. -/
  prints : ∀ trace url timeout file format,
    ∃ data, (env.react (trace ++ [.visited url timeout, .printed file format])).output = some data

variable {env : Environment} {s s' : State} {l : Location}

/-! ## Acts that always succeed -/

namespace Act

variable {α β : Type}

/-- An act that succeeds in every state. -/
def Total (env : Environment) (act : Act α) : Prop := ∀ s, ∃ a s', act env s = .ok a s'

namespace Total

theorem pure (a : α) : Total env (pure a : Act α) := fun s => ⟨a, s, rfl⟩

theorem get : Total env (get : Act State) := fun s => ⟨s, s, rfl⟩

theorem environment : Total env Act.environment := fun s => ⟨env, s, rfl⟩

theorem modify (f : State → State) : Total env (modify f : Act Unit) := fun s => ⟨(), f s, rfl⟩

theorem bind {act : Act α} {next : α → Act β} (hact : Total env act)
    (hnext : ∀ a, Total env (next a)) : Total env (act >>= next) := by
  intro s
  obtain ⟨a, t, ha⟩ := hact s
  obtain ⟨b, s', hb⟩ := hnext a t
  exact ⟨b, s', bind_ok.mpr ⟨a, t, ha, hb⟩⟩

theorem mapFault {act : Act α} (hact : Total env act) (rename : Fault → Fault) :
    Total env (act.mapFault rename) := by
  intro s
  obtain ⟨a, t, ha⟩ := hact s
  exact ⟨a, t, mapFault_ok.mpr ha⟩

theorem rescue {act : Act α} (hact : Total env act) (handler : Fault → Act α) :
    Total env (act.rescue handler) := by
  intro s
  obtain ⟨a, t, ha⟩ := hact s
  exact ⟨a, t, rescue_ok.mpr (Or.inl ha)⟩

theorem andAlways {act : Act α} {after : Act Unit} (hact : Total env act)
    (hafter : Total env after) : Total env (act.andAlways after) := by
  intro s
  obtain ⟨a, t, ha⟩ := hact s
  obtain ⟨_, s', hb⟩ := hafter t
  exact ⟨a, s', andAlways_ok.mpr ⟨t, ha, hb⟩⟩

theorem ite {c : Prop} [Decidable c] {act other : Act α} (hact : Total env act)
    (hother : Total env other) : Total env (if c then act else other) := by
  split
  · exact hact
  · exact hother

end Total

theorem total_record (e : Event) : Total env (record e) := .modify _

theorem total_note (n : Note) : Total env (note n) := .modify _

theorem total_request (e : Event) : Total env (request e) :=
  (total_record e).bind fun _ => Total.environment.bind fun _ => Total.get.bind fun _ =>
    (Total.modify _).bind fun _ => .pure _

theorem total_browse (e : Event) : Total env (browse e) :=
  (total_record e).bind fun _ => Total.environment.bind fun _ => Total.get.bind fun _ =>
    (Total.modify _).bind fun _ => .pure _

end Act

open Act (Total)

/-! ## The browser -/

namespace Environment.Flawless

variable (henv : env.Flawless)
include henv

theorem total_call (e : Event) : Total env (Browser.call e) := by
  intro s
  obtain ⟨reaction, t, hbrowse⟩ := Act.total_browse e s
  refine ⟨(), t, Act.bind_ok.mpr ⟨reaction, t, hbrowse, ?_⟩⟩
  rw [Act.settle, Saving.browse_ok hbrowse, henv.react]
  rfl

theorem total_close : Total env Browser.close :=
  Total.get.bind fun _ => (Total.modify _).bind fun _ =>
    (Total.andAlways (.ite (henv.total_call _) (.pure _))
      (.ite (henv.total_call _) (.pure _))).mapFault _

theorem total_ensureOpen (settings : Settings) : Total env (Browser.ensureOpen settings) := by
  have hlaunch : Total env (Browser.launch settings) :=
    (henv.total_call _).bind fun _ => (Total.modify _).bind fun _ =>
      (henv.total_call _).bind fun _ => .modify _
  intro s
  by_cases hheld : s.handles.browser = true
  · refine ⟨(), s, Act.bind_ok.mpr ⟨s, s, rfl, ?_⟩⟩
    simp only [hheld, if_true]
    rfl
  · obtain ⟨_, t, hstarted⟩ := ((Act.total_note .startingBrowser).bind fun _ =>
      hlaunch.rescue Browser.abandon) s
    refine ⟨(), t, Act.bind_ok.mpr ⟨s, s, rfl, ?_⟩⟩
    simp only [if_neg hheld]
    refine Act.bind_ok.mpr ⟨env, s, rfl, ?_⟩
    simp only [henv.browser]
    exact hstarted

end Environment.Flawless

/-! ## Saving -/

/-- A file can be saved at a location: nothing is there, and the way is open. -/
structure Store.Vacant (s : Store) (l : Location) : Prop where
  plain : ".." ∉ l
  nul : (Location.path l).holdsNul = false
  short : l.Short
  free : s.get? l = none
  way : View.Open s.get? l.dropLast

theorem Store.Vacant.ne_nil {s : Store} (h : s.Vacant l) : l ≠ [] := fun hnil => by
  simpa [hnil] using h.free

namespace Saving

/-- A file can be written at a location. -/
structure Writable (l : Location) (s : State) : Prop where
  tree : s.store.Tree
  directory : s.store.get? l.dropLast = some .directory
  free : s.store.get? l = none

theorem Writable.of_store {t : State} (h : Writable l s) (hstore : t.store = s.store) :
    Writable l t := ⟨hstore ▸ h.tree, hstore ▸ h.directory, hstore ▸ h.free⟩

theorem ensureParent_of_vacant (env : Environment) (hs : s.store.Tree) (h : s.store.Vacant l) :
    ∃ t, Disk.ensureParent (Location.path l) env s = .ok () t ∧ Writable l t := by
  have hl' : ".." ∉ l.dropLast := fun hm => h.plain (List.dropLast_subset _ hm)
  obtain ⟨t, ht⟩ := Store.ensureDirectories_of_open env.here hs hl' h.short.dropLast
    (Location.holdsNul_dropLast h.nul) h.way
  have hopens := Store.ensureDirectories_opens hs hl' ht
  refine ⟨{ s with store := t }, Disk.during_ok.mpr (Disk.ensureDirectories_ok.mpr
    ⟨Location.holdsNul_dropLast h.nul, t, ht, rfl⟩), hopens.tree, hopens.directory, ?_⟩
  show t.get? l = none
  rw [hopens.view, Store.View.opened_dropLast_self h.ne_nil, h.free]

theorem write_of_writable (env : Environment) (hw : Writable l s) (hplain : ".." ∉ l)
    (hnul : (Location.path l).holdsNul = false) (hshort : l.Short) (c : Content) :
    Disk.write (Location.path l) c env s = .ok () { s with store := s.store.put l (.file c) } := by
  have hne : l ≠ [] := fun hnil => by simpa [hnil] using hw.free
  exact Disk.change_ok.mpr
    ⟨hnul, _, Store.write_of_free hw.tree hplain hshort hne hw.directory hw.free c, rfl⟩

theorem text_of_vacant (env : Environment) (hs : s.store.Tree) (h : s.store.Vacant l)
    (content : String) : ∃ n t, Saving.text content (Location.path l) env s = .ok n t := by
  obtain ⟨t, hparent, hw⟩ := ensureParent_of_vacant env hs h
  have hwrite := write_of_writable env hw h.plain h.nul h.short (.plain (textBytes content))
  exact ⟨_, _, Act.bind_ok.mpr ⟨(), t, hparent,
    Act.bind_ok.mpr ⟨(), _, Disk.during_ok.mpr hwrite, rfl⟩⟩⟩

variable (henv : env.Flawless)
include henv

theorem request_of_flawless (url : String) (cookies : Cookies) (timeout : Timeout) (s : State) :
    ∃ response t, request url cookies timeout env s = .ok response t ∧ response.broken = none := by
  obtain ⟨outcome, t, hasked⟩ :=
    Act.total_request (.requested url (cookieHeaders cookies) timeout) s
  obtain ⟨response, houtcome, hbroken⟩ :=
    henv.reply (s.trace ++ [.requested url (cookieHeaders cookies) timeout])
  rw [← request_ok hasked] at houtcome
  exact ⟨response, t, Act.bind_ok.mpr ⟨outcome, t, hasked,
    Act.ofExcept_ok.mpr ⟨houtcome, rfl⟩⟩, hbroken⟩

omit henv in
theorem receive_of_writable (env : Environment) (hw : Writable l s) (hplain : ".." ∉ l)
    (hnul : (Location.path l).holdsNul = false) (hshort : l.Short) (url : String)
    {response : Response} (hbroken : response.broken = none) :
    ∃ n t, receive url (Location.path l) response env s = .ok n t := by
  obtain ⟨_, t, hnote⟩ : ∃ u t, noteStatus url response env s = .ok u t :=
    Total.ite (.pure ()) (Act.total_note _) s
  have hstore := (State.holdings_inj ((keeps_noteStatus url response).ok hnote)).1
  have hwrite := write_of_writable env (hw.of_store hstore) hplain hnul hshort
    (.plain response.body)
  have hbody : writeBody url (Location.path l) response env t =
      .ok () { t with store := t.store.put l (.file (.plain response.body)) } := by
    rw [writeBody_eq]
    refine Act.bind_ok.mpr ⟨(), _, hwrite, ?_⟩
    rw [hbroken]
    rfl
  exact ⟨_, _, Act.bind_ok.mpr ⟨(), t, hnote, Act.bind_ok.mpr
    ⟨(), _, Act.rescue_ok.mpr (Or.inl hbody), rfl⟩⟩⟩

theorem file_of_vacant (hs : s.store.Tree) (h : s.store.Vacant l) (url : String)
    (cookies : Cookies) (timeout : Timeout) :
    ∃ n t, Saving.file url (Location.path l) cookies timeout env s = .ok n t := by
  obtain ⟨t, hparent, hw⟩ := ensureParent_of_vacant env hs h
  obtain ⟨response, t₁, hrequest, hbroken⟩ := request_of_flawless henv url cookies timeout t
  have hstore := (State.holdings_inj
    (((Act.Quiet.holdings env).follows_fileRequest url cookies timeout).ok hrequest)).1
  obtain ⟨n, t₂, hreceive⟩ :=
    receive_of_writable env (hw.of_store hstore) h.plain h.nul h.short url hbroken
  obtain ⟨_, t₃, hclosed⟩ := Act.total_record (.responseClosed url) t₂
  exact ⟨n, t₃, Act.bind_ok.mpr ⟨(), t, hparent, Act.bind_ok.mpr ⟨response, t₁, hrequest,
    Act.andAlways_ok.mpr ⟨t₂, hreceive, hclosed⟩⟩⟩⟩

/-- A page that is printed is written. -/
theorem printFrom_of_writable (hw : Writable l s) (hplain : ".." ∉ l)
    (hnul : (Location.path l).holdsNul = false) (hshort : l.Short) (settings : Settings)
    (url : String) :
    ∃ t data, printFrom settings url (Location.path l) env s = .ok () t ∧
      t.store = s.store.put l (.file (.plain data)) := by
  obtain ⟨_, t, hvisit⟩ := henv.total_call (.visited url settings.navigationTimeout) s
  obtain ⟨reaction, t', hprint⟩ :=
    Act.total_browse (.printed (Location.path l) settings.pageFormat) t
  have hreaction := browse_ok hprint
  rw [call_ok hvisit, List.append_assoc] at hreaction
  obtain ⟨data, hdata⟩ := henv.prints s.trace url settings.navigationTimeout (Location.path l)
    settings.pageFormat
  have houtput : reaction.output = some data := by
    rw [hreaction]
    exact hdata
  have hstore : t'.store = s.store :=
    (State.holdings_inj (((Act.keeps_browse _).ok hprint).trans
      ((Browser.keeps_call _).ok hvisit))).1
  have hkeep : keepOutput (Location.path l) reaction env t' =
      .ok () { t' with store := t'.store.put l (.file (.plain data)) } := by
    rw [keepOutput, houtput]
    exact write_of_writable env (hw.of_store hstore) hplain hnul hshort (.plain data)
  have hsettle : Act.settle reaction env { t' with store := t'.store.put l (.file (.plain data)) } =
      .ok () { t' with store := t'.store.put l (.file (.plain data)) } := by
    rw [Act.settle, hreaction, henv.react]
    rfl
  exact ⟨_, data, Act.bind_ok.mpr ⟨(), t, hvisit, Act.bind_ok.mpr ⟨reaction, t', hprint,
    Act.bind_ok.mpr ⟨(), _, hkeep, hsettle⟩⟩⟩, by rw [hstore]⟩

/-- A page is printed to where a file can be written. -/
theorem print_of_writable (hw : Writable l s) (hplain : ".." ∉ l)
    (hnul : (Location.path l).holdsNul = false) (hshort : l.Short) (settings : Settings)
    {url : String} {cookies : Cookies} (htakes : Script.Source.Takes cookies (.page url)) :
    ∃ t data, print settings url (Location.path l) cookies env s = .ok () t ∧
      t.store = s.store.put l (.file (.plain data)) := by
  obtain ⟨_, t₁, hopened⟩ := henv.total_call .contextOpened s
  obtain ⟨_, t₂, hgiven⟩ : ∃ u t₂, giveCookies url cookies env t₁ = .ok u t₂ := by
    rw [giveCookies]
    rcases htakes with hempty | ⟨given, hgiven⟩
    · rw [if_pos hempty]
      exact Total.pure () t₁
    · refine Total.ite (.pure ())
        (Total.bind (fun t => ⟨given, t, ?_⟩) fun _ => henv.total_call _) t₁
      exact Act.ofExcept_ok.mpr ⟨hgiven, rfl⟩
  obtain ⟨_, t₃, hpage⟩ := henv.total_call .pageOpened t₂
  have h₁ := (State.holdings_inj ((Browser.keeps_call _).ok hopened)).1
  have h₂ := (State.holdings_inj ((keeps_giveCookies url cookies).ok hgiven)).1
  have h₃ := (State.holdings_inj ((Browser.keeps_call _).ok hpage)).1
  obtain ⟨t₄, data, hprint, hstore⟩ := printFrom_of_writable henv
    (hw.of_store (h₃.trans (h₂.trans h₁))) hplain hnul hshort settings url
  obtain ⟨_, t₅, hclosed⟩ := henv.total_call .contextClosed t₄
  have h₅ := (State.holdings_inj ((Browser.keeps_call _).ok hclosed)).1
  refine ⟨t₅, data, ?_, by rw [h₅, hstore, h₃, h₂, h₁]⟩
  refine Act.bind_ok.mpr ⟨(), t₁, Act.mapFault_ok.mpr hopened,
    Act.andAlways_ok.mpr ⟨t₄, Act.mapFault_ok.mpr ?_, hclosed⟩⟩
  exact Act.bind_ok.mpr ⟨(), t₂, hgiven, Act.bind_ok.mpr ⟨(), t₃, hpage, hprint⟩⟩

theorem page_of_vacant (hs : s.store.Tree) (h : s.store.Vacant l) (settings : Settings)
    {url : String} {cookies : Cookies} (htakes : Script.Source.Takes cookies (.page url)) :
    ∃ n t, Saving.page settings url (Location.path l) cookies env s = .ok n t := by
  obtain ⟨_, t₁, hopen⟩ := henv.total_ensureOpen settings s
  have hstore := (State.holdings_inj ((Browser.keeps_ensureOpen settings).ok hopen)).1
  obtain ⟨t₂, hparent, hw⟩ :=
    ensureParent_of_vacant env (hstore ▸ hs : t₁.store.Tree) (hstore ▸ h)
  obtain ⟨t₃, data, hprint, hput⟩ := print_of_writable henv hw h.plain h.nul h.short settings htakes
  have hfile : t₃.store.get? l = some (.file (.plain data)) := by
    rw [hput, Store.get?_put _ _ _ _ h.ne_nil, if_pos rfl]
  have htree : t₃.store.Tree := by
    rw [hput]
    exact hw.tree.put h.ne_nil h.plain hw.directory (by simp [hw.free]) (by simp)
  have hsize : t₃.store.sizeAt env.here (Location.path l) =
      .ok (Entry.file (.plain data)).size := by
    rw [Store.sizeAt, Store.stat_of_some htree h.plain h.short hfile]
    rfl
  exact ⟨_, t₃, Act.bind_ok.mpr ⟨(), t₁, hopen, Act.bind_ok.mpr ⟨(), t₂, hparent,
    Act.bind_ok.mpr ⟨(), t₃, hprint, Disk.during_ok.mpr (Disk.size_ok.mpr ⟨h.nul, hsize, rfl⟩)⟩⟩⟩⟩

end Saving

/-! ## Rows -/

namespace Run

variable {settings : Settings} {output : Location} {source : Source} {d : String}

theorem setCookies_of_decoded {blob : String} {cookies : Cookies}
    (h : Cookies.decode blob = .ok cookies) (line : Option Int) :
    ∃ t, setCookies line blob env s = .ok () t :=
  ⟨_, Act.bind_ok.mpr ⟨cookies, s, Act.ofExcept_ok.mpr ⟨h, rfl⟩, rfl⟩⟩

theorem fetch_of_vacant (henv : env.Flawless) (hs : s.store.Tree) (h : s.store.Vacant l)
    (htakes : source.Takes s.cookies) (settings : Settings) :
    ∃ n t, fetch settings source (Location.path l) env s = .ok n t := by
  cases source with
  | file url =>
      obtain ⟨n, t, hsave⟩ := Saving.file_of_vacant henv hs h url s.cookies settings.requestTimeout
      exact ⟨n, t, Act.bind_ok.mpr ⟨s, s, rfl, hsave⟩⟩
  | page url =>
      obtain ⟨n, t, hsave⟩ := Saving.page_of_vacant henv hs h settings htakes
      exact ⟨n, t, Act.bind_ok.mpr ⟨s, s, rfl, hsave⟩⟩
  | text content =>
      obtain ⟨n, t, hsave⟩ := Saving.text_of_vacant env hs h content
      exact ⟨n, t, Act.bind_ok.mpr ⟨s, s, rfl, hsave⟩⟩

/-- What is there already is skipped. -/
theorem saveIfWanted_of_present (env : Environment) (hsubject : settings.subject = none)
    (hthreshold : settings.threshold = none) (hs : s.store.Tree) (ho : ".." ∉ output)
    (hnul : (Location.path output).holdsNul = false) (hd : Script.Destination.Safe d) {e : Entry}
    (there : s.store.get? (place output d) = some e) (hshort : (place output d).Short)
    (source : Source) :
    saveIfWanted settings (Location.path output) source d env s = .ok () { s with
      notes := s.notes ++ [.alreadyPresent d]
      report := s.report.withSkip "already_present" d } := by
  have hentry := Store.hasEntry_of_some env.here hs (not_mem_place ho hd) hshort
    (holdsNul_place hnul hd) there
  rw [← child_path hd] at hentry
  have hsmall : Verdict.smallSize? settings (Location.path output) d env s = .ok none s := by
    rw [Verdict.smallSize?, hthreshold]
    rfl
  have hpresent : Verdict.onPresent settings (Location.path output) d env s =
      .ok ⟨.alreadyPresent, (Location.path output).child d⟩
        { s with notes := s.notes ++ [.alreadyPresent d] } :=
    Act.bind_ok.mpr ⟨none, s, hsmall, rfl⟩
  have hreach : Verdict.reach settings (Location.path output) d env s =
      .ok ⟨.alreadyPresent, (Location.path output).child d⟩
        { s with notes := s.notes ++ [.alreadyPresent d] } := by
    rw [Verdict.reach, hsubject]
    exact Act.bind_ok.mpr ⟨true, s, Disk.look_ok.mpr ⟨hentry, rfl⟩, hpresent⟩
  exact Act.bind_ok.mpr ⟨_, _, hreach, rfl⟩

/-- What is free is fetched. -/
theorem saveIfWanted_of_vacant (henv : env.Flawless) (hsubject : settings.subject = none)
    (hs : s.store.Tree) (ho : ".." ∉ output) (hnul : (Location.path output).holdsNul = false)
    (hd : Script.Destination.Safe d) (hfree : s.store.get? (place output d) = none)
    (hshort : (place output d).Short)
    (hway : Store.View.Open s.store.get? (place output d).dropLast)
    (htakes : source.Takes s.cookies) :
    ∃ t, saveIfWanted settings (Location.path output) source d env s = .ok () t := by
  have hl := not_mem_place ho hd
  have hnul' := holdsNul_place hnul hd
  have hentry := Store.hasEntry_of_none env.here hs hl hshort hnul' hfree
  have hreach : Verdict.reach settings (Location.path output) d env s =
      .ok ⟨.fetch, (Location.path output).child d⟩ s := by
    rw [Verdict.reach, hsubject]
    refine Act.bind_ok.mpr ⟨false, s, Disk.look_ok.mpr ⟨?_, rfl⟩, rfl⟩
    rwa [child_path hd]
  obtain ⟨n, t, hfetch⟩ := fetch_of_vacant henv hs ⟨hl, hnul', hshort, hfree, hway⟩ htakes settings
  rw [← child_path hd] at hfetch
  exact ⟨_, Act.bind_ok.mpr ⟨_, s, hreach, Act.bind_ok.mpr ⟨(), s, rfl,
    Act.bind_ok.mpr ⟨n, t, hfetch, rfl⟩⟩⟩⟩

/-- In a flawless environment a row that is ready is carried out. -/
theorem row_of_ready (henv : env.Flawless) (hsubject : settings.subject = none)
    (hthreshold : settings.threshold = none) (hs : s.store.Tree) (ho : ".." ∉ output)
    (hnul : (Location.path output).holdsNul = false) {directive : Directive}
    (hlater : directive.IsLater) (h : Ready settings output s.scene directive.action) :
    ∃ t, row settings (Location.path output) directive env s = .ok () t := by
  obtain ⟨line, action⟩ := directive
  cases h with
  | cookies decoded => exact setCookies_of_decoded decoded line
  | @leftOut source d out =>
      show ∃ t, save settings (Location.path output) source d env s = .ok () t
      rw [save_of_leftOut out]
      exact ⟨_, Act.bind_ok.mpr ⟨(), _, rfl, rfl⟩⟩
  | @present source d e wanted there short =>
      show ∃ t, save settings (Location.path output) source d env s = .ok () t
      rw [save_of_wanted wanted]
      exact ⟨_, saveIfWanted_of_present env hsubject hthreshold hs ho hnul hlater there short
        source⟩
  | @vacant source d wanted free short way takes =>
      show ∃ t, save settings (Location.path output) source d env s = .ok () t
      rw [save_of_wanted wanted]
      exact saveIfWanted_of_vacant henv hsubject hs ho hnul hlater free short way takes

/-- In a flawless environment directives whose actions are playable are carried
out. -/
theorem rows_of_playable {bodies pages : String → Bytes} (henv : env.Flawless)
    (hserves : env.Serves bodies pages) (hsubject : settings.subject = none)
    (hthreshold : settings.threshold = none) (ho : ".." ∉ output)
    (hnul : (Location.path output).holdsNul = false) :
    ∀ {directives : List Directive} {s : State}, (∀ directive ∈ directives, directive.IsLater) →
      s.store.Tree →
      Playable settings bodies pages output s.scene (directives.map Directive.action) →
      ∃ t, rows settings (Location.path output) directives env s = .ok () t
  | [], s, _, _, _ => ⟨s, rfl⟩
  | directive :: rest, s, hlater, hs, ⟨hready, hrest⟩ => by
      have hd := hlater directive (List.mem_cons_self ..)
      obtain ⟨t, hrow⟩ := row_of_ready henv hsubject hthreshold hs ho hnul hd hready
      have hturn := row_turn hsubject hs ho hnul hd hrow
      rw [← hturn.plays hthreshold hserves] at hrest
      obtain ⟨s', hrows⟩ := rows_of_playable henv hserves hsubject hthreshold ho hnul
        (fun d h => hlater d (List.mem_cons_of_mem _ h)) (hturn.tree hs) hrest
      exact ⟨s', Act.bind_ok.mpr ⟨(), t, hrow, hrows⟩⟩

end Run

end Dossier
