import Dossier.Proofs.Act.Keeping
import Dossier.Proofs.Store.Calls

/-!
# What saving leaves

A source that is saved to a free place leaves one file there, with the
directories above it, and changes nothing else in the store
(`Saving.file_ok`, `Saving.page_ok`, `Saving.text_ok`).  The contents are what
the source *yields*: the body of a response that arrived in full, the output of
a browser that had just visited the URL, or the bytes of the text.
-/

namespace Dossier

/-! ## Contents -/

/-- The contents that an environment may give for a source.  What the network
and the browser give depends on the trace. -/
def Script.Source.Yields (env : Environment) : Script.Source → Bytes → Prop
  | .file url, data => ∃ trace headers timeout response,
      (env.reply (trace ++ [.requested url headers timeout])).outcome = .ok response ∧
        response.broken = none ∧ response.body = data
  | .page url, data => ∃ trace timeout file format,
      (env.react (trace ++ [.visited url timeout, .printed file format])).output = some data
  | .text content, data => Saving.textBytes content = data

/-- The cookies can be given for a source.  For a page they need its host. -/
def Script.Source.Takes (cookies : Cookies) : Script.Source → Prop
  | .page url => cookies.isEmpty = true ∨ ∃ given, cookies.browserCookies url = .ok given
  | _ => True

/-- A file was saved at a location, and of the store and the accounts nothing
else has changed. -/
structure Saved (l : Location) (data : Bytes) (s s' : State) : Prop where
  /-- The store is a tree. -/
  tree : s'.store.Tree
  /-- It shows the file and the directories above it. -/
  view : s'.store.get? = Store.View.saved s.store.get? l (.plain data)
  /-- The accounts are the same. -/
  accounts : s'.accounts = s.accounts
  /-- The path of the file is short enough. -/
  short : l.Short

namespace Saving

variable {env : Environment} {s s' : State} {l : Location} {cookies : Cookies} {n : Nat}

/-! ## Directories and files -/

/-- The directories above a file are made. -/
theorem ensureParent_ok (hs : s.store.Tree) (hl : ".." ∉ l) {u : Unit}
    (h : Disk.ensureParent (Location.path l) env s = .ok u s') :
    s'.store.Tree ∧ s'.store.get? = Store.View.opened s.store.get? l.dropLast := by
  obtain ⟨_, t, ht, rfl⟩ := Disk.ensureDirectories_ok.mp (Disk.during_ok.mp h)
  have hl' : ".." ∉ l.dropLast := fun hm => hl (List.dropLast_subset _ hm)
  have hopens := Store.ensureDirectories_opens hs hl' ht
  exact ⟨hopens.tree, hopens.view⟩

/-- A file that is written where the directories above it were made is saved. -/
theorem saved_of_write (hl : ".." ∉ l) {t t' : State} {data : Bytes} {u : Unit}
    (ht : t.store.Tree) (hview : t.store.get? = Store.View.opened s.store.get? l.dropLast)
    (h : Disk.write (Location.path l) (.plain data) env t = .ok u t')
    (hstore : s'.store = t'.store) (haccounts : s'.accounts = s.accounts) :
    Saved l data s s' := by
  obtain ⟨_, store, hwrite, rfl⟩ := Disk.change_ok.mp h
  have htree := ht.write (by rwa [Store.location_path env.here hl]) hwrite
  have hshort : l.Short := by
    rw [Store.write, Store.placeToWrite] at hwrite
    cases hf : t.store.find env.here (Location.path l) true with
    | error e =>
        rw [hf] at hwrite
        cases hwrite
    | ok spot => exact ((Store.find_ok_iff ht hl).mp hf).1
  obtain ⟨rfl, hne, -⟩ := Store.write_ok ht hwrite
  rw [Store.location_path env.here hl] at hne htree
  refine ⟨by rwa [hstore, Store.location_path env.here hl], ?_, haccounts, hshort⟩
  funext m
  rw [hstore]
  show (t.store.put _ _).get? m = _
  rw [Store.location_path env.here hl, Store.get?_put _ l m _ hne, Store.View.saved, hview]

/-! ## Text -/

theorem text_ok (hs : s.store.Tree) (hl : ".." ∉ l) {content : String}
    (h : Saving.text content (Location.path l) env s = .ok n s') :
    n = (textBytes content).length ∧ Saved l (textBytes content) s s' := by
  have haccounts := (((Act.Busy.accounts env).admits _).follows_text content).ok h
  obtain ⟨_, s₁, hparent, h⟩ := Act.bind_ok.mp h
  obtain ⟨htree, hview⟩ := ensureParent_ok hs hl hparent
  obtain ⟨_, s₂, hwrite, h⟩ := Act.bind_ok.mp h
  obtain ⟨rfl, rfl⟩ := Act.pure_ok.mp h
  exact ⟨rfl, saved_of_write hl htree hview (Disk.during_ok.mp hwrite) rfl haccounts⟩

/-! ## Files -/

theorem request_ok {e : Event} {outcome : Except TransportFault Response}
    (h : Act.request e env s = .ok outcome s') :
    outcome = (env.reply (s.trace ++ [e])).outcome := by
  cases h
  rfl

/-- A download that is discarded fails. -/
theorem discard_fails {file : Path} {fault : Fault} {u : Unit} :
    ¬ discard file fault env s = .ok u s' := by
  intro h
  unfold discard at h
  split at h
  · obtain ⟨_, _, _, hthrow⟩ := Act.bind_ok.mp h
    exact Act.throw_ok hthrow
  · obtain ⟨_, _, _, hthrow⟩ := Act.bind_ok.mp h
    exact Act.throw_ok hthrow
  · exact Act.throw_ok h

theorem writeBody_ok {url : String} {file : Path} {response : Response} {u : Unit}
    (h : writeBody url file response env s = .ok u s') :
    response.broken = none ∧ Disk.write file (.plain response.body) env s = .ok u s' := by
  rw [writeBody_eq] at h
  obtain ⟨_, t, hwrite, h⟩ := Act.bind_ok.mp h
  cases hb : response.broken with
  | none =>
      rw [hb] at h
      obtain ⟨rfl, rfl⟩ := Act.pure_ok.mp h
      exact ⟨rfl, hwrite⟩
  | some fault =>
      rw [hb] at h
      exact absurd h Act.throw_ok

theorem receive_ok {url : String} {file : Path} {response : Response}
    (h : receive url file response env s = .ok n s') :
    ∃ t, t.holdings = s.holdings ∧ response.broken = none ∧ n = response.body.length ∧
      Disk.write file (.plain response.body) env t = .ok () s' := by
  obtain ⟨_, t, hnote, h⟩ := Act.bind_ok.mp h
  obtain ⟨_, t', hrescue, h⟩ := Act.bind_ok.mp h
  obtain ⟨rfl, rfl⟩ := Act.pure_ok.mp h
  cases Act.rescue_ok.mp hrescue with
  | inl hwrite =>
      obtain ⟨hbroken, hwrite⟩ := writeBody_ok hwrite
      exact ⟨t, (keeps_noteStatus url response).ok hnote, hbroken,
        congrArg Prod.snd response.received_eq, hwrite⟩
  | inr hfail =>
      obtain ⟨fault, t', _, hdiscard⟩ := hfail
      exact absurd hdiscard discard_fails

theorem file_ok (hs : s.store.Tree) (hl : ".." ∉ l) {url : String} {timeout : Timeout}
    (h : Saving.file url (Location.path l) cookies timeout env s = .ok n s') :
    ∃ data, Script.Source.Yields env (.file url) data ∧ n = data.length ∧ Saved l data s s' := by
  have haccounts := (((Act.Busy.accounts env).admits _).follows_file
    ((Act.Busy.accounts env).follows_unlinkIfThere _) url cookies timeout).ok h
  obtain ⟨_, s₁, hparent, h⟩ := Act.bind_ok.mp h
  obtain ⟨htree, hview⟩ := ensureParent_ok hs hl hparent
  obtain ⟨response, s₂, hrequest, h⟩ := Act.bind_ok.mp h
  obtain ⟨outcome, s₃, hasked, hanswer⟩ := Act.bind_ok.mp hrequest
  obtain ⟨houtcome, rfl⟩ := Act.ofExcept_ok.mp hanswer
  obtain ⟨s₄, hreceive, hclosed⟩ := Act.andAlways_ok.mp h
  obtain ⟨s₅, hkeep, hbroken, rfl, hwrite⟩ := receive_ok hreceive
  obtain ⟨hstore, _⟩ := State.holdings_inj (hkeep.trans ((Act.keeps_request _).ok hasked))
  obtain ⟨hclose, _⟩ := State.holdings_inj ((Act.keeps_record _).ok hclosed)
  refine ⟨response.body,
    ⟨s₁.trace, cookieHeaders cookies, timeout, response, ?_, hbroken, rfl⟩, rfl, ?_⟩
  · rw [← request_ok hasked, houtcome]
  · exact saved_of_write hl (hstore ▸ htree) (by rw [hstore, hview]) hwrite hclose haccounts

/-! ## Pages -/

theorem settle_ok {reaction : Reaction} {u : Unit} (h : Act.settle reaction env s = .ok u s') :
    reaction.failure = none ∧ s' = s := by
  rw [Act.settle] at h
  cases hf : reaction.failure with
  | none =>
      rw [hf] at h
      exact ⟨rfl, (Act.pure_ok.mp h).2.symm⟩
  | some message =>
      rw [hf] at h
      exact absurd h Act.throw_ok

theorem call_ok {e : Event} {u : Unit} (h : Browser.call e env s = .ok u s') :
    s'.trace = s.trace ++ [e] := by
  obtain ⟨reaction, t, hbrowse, hsettle⟩ := Act.bind_ok.mp h
  obtain ⟨_, rfl⟩ := settle_ok hsettle
  cases hbrowse
  rfl

theorem browse_ok {e : Event} {reaction : Reaction} (h : Act.browse e env s = .ok reaction s') :
    reaction = env.react (s.trace ++ [e]) := by
  cases h
  rfl

/-- What a browser prints is written, if it prints anything. -/
theorem printFrom_ok {settings : Settings} {url : String} {file : Path} {u : Unit}
    (h : printFrom settings url file env s = .ok u s') :
    ∃ t, t.holdings = s.holdings ∧
      ((∃ data t', Script.Source.Yields env (.page url) data ∧
          Disk.write file (.plain data) env t = .ok () t' ∧ s'.holdings = t'.holdings) ∨
        s'.holdings = t.holdings) := by
  obtain ⟨_, s₁, hvisit, h⟩ := Act.bind_ok.mp h
  obtain ⟨reaction, s₂, hprint, h⟩ := Act.bind_ok.mp h
  obtain ⟨_, s₃, hkeep, hsettle⟩ := Act.bind_ok.mp h
  have hhold : s₂.holdings = s.holdings :=
    ((Act.keeps_browse _).ok hprint).trans ((Browser.keeps_call _).ok hvisit)
  refine ⟨s₂, hhold, ?_⟩
  rw [keepOutput] at hkeep
  cases hout : reaction.output with
  | some output =>
      rw [hout] at hkeep
      refine Or.inl ⟨output, s₃, ?_, hkeep, (Act.keeps_settle _).ok hsettle⟩
      refine ⟨s.trace, settings.navigationTimeout, file, settings.pageFormat, ?_⟩
      rw [browse_ok hprint, call_ok hvisit] at hout
      simpa using hout
  | none =>
      rw [hout] at hkeep
      obtain ⟨_, rfl⟩ := Act.pure_ok.mp hkeep
      exact Or.inr ((Act.keeps_settle _).ok hsettle)

theorem giveCookies_ok {url : String} {u : Unit} (h : giveCookies url cookies env s = .ok u s') :
    Script.Source.Takes cookies (.page url) := by
  rw [giveCookies] at h
  split at h
  · rename_i hempty
    exact Or.inl hempty
  · obtain ⟨given, _, hgiven, _⟩ := Act.bind_ok.mp h
    exact Or.inr ⟨given, (Act.ofExcept_ok.mp hgiven).1⟩

theorem print_ok {settings : Settings} {url : String} {file : Path} {u : Unit}
    (h : print settings url file cookies env s = .ok u s') :
    Script.Source.Takes cookies (.page url) ∧ ∃ t, t.holdings = s.holdings ∧
      ((∃ data t', Script.Source.Yields env (.page url) data ∧
          Disk.write file (.plain data) env t = .ok () t' ∧ s'.holdings = t'.holdings) ∨
        s'.holdings = t.holdings) := by
  obtain ⟨_, s₁, hopen, h⟩ := Act.bind_ok.mp h
  obtain ⟨s₂, hvisit, hclose⟩ := Act.andAlways_ok.mp h
  obtain ⟨_, s₃, hgive, hvisit⟩ := Act.bind_ok.mp (Act.mapFault_ok.mp hvisit)
  obtain ⟨_, s₄, hpage, hprint⟩ := Act.bind_ok.mp hvisit
  obtain ⟨t, ht, hout⟩ := printFrom_ok hprint
  have hclosed := (Browser.keeps_call _).ok hclose
  have h₁ := (Browser.keeps_call _).ok (Act.mapFault_ok.mp hopen)
  have h₃ := (keeps_giveCookies url cookies).ok hgive
  have h₄ := (Browser.keeps_call _).ok hpage
  refine ⟨giveCookies_ok hgive, t, ht.trans (h₄.trans (h₃.trans h₁)), ?_⟩
  rcases hout with ⟨data, t', hyield, hwrite, hafter⟩ | hafter
  · exact Or.inl ⟨data, t', hyield, hwrite, hclosed.trans hafter⟩
  · exact Or.inr (hclosed.trans hafter)

/-- A page that is saved to a free place leaves what the browser printed.  If the
browser prints nothing there is nothing to read back, and saving fails. -/
theorem page_ok (hs : s.store.Tree) (hl : ".." ∉ l) (hfree : s.store.get? l = none)
    {settings : Settings} {url : String}
    (h : Saving.page settings url (Location.path l) cookies env s = .ok n s') :
    Script.Source.Takes cookies (.page url) ∧
      ∃ data, Script.Source.Yields env (.page url) data ∧ n = data.length ∧ Saved l data s s' := by
  have haccounts := (((Act.Busy.accounts env).admits _).follows_page settings url cookies).ok h
  obtain ⟨_, s₁, hopen, h⟩ := Act.bind_ok.mp h
  obtain ⟨hstore, _⟩ := State.holdings_inj ((Browser.keeps_ensureOpen settings).ok hopen)
  obtain ⟨_, s₂, hparent, h⟩ := Act.bind_ok.mp h
  obtain ⟨htree, hview⟩ := ensureParent_ok (hstore ▸ hs) hl hparent
  obtain ⟨_, s₃, hprint, hread⟩ := Act.bind_ok.mp h
  obtain ⟨_, hsize, rfl⟩ := Disk.size_ok.mp (Disk.during_ok.mp hread)
  obtain ⟨htakes, t, ht, hout⟩ := print_ok hprint
  refine ⟨htakes, ?_⟩
  obtain ⟨htstore, _⟩ := State.holdings_inj ht
  have htview : t.store.get? = Store.View.opened s.store.get? l.dropLast := by
    rw [htstore, hview, hstore]
  rcases hout with ⟨data, t', hyield, hwrite, hafter⟩ | hafter
  · have hsaved : Saved l data s s' := saved_of_write hl (htstore ▸ htree) htview hwrite
      (State.holdings_inj hafter).1 haccounts
    obtain ⟨e, hget, rfl⟩ := Store.sizeAt_ok hsaved.tree hsize
    rw [Store.location_path env.here hl, hsaved.view] at hget
    have he : Entry.file (.plain data) = e := by
      simpa [Store.View.saved] using hget
    exact ⟨data, hyield, he ▸ rfl, hsaved⟩
  · obtain ⟨hafterStore, _⟩ := State.holdings_inj hafter
    obtain ⟨e, hget, _⟩ := Store.sizeAt_ok (hafterStore ▸ htstore ▸ htree) hsize
    have hne : l ≠ [] := fun hnil => by simp [hnil] at hfree
    rw [Store.location_path env.here hl, hafterStore, htview,
      Store.View.opened_dropLast_self hne, hfree] at hget
    cases hget

end Saving

end Dossier
