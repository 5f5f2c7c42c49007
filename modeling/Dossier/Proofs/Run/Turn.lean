import Dossier.Proofs.Run.Places
import Dossier.Proofs.Saving
import Dossier.Run

/-!
# The turn of a row

Without a subject there are five ways a row can go, its *turn*: it sets
cookies, its page is not wanted, its destination is there already, it is
fetched to a free place, or its directory is cleared and it is fetched then.
Each turn says all there is to say about the store and the accounts after it
(`row_turn`).

`Turns` chains the turns of the rows of a script (`rows_turns`).  Whatever a
run keeps or adds up is shown by induction on this chain, with one case for
each turn.
-/

namespace Dossier

open Script (Directive Source Action)

/-! ## Turns -/

/-- A source that these settings leave out. -/
def Settings.leavesOut (settings : Settings) : Source → Bool
  | .page _ => settings.skipPages
  | _ => false

/-- What is skipped if an action is: a page that is left out, or a destination for a
reason of its own. -/
def Settings.skipAs (settings : Settings) (category : String) : Action → Option Skip
  | .save source d => some ⟨if settings.leavesOut source then "pdf_disabled" else category, d⟩
  | _ => none

/-- Responses with fewer bytes than the settings ask for. -/
def Settings.TooSmall (settings : Settings) (destination : String) (e : Entry) : Prop :=
  ∃ threshold, settings.threshold = some threshold ∧ Verdict.isResponses destination = true ∧
    (e.size : Int) < threshold

namespace Run

/-- The ways a row can go without a subject, and what each leaves. -/
inductive Turn (settings : Settings) (env : Environment) (output : Location) (s s' : State) :
    Action → Prop
  /-- The row sets cookies. -/
  | cookies {blob : String} {cookies : Cookies} (decoded : Cookies.decode blob = .ok cookies)
      (store : s'.store = s.store)
      (accounts : s'.accounts = { s.accounts with cookies := cookies }) :
      Turn settings env output s s' (.cookies blob)
  /-- The page is not wanted. -/
  | leftOut {source : Source} {destination : String} (out : settings.leavesOut source = true)
      (store : s'.store = s.store)
      (accounts : s'.accounts = { s.accounts with
        report := s.report.withSkip "pdf_disabled" destination }) :
      Turn settings env output s s' (.save source destination)
  /-- The destination is there already. -/
  | present {source : Source} {destination : String} {e : Entry}
      (wanted : settings.leavesOut source = false)
      (there : s.store.get? (place output destination) = some e)
      (short : (place output destination).Short)
      (large : ¬ settings.TooSmall destination e)
      (store : s'.store = s.store)
      (accounts : s'.accounts = { s.accounts with
        report := s.report.withSkip "already_present" destination
        ledger := s.ledger ++ [.alreadyPresent destination] }) :
      Turn settings env output s s' (.save source destination)
  /-- The destination is free and is fetched. -/
  | fetched {source : Source} {destination : String} {data : Bytes}
      (wanted : settings.leavesOut source = false)
      (free : s.store.get? (place output destination) = none)
      (yields : source.Yields env data)
      (takes : source.Takes s.cookies)
      (short : (place output destination).Short)
      (tree : s'.store.Tree)
      (view : s'.store.get? =
        Store.View.saved s.store.get? (place output destination) (.plain data))
      (accounts : s'.accounts = { s.accounts with
        report := s.report.withFetch destination data.length
        ledger := s.ledger ++ [.saved destination data.length] }) :
      Turn settings env output s s' (.save source destination)
  /-- The destination is too small.  It is cleared and fetched again. -/
  | refetched {source : Source} {destination : String} {e : Entry} {data : Bytes}
      (wanted : settings.leavesOut source = false)
      (there : s.store.get? (place output destination) = some e)
      (small : settings.TooSmall destination e)
      (yields : source.Yields env data)
      (short : (place output destination).Short)
      (tree : s'.store.Tree)
      (view : s'.store.get? = Store.View.saved
        (Store.View.emptied s.store.get? output (place output destination))
        (place output destination) (.plain data))
      (accounts : s'.accounts = { s.accounts with
        report := (s.report.withRefetch destination).withFetch destination data.length
        ledger := s.ledger ++
          [.refetching destination e.size (Location.path (place output destination).dropLast),
            .saved destination data.length] }) :
      Turn settings env output s s' (.save source destination)

variable {settings : Settings} {env : Environment} {source : Source} {s s' : State}
  {output : Location} {destination : String}

/-! ## Verdicts -/

theorem smallSize?_ok (hs : s.store.Tree) (hd : Script.Destination.Safe destination)
    (hl : ".." ∉ place output destination) {small : Option Nat}
    (h : Verdict.smallSize? settings (Location.path output) destination env s = .ok small s') :
    s' = s ∧ (∀ e, s.store.get? (place output destination) = some e →
      (small = none ∧ ¬ settings.TooSmall destination e) ∨
        (small = some e.size ∧ settings.TooSmall destination e)) := by
  rw [Verdict.smallSize?] at h
  cases ht : settings.threshold with
  | none =>
      rw [ht] at h
      obtain ⟨rfl, rfl⟩ := Act.pure_ok.mp h
      refine ⟨rfl, fun e _ => Or.inl ⟨rfl, ?_⟩⟩
      rintro ⟨threshold, hth, -⟩
      rw [ht] at hth
      cases hth
  | some threshold =>
      rw [ht] at h
      by_cases hr : Verdict.isResponses destination = true
      · simp only [if_pos hr] at h
        obtain ⟨size, t, hsize, h⟩ := Act.bind_ok.mp h
        obtain ⟨hsmall, rfl⟩ := Act.pure_ok.mp h
        obtain ⟨_, hsize, rfl⟩ := Disk.size_ok.mp hsize
        obtain ⟨found, hfound, rfl⟩ := Store.sizeAt_ok hs hsize
        rw [child_path hd, Store.location_path env.here hl] at hfound
        refine ⟨rfl, fun e he => ?_⟩
        obtain rfl : found = e := Option.some.inj (hfound.symm.trans he)
        by_cases hlt : (found.size : Int) < threshold
        · rw [if_pos hlt] at hsmall
          exact Or.inr ⟨hsmall.symm, threshold, ht, hr, hlt⟩
        · rw [if_neg hlt] at hsmall
          refine Or.inl ⟨hsmall.symm, ?_⟩
          rintro ⟨threshold', hth, _, hlt'⟩
          rw [ht] at hth
          cases hth
          exact hlt hlt'
      · simp only [if_neg hr] at h
        obtain ⟨rfl, rfl⟩ := Act.pure_ok.mp h
        refine ⟨rfl, fun e _ => Or.inl ⟨rfl, ?_⟩⟩
        rintro ⟨_, _, hr', _⟩
        exact hr hr'

/-- The last segment of responses. -/
theorem segments_of_isResponses (hd : Script.Destination.Safe destination)
    (hr : Verdict.isResponses destination = true) :
    Script.Destination.directory destination ++ [Verdict.responsesName] =
      Script.Destination.segments destination := by
  rw [Verdict.isResponses, Script.Destination.ofString_of_safe hd, beq_iff_eq, Path.name] at hr
  have hne := Script.Destination.segments_ne_nil destination
  rw [List.getLast?_eq_some_getLast hne, Option.getD_some] at hr
  rw [← hr, Script.Destination.directory, List.dropLast_concat_getLast hne]

theorem child_responses (hd : Script.Destination.Safe destination)
    (hr : Verdict.isResponses destination = true) (output : Location) :
    (Location.path (place output destination).dropLast).child Verdict.responsesName =
      Location.path (place output destination) := by
  have hsafe : Script.Destination.Safe Verdict.responsesName := by decide
  have hsegments : Script.Destination.segments Verdict.responsesName = [Verdict.responsesName] := by
    decide
  rw [child_path hsafe, place, hsegments, dropLast_place, List.append_assoc,
    segments_of_isResponses hd hr, place]

/-- Clearing removes the directory of responses, or them alone if it is the
output directory. -/
theorem clear_ok (hs : s.store.Tree) (hl : ".." ∉ place output destination)
    (hd : Script.Destination.Safe destination) (hr : Verdict.isResponses destination = true)
    {u : Unit}
    (h : Verdict.clear (Location.path output) (Location.path (place output destination).dropLast)
      env s = .ok u s') :
    s'.store.Tree ∧
      s'.store.get? = Store.View.emptied s.store.get? output (place output destination) ∧
      s'.accounts = s.accounts := by
  have hl' : ".." ∉ (place output destination).dropLast :=
    fun hm => hl (List.dropLast_subset _ hm)
  have h := Disk.during_ok.mp h
  by_cases hout : (place output destination).dropLast = output
  · rw [if_pos (by rw [hout]), child_responses hd hr] at h
    obtain ⟨_, t, hunlink, rfl⟩ := Disk.change_ok.mp h
    obtain ⟨rfl, hne, c, hfile⟩ := Store.unlink_ok hs hunlink
    rw [Store.location_path env.here hl] at hne hfile ⊢
    refine ⟨hs.erase hne (by simp [hfile]), ?_, rfl⟩
    funext m
    show (s.store.erase _).get? m = _
    rw [Store.get?_erase _ _ m hne, Store.View.emptied, if_pos hout, Store.View.erased]
  · have hpath : Location.path (place output destination).dropLast ≠ Location.path output :=
      fun he => hout (congrArg Path.parts he)
    rw [if_neg hpath] at h
    obtain ⟨_, t, hremove, rfl⟩ := Disk.removeTree_ok.mp h
    obtain ⟨rfl, hdir⟩ := Store.removeTree_ok hs (Store.name_path_ne_dots hl') hremove
    rw [Store.location_path env.here hl'] at hdir ⊢
    have hne : (place output destination).dropLast ≠ [] := by
      intro hnil
      rw [dropLast_place, List.append_eq_nil_iff] at hnil
      exact hout (by rw [dropLast_place, hnil.1, hnil.2, List.append_nil])
    refine ⟨hs.eraseTree hne, ?_, rfl⟩
    funext m
    show (s.store.eraseTree _).get? m = _
    rw [Store.get?_eraseTree _ _ m hne, Store.View.emptied, if_neg hout, Store.View.cleared]

theorem tooSmall_ok (hs : s.store.Tree) (hl : ".." ∉ place output destination)
    (hd : Script.Destination.Safe destination) (hr : Verdict.isResponses destination = true)
    {size : Nat} {decision : Decision}
    (h : Verdict.tooSmall (Location.path output) destination size env s = .ok decision s') :
    decision = ⟨.refetchTooSmall, Location.path (place output destination)⟩ ∧ s'.store.Tree ∧
      s'.store.get? = Store.View.emptied s.store.get? output (place output destination) ∧
      s'.accounts = { s.accounts with ledger := s.ledger ++
        [.refetching destination size (Location.path (place output destination).dropLast)] } := by
  obtain ⟨_, t, hnote, h⟩ := Act.bind_ok.mp h
  obtain ⟨_, _, hclear, h⟩ := Act.bind_ok.mp h
  obtain ⟨rfl, rfl⟩ := Act.pure_ok.mp h
  rw [child_path hd] at hnote hclear ⊢
  have hstore : t.store = s.store := by rw [Act.modify_ok.mp hnote]
  have haccounts : t.accounts = { s.accounts with ledger := s.ledger ++
      [.refetching destination size (Location.path (place output destination).dropLast)] } := by
    rw [Act.modify_ok.mp hnote]
    simp [State.accounts, State.ledger, Note.isEntry, Path.parent, Location.path]
  obtain ⟨htree, hview, hacc⟩ := clear_ok (hstore ▸ hs) hl hd hr hclear
  exact ⟨rfl, htree, hstore ▸ hview, hacc.trans haccounts⟩

/-- The decisions without a subject, and what reaching each leaves. -/
theorem reach_ok (hsubject : settings.subject = none) (hs : s.store.Tree) (ho : ".." ∉ output)
    (hnul : (Location.path output).holdsNul = false) (hd : Script.Destination.Safe destination)
    {decision : Decision}
    (h : Verdict.reach settings (Location.path output) destination env s = .ok decision s') :
    (decision = ⟨.fetch, Location.path (place output destination)⟩ ∧ s' = s ∧
      s.store.get? (place output destination) = none) ∨
    (decision = ⟨.alreadyPresent, Location.path (place output destination)⟩ ∧
      s'.store = s.store ∧
      s'.accounts = { s.accounts with ledger := s.ledger ++ [.alreadyPresent destination] } ∧
      ∃ e, s.store.get? (place output destination) = some e ∧
        (place output destination).Short ∧ ¬ settings.TooSmall destination e) ∨
    (decision = ⟨.refetchTooSmall, Location.path (place output destination)⟩ ∧ s'.store.Tree ∧
      s'.store.get? = Store.View.emptied s.store.get? output (place output destination) ∧
      ∃ e, s.store.get? (place output destination) = some e ∧ settings.TooSmall destination e ∧
        s'.accounts = { s.accounts with ledger := s.ledger ++
          [.refetching destination e.size
            (Location.path (place output destination).dropLast)] }) := by
  have hl := not_mem_place ho hd
  rw [Verdict.reach, hsubject, child_path hd] at h
  obtain ⟨there, t, hlook, h⟩ := Act.bind_ok.mp h
  obtain ⟨hask, rfl⟩ := Disk.look_ok.mp hlook
  cases there with
  | false =>
      obtain ⟨rfl, rfl⟩ := Act.pure_ok.mp h
      exact Or.inl ⟨rfl, rfl, Store.hasEntry_false hs hl (holdsNul_place hnul hd) hask⟩
  | true =>
      obtain ⟨e, hshort, he⟩ := Store.hasEntry_true hs hl hask
      obtain ⟨small, t', hsmall, h⟩ := Act.bind_ok.mp h
      obtain ⟨rfl, hwhich⟩ := smallSize?_ok hs hd hl hsmall
      rcases hwhich e he with ⟨rfl, hlarge⟩ | ⟨rfl, htoo⟩
      · obtain ⟨_, t'', hnote, h⟩ := Act.bind_ok.mp h
        obtain ⟨rfl, rfl⟩ := Act.pure_ok.mp h
        obtain rfl := Act.modify_ok.mp hnote
        rw [child_path hd]
        refine Or.inr (Or.inl ⟨rfl, rfl, ?_, e, he, hshort, hlarge⟩)
        simp [State.accounts, State.ledger, Note.isEntry]
      · have hr : Verdict.isResponses destination = true := htoo.choose_spec.2.1
        obtain ⟨rfl, htree, hview, hacc⟩ := tooSmall_ok hs hl hd hr h
        exact Or.inr (Or.inr ⟨rfl, htree, hview, e, he, htoo, hacc⟩)

/-! ## Rows -/

theorem tooSmall_file {p : Path} {size : Nat} {decision : Decision}
    (h : Verdict.tooSmall p destination size env s = .ok decision s') :
    decision.file = p.child destination := by
  obtain ⟨_, _, _, h⟩ := Act.bind_ok.mp h
  obtain ⟨_, _, _, h⟩ := Act.bind_ok.mp h
  obtain ⟨rfl, _⟩ := Act.pure_ok.mp h
  rfl

theorem onPresent_file {p : Path} {decision : Decision}
    (h : Verdict.onPresent settings p destination env s = .ok decision s') :
    decision.file = p.child destination := by
  obtain ⟨small, _, _, h⟩ := Act.bind_ok.mp h
  cases small with
  | some size => exact tooSmall_file h
  | none =>
      obtain ⟨_, _, _, h⟩ := Act.bind_ok.mp h
      obtain ⟨rfl, _⟩ := Act.pure_ok.mp h
      rfl

/-- A decision is on the file of its destination. -/
theorem reach_file {p : Path} {decision : Decision}
    (h : Verdict.reach settings p destination env s = .ok decision s') :
    decision.file = p.child destination := by
  rw [Verdict.reach] at h
  cases hsubject : settings.subject with
  | some subject =>
      simp only [hsubject] at h
      by_cases hwanted : destination = Verdict.responsesOf subject
      · rw [if_pos hwanted] at h
        obtain ⟨rfl, _⟩ := Act.pure_ok.mp h
        rfl
      · rw [if_neg hwanted] at h
        obtain ⟨_, _, _, h⟩ := Act.bind_ok.mp h
        obtain ⟨rfl, _⟩ := Act.pure_ok.mp h
        rfl
  | none =>
      simp only [hsubject] at h
      obtain ⟨there, _, _, h⟩ := Act.bind_ok.mp h
      cases there with
      | true => exact onPresent_file h
      | false =>
          obtain ⟨rfl, _⟩ := Act.pure_ok.mp h
          rfl

/-- What is wanted is fetched to the file of its destination. -/
theorem saveIfWanted_eq (settings : Settings) (p : Path) (source : Source) (d : String) :
    saveIfWanted settings p source d = (do
      let decision ← Verdict.reach settings p d
      if decision.isFetch then
        announce decision.verdict d
        acquire settings (p.child d) source d
      else skip decision.name d) := by
  funext env s
  rw [saveIfWanted]
  cases hreach : Verdict.reach settings p d env s with
  | ok decision t =>
      rw [Act.bind_of_ok hreach, Act.bind_of_ok hreach, reach_file hreach]
  | error fault t =>
      rw [Act.bind_error.mpr (Or.inl hreach), Act.bind_error.mpr (Or.inl hreach)]

theorem fetch_ok (hs : s.store.Tree) {l : Location} (hl : ".." ∉ l) (hfree : s.store.get? l = none)
    {n : Nat} (h : fetch settings source (Location.path l) env s = .ok n s') :
    source.Takes s.cookies ∧
      ∃ data, source.Yields env data ∧ n = data.length ∧ Saved l data s s' := by
  obtain ⟨_, t, hget, h⟩ := Act.bind_ok.mp h
  obtain ⟨rfl, rfl⟩ := Act.get_ok.mp hget
  cases source with
  | file url => exact ⟨trivial, Saving.file_ok hs hl h⟩
  | page url => exact Saving.page_ok hs hl hfree h
  | text content =>
      obtain ⟨hn, hsaved⟩ := Saving.text_ok hs hl h
      exact ⟨trivial, _, rfl, hn, hsaved⟩

theorem acquire_ok (hs : s.store.Tree) (ho : ".." ∉ output)
    (hd : Script.Destination.Safe destination)
    (hfree : s.store.get? (place output destination) = none) {u : Unit}
    (h : acquire settings (Location.path (place output destination)) source destination env s =
      .ok u s') :
    source.Takes s.cookies ∧ ∃ data, source.Yields env data ∧
      (place output destination).Short ∧ s'.store.Tree ∧
      s'.store.get? = Store.View.saved s.store.get? (place output destination) (.plain data) ∧
      s'.accounts = { s.accounts with
        report := s.report.withFetch destination data.length
        ledger := s.ledger ++ [.saved destination data.length] } := by
  obtain ⟨n, t, hfetch, h⟩ := Act.bind_ok.mp h
  obtain ⟨htakes, data, hyields, rfl, hsaved⟩ := fetch_ok hs (not_mem_place ho hd) hfree hfetch
  obtain ⟨_, t', haccount, hnote⟩ := Act.bind_ok.mp h
  obtain rfl := Act.modify_ok.mp haccount
  obtain rfl := Act.modify_ok.mp hnote
  refine ⟨htakes, data, hyields, hsaved.short, hsaved.tree, hsaved.view, ?_⟩
  have hacc := hsaved.accounts
  simp only [State.accounts, Accounts.mk.injEq] at hacc ⊢
  obtain ⟨hreport, hcookies, hledger⟩ := hacc
  refine ⟨by rw [hreport], hcookies, ?_⟩
  rw [State.ledger, List.filter_append, ← State.ledger, hledger]
  rfl

/-- A row that saves takes one of the turns for it. -/
theorem saveIfWanted_turn (hsubject : settings.subject = none) (hs : s.store.Tree)
    (ho : ".." ∉ output) (hnul : (Location.path output).holdsNul = false)
    (hd : Script.Destination.Safe destination) (hwanted : settings.leavesOut source = false)
    {u : Unit}
    (h : saveIfWanted settings (Location.path output) source destination env s = .ok u s') :
    Turn settings env output s s' (.save source destination) := by
  obtain ⟨decision, t, hreach, hafter⟩ := Act.bind_ok.mp h
  rcases reach_ok hsubject hs ho hnul hd hreach with
    ⟨rfl, rfl, hfree⟩ | ⟨rfl, hstore, hacc, e, he, hshort, hlarge⟩ |
      ⟨rfl, htree, hview, e, he, hsmall, hacc⟩
  · obtain ⟨_, t', hannounce, hacquire⟩ := Act.bind_ok.mp hafter
    obtain ⟨_, rfl⟩ := Act.pure_ok.mp hannounce
    obtain ⟨htakes, data, hyields, hshort, htree, hview, hacc⟩ :=
      acquire_ok hs ho hd hfree hacquire
    exact .fetched hwanted hfree hyields htakes hshort htree hview hacc
  · obtain rfl := Act.modify_ok.mp hafter
    refine .present hwanted he hshort hlarge hstore ?_
    simp only [State.accounts, Accounts.mk.injEq] at hacc ⊢
    obtain ⟨hreport, hcookies, hledger⟩ := hacc
    exact ⟨by rw [hreport]; rfl, hcookies, hledger⟩
  · obtain ⟨_, t', hannounce, hacquire⟩ := Act.bind_ok.mp hafter
    have ht' : t' = { t with report := t.report.withRefetch destination } :=
      Act.modify_ok.mp hannounce
    have hfree : t'.store.get? (place output destination) = none := by
      rw [ht', hview, emptied_of_beside (beside_place output destination)]
    obtain ⟨_, data, hyields, hshort, htree', hview', hacc'⟩ :=
      acquire_ok (by rw [ht']; exact htree) ho hd hfree hacquire
    refine .refetched hwanted he hsmall hyields hshort htree' (by rw [hview', ht', hview]) ?_
    simp only [State.accounts, Accounts.mk.injEq] at hacc hacc' ⊢
    obtain ⟨hreport, hcookies, hledger⟩ := hacc
    obtain ⟨hreport', hcookies', hledger'⟩ := hacc'
    refine ⟨by rw [hreport', ht', hreport], by rw [hcookies', ht', hcookies], ?_⟩
    rw [hledger', ht']
    show t.ledger ++ _ = _
    rw [hledger, List.append_assoc]
    rfl

theorem save_of_wanted (hwanted : settings.leavesOut source = false) (p : Path) (d : String) :
    save settings p source d = saveIfWanted settings p source d := by
  cases source with
  | file url => rfl
  | text content => rfl
  | page url =>
      have hskip : settings.skipPages = false := hwanted
      simp only [save, hskip]

theorem save_of_leftOut (hout : settings.leavesOut source = true) (p : Path) (d : String) :
    save settings p source d =
      (Act.note (.pagesDisabled d) >>= fun _ => skip "pdf_disabled" d) := by
  cases source with
  | file url => cases hout
  | text content => cases hout
  | page url =>
      have hskip : settings.skipPages = true := hout
      simp only [save, hskip]

/-- A row that is carried out takes a turn. -/
theorem row_turn (hsubject : settings.subject = none) (hs : s.store.Tree) (ho : ".." ∉ output)
    (hnul : (Location.path output).holdsNul = false) {directive : Directive}
    (hlater : directive.IsLater) {u : Unit}
    (h : row settings (Location.path output) directive env s = .ok u s') :
    Turn settings env output s s' directive.action := by
  rw [row] at h
  rw [Directive.IsLater] at hlater
  cases haction : directive.action with
  | archiveName name => rw [haction] at hlater; exact hlater.elim
  | cookies blob =>
      rw [haction] at h
      obtain ⟨cookies, t, hread, hafter⟩ := Act.bind_ok.mp h
      obtain ⟨_, t', hset, hnote⟩ := Act.bind_ok.mp hafter
      obtain ⟨hdecode, rfl⟩ := Act.ofExcept_ok.mp hread
      obtain ⟨hstore, hacc⟩ := State.holdings_inj ((Act.keeps_note rfl).ok hnote)
      obtain rfl := Act.modify_ok.mp hset
      exact .cookies hdecode hstore hacc
  | save source destination =>
      rw [haction] at h hlater
      by_cases hout : settings.leavesOut source = true
      · simp only [save_of_leftOut hout] at h
        obtain ⟨_, t, hnote, hskip⟩ := Act.bind_ok.mp h
        obtain ⟨hstore, hacc⟩ := State.holdings_inj ((Act.keeps_note rfl).ok hnote)
        obtain rfl := Act.modify_ok.mp hskip
        refine .leftOut hout hstore ?_
        simp only [State.accounts, Accounts.mk.injEq] at hacc ⊢
        obtain ⟨hreport, hcookies, hledger⟩ := hacc
        exact ⟨by rw [hreport], hcookies, hledger⟩
      · have hwanted : settings.leavesOut source = false := by simpa using hout
        simp only [save_of_wanted hwanted] at h
        exact saveIfWanted_turn hsubject hs ho hnul hlater hwanted h

/-! ## One turn after the other -/

/-- A turn leaves a tree. -/
theorem Turn.tree {action : Action} (hs : s.store.Tree)
    (h : Turn settings env output s s' action) : s'.store.Tree := by
  cases h with
  | cookies _ store _ => exact store ▸ hs
  | leftOut _ store _ => exact store ▸ hs
  | present _ _ _ _ store _ => exact store ▸ hs
  | fetched _ _ _ _ _ tree _ _ => exact tree
  | refetched _ _ _ _ _ tree _ _ => exact tree

/-- A turn leaves the output directory in place. -/
theorem Turn.directory {action : Action} (hdir : s.store.get? output = some .directory)
    (h : Turn settings env output s s' action) : s'.store.get? output = some .directory := by
  cases h with
  | cookies _ store _ => rw [store, hdir]
  | leftOut _ store _ => rw [store, hdir]
  | present _ _ _ _ store _ => rw [store, hdir]
  | fetched _ _ _ _ _ _ view _ => rw [view, saved_output _ _ hdir]
  | refetched _ _ _ _ _ _ view _ => rw [view, saved_output _ _ ((emptied_output _).trans hdir)]

/-- Actions take their turns one after the other. -/
inductive Turns (settings : Settings) (env : Environment) (output : Location) :
    State → List Action → State → Prop
  | done {s : State} : Turns settings env output s [] s
  | next {s t s' : State} {action : Action} {rest : List Action}
      (turn : Turn settings env output s t action) (later : Turns settings env output t rest s') :
      Turns settings env output s (action :: rest) s'

theorem Turns.tree {actions : List Action} (h : Turns settings env output s actions s') :
    s.store.Tree → s'.store.Tree := by
  induction h with
  | done => exact id
  | next turn _ ih => exact fun hs => ih (turn.tree hs)

theorem Turns.directory {actions : List Action} (h : Turns settings env output s actions s') :
    s.store.get? output = some .directory → s'.store.get? output = some .directory := by
  induction h with
  | done => exact id
  | next turn _ ih => exact fun hdir => ih (turn.directory hdir)

/-- Rows that are carried out take their turns. -/
theorem rows_turns (hsubject : settings.subject = none) (ho : ".." ∉ output)
    (hnul : (Location.path output).holdsNul = false) :
    ∀ {directives : List Directive} {s : State}, s.store.Tree →
      (∀ directive ∈ directives, directive.IsLater) →
      rows settings (Location.path output) directives env s = .ok () s' →
      Turns settings env output s (directives.map Directive.action) s'
  | [], s, _, _, h => by
      obtain ⟨_, rfl⟩ := Act.pure_ok.mp h
      exact .done
  | directive :: rest, s, hs, hlater, h => by
      obtain ⟨_, t, hrow, hrest⟩ := Act.bind_ok.mp h
      have hturn := row_turn hsubject hs ho hnul (hlater _ (List.mem_cons_self ..)) hrow
      exact .next hturn (rows_turns hsubject ho hnul (hturn.tree hs)
        (fun d hd => hlater d (List.mem_cons_of_mem _ hd)) hrest)

end Run

end Dossier
