import Dossier.Proofs.Act.Dealings
import Dossier.Proofs.Cookies
import Dossier.Proofs.Run.Turn

/-!
# The errands of rows

What a row calls on the network or on the browser is its *errand*.  A file is one
request, with a header for the cookies if there are any.  A page is printed in a
context of its own, which is given the cookies before it visits the page: one for each
pair, on the host of the page.  All other rows make no calls (`row_errand`).

The cookies of an errand are those in force when the row starts.
-/

namespace Dossier

open Script (Directive Source Action)
open Act (Calls Keeps Follows Chained)

/-! ## Errands -/

/-- The headers that a request has for cookies. -/
inductive Sends : Cookies → List (String × String) → Prop
  | bare {cookies : Cookies} (none : cookies.pairs = []) : Sends cookies []
  | header {cookies : Cookies} (some : cookies.pairs ≠ []) :
      Sends cookies [("Cookie", cookies.header)]

/-- The calls that give cookies to a context for a page. -/
inductive Gives (url : String) : Cookies → Trace → Prop
  | nothing {cookies : Cookies} (none : cookies.pairs = []) : Gives url cookies []
  | cookies {cookies : Cookies} {host : String} (some : cookies.pairs ≠ [])
      (accepted : Host.ofUrl url = .ok host) :
      Gives url cookies [.cookiesAdded (cookies.pairs.map fun pair => ⟨pair.1, pair.2, host, "/"⟩)]

/-- The calls that print a page, after those in a trace. -/
inductive Prints (settings : Settings) (env : Environment) (before : Trace) (url : String)
    (cookies : Cookies) : Trace → Prop
  /-- The context does not open. -/
  | unopened {message : String}
      (fails : (env.react (before ++ [.contextOpened])).failure = some message) :
      Prints settings env before url cookies [.contextOpened]
  /-- There are cookies, but the page has no host to give them to. -/
  | hostless {fault : Host.Fault}
      (opens : (env.react (before ++ [.contextOpened])).failure = none)
      (some : cookies.pairs ≠ []) (refused : Host.ofUrl url = .error fault) :
      Prints settings env before url cookies [.contextOpened, .contextClosed]
  /-- The context is given the cookies and the page is printed, as far as that goes. -/
  | visited {given stage : Trace} {file : Path}
      (opens : (env.react (before ++ [.contextOpened])).failure = none)
      (gives : Gives url cookies given)
      (stages : stage <+: [.pageOpened, .visited url settings.navigationTimeout,
        .printed file settings.pageFormat]) :
      Prints settings env before url cookies
        (.contextOpened :: (given ++ stage) ++ [.contextClosed])

/-- The calls that are made for an action, after those in a trace. -/
inductive Errand (settings : Settings) (env : Environment) (before : Trace) (cookies : Cookies) :
    Action → Trace → Prop
  | idle {action : Action} : Errand settings env before cookies action []
  | request {url d : String} {headers : List (String × String)} {made : Trace}
      (sends : Sends cookies headers)
      (first : made <+: [.requested url headers settings.requestTimeout, .responseClosed url]) :
      Errand settings env before cookies (.save (.file url) d) made
  | launch {url d : String} {launch : Trace} (upkeep : ∀ e ∈ launch, e.isUpkeep = true) :
      Errand settings env before cookies (.save (.page url) d) launch
  | page {url d : String} {launch printed : Trace} (upkeep : ∀ e ∈ launch, e.isUpkeep = true)
      (prints : Prints settings env (before ++ launch) url cookies printed) :
      Errand settings env before cookies (.save (.page url) d) (launch ++ printed)

variable {α β : Type} {env : Environment} {s s' : State} {settings : Settings}

/-! ## What acts add to the trace -/

namespace Act

/-- What an act adds to the trace, however it ends. -/
def Adds (env : Environment) (s : State) (what : Trace → Prop) (act : Act α) : Prop :=
  ∃ added, (act.final env s).trace = s.trace ++ added ∧ what added

namespace Adds

variable {what : Trace → Prop}

theorem of_keeps {act : Act α} (h : Keeps State.dealings act) (hwhat : what []) :
    Adds env s what act :=
  ⟨[], by rw [List.append_nil, State.trace_of_dealings (h env s)], hwhat⟩

/-- What comes first asks for the state. -/
theorem get_bind {next : State → Act β} (h : Adds env s what (next s)) :
    Adds env s what (get >>= next) := by
  obtain ⟨added, htrace, hadded⟩ := h
  exact ⟨added, by rw [final_bind (get_ok.mpr ⟨rfl, rfl⟩), htrace], hadded⟩

/-- What comes first keeps the dealings. -/
theorem keeps_bind {act : Act α} {next : α → Act β} (h : Keeps State.dealings act)
    (hwhat : what []) (hnext : ∀ a t, t.dealings = s.dealings → Adds env t what (next a)) :
    Adds env s what (act >>= next) := by
  cases hact : act env s with
  | ok a t =>
      have ht : t.dealings = s.dealings := (h env).ok hact
      obtain ⟨added, htrace, hadded⟩ := hnext a t ht
      exact ⟨added, by rw [final_bind hact, htrace, State.trace_of_dealings ht], hadded⟩
  | error f t =>
      have ht : t.dealings = s.dealings := (h env).error hact
      refine ⟨[], ?_, hwhat⟩
      rw [final_bind_of_error hact, List.append_nil, State.trace_of_dealings ht]

/-- What comes next keeps the dealings. -/
theorem bind_keeps {act : Act α} {next : α → Act β} (h : Adds env s what act)
    (hnext : ∀ a, Keeps State.dealings (next a)) : Adds env s what (act >>= next) := by
  obtain ⟨added, htrace, hadded⟩ := h
  exact ⟨added, (State.trace_of_dealings (Keeps.final_bind hnext)).trans htrace, hadded⟩

theorem mono {act : Act α} {what' : Trace → Prop} (h : Adds env s what act)
    (hwhat : ∀ added, what added → what' added) : Adds env s what' act := by
  obtain ⟨added, htrace, hadded⟩ := h
  exact ⟨added, htrace, hwhat added hadded⟩

end Adds

end Act

open Act (Adds)

/-! ## Files -/

namespace Saving

theorem sends_cookieHeaders (cookies : Cookies) : Sends cookies (cookieHeaders cookies) := by
  rw [cookieHeaders]
  split
  · rename_i hempty
    exact .bare (Cookies.isEmpty_iff.mp hempty)
  · rename_i hsome
    exact .header fun hnil => hsome (Cookies.isEmpty_iff.mpr hnil)

/-- A file is saved by one request, and the response is closed. -/
theorem calls_file (url : String) (file : Path) (cookies : Cookies) (timeout : Timeout) :
    Calls env [.requested url (cookieHeaders cookies) timeout, .responseClosed url]
      (Saving.file url file cookies timeout) := by
  have hrequest : Calls env [.requested url (cookieHeaders cookies) timeout]
      (request url cookies timeout) := (Act.calls_request _).bind fun _ => .ofExcept _ _
  exact (Calls.of_keeps (Disk.deals_ensureParent file)).bind fun _ => hrequest.bind fun response =>
    (Calls.of_keeps (deals_receive url file response)).andAlways_record _

/-! ## Pages -/

section Pages

variable {url : String} {cookies : Cookies} {given : Trace} {file : Path}

/-- A context is given the cookies whether that succeeds or not. -/
theorem trace_giveCookies (h : Gives url cookies given) :
    ((giveCookies url cookies).final env s).trace = s.trace ++ given := by
  cases h with
  | nothing none =>
      rw [giveCookies, if_pos (Cookies.isEmpty_iff.mpr none), List.append_nil]
      rfl
  | @cookies host some accepted =>
      have hgiven : cookies.browserCookies url =
          .ok (cookies.pairs.map fun pair => ⟨pair.1, pair.2, host, "/"⟩) := by
        rw [Cookies.browserCookies, accepted]
        rfl
      rw [giveCookies, if_neg fun hempty => some (Cookies.isEmpty_iff.mp hempty), hgiven]
      exact Browser.trace_call _ env s

/-- A page is visited and printed after the context is given the cookies. -/
theorem adds_visit (h : Gives url cookies given) :
    Adds env s (fun added => ∃ stage, added = given ++ stage ∧
      stage <+: [.pageOpened, .visited url settings.navigationTimeout,
        .printed file settings.pageFormat]) (visit settings url file cookies) := by
  have hprint : Calls env [.visited url settings.navigationTimeout,
      .printed file settings.pageFormat] (printFrom settings url file) :=
    (Browser.calls_call _).bind fun _ => (Act.calls_browse _).bind fun reaction =>
      (Calls.of_keeps (deals_keepOutput file reaction)).bind fun _ => Act.calls_settle reaction
  have hstages := (@Browser.calls_call env .pageOpened).bind fun _ => hprint
  have hgiven := @trace_giveCookies env s _ _ _ h
  cases hact : giveCookies url cookies env s with
  | ok u t =>
      rw [Act.final_of_ok hact] at hgiven
      obtain ⟨stage, hstage, htrace⟩ := hstages.final t
      exact ⟨given ++ stage, by rw [visit, Act.final_bind hact, htrace, hgiven, List.append_assoc],
        stage, rfl, hstage⟩
  | error f t =>
      rw [Act.final_of_error hact] at hgiven
      exact ⟨given, by rw [visit, Act.final_bind_of_error hact, hgiven], [],
        (List.append_nil given).symm, List.nil_prefix⟩

/-- Without a host nothing is visited. -/
theorem trace_visit_hostless (hsome : cookies.pairs ≠ []) {fault : Host.Fault}
    (hrefused : Host.ofUrl url = .error fault) :
    ((visit settings url file cookies).final env s).trace = s.trace := by
  have hgiven : giveCookies url cookies env s = .error (.host fault) s := by
    have hthrow : cookies.browserCookies url = .error fault := by
      rw [Cookies.browserCookies, hrefused]
      rfl
    simp only [giveCookies, hthrow, if_neg fun hempty => hsome (Cookies.isEmpty_iff.mp hempty)]
    rfl
  rw [visit, Act.final_bind_of_error hgiven]

/-- A page is printed in a context of its own, which is closed however that ends. -/
theorem adds_print (settings : Settings) (url : String) (file : Path) (cookies : Cookies) :
    Adds env s (Prints settings env s.trace url cookies) (print settings url file cookies) := by
  have hopened := Browser.call_eq .contextOpened env s
  cases hfails : (env.react (s.trace ++ [.contextOpened])).failure with
  | some message =>
      rw [hfails] at hopened
      refine ⟨[.contextOpened], ?_, .unopened hfails⟩
      rw [print, Act.final_bind_of_error (Act.mapFault_error.mpr ⟨_, hopened, rfl⟩)]
  | none =>
      rw [hfails] at hopened
      have hvisit : ∀ t, Adds env t (fun added => Prints settings env s.trace url cookies
          (.contextOpened :: added ++ [.contextClosed])) (visit settings url file cookies) := by
        intro t
        have hgives : ∀ given, Gives url cookies given → Adds env t (fun added =>
            Prints settings env s.trace url cookies (.contextOpened :: added ++ [.contextClosed]))
              (visit settings url file cookies) := by
          intro given hgives
          refine (adds_visit hgives).mono ?_
          rintro _ ⟨stage, rfl, hstage⟩
          exact .visited hfails hgives hstage
        by_cases hpairs : cookies.pairs = []
        · exact hgives [] (.nothing hpairs)
        · cases hhost : Host.ofUrl url with
          | ok host => exact hgives _ (.cookies hpairs hhost)
          | error fault =>
              exact ⟨[], by rw [trace_visit_hostless hpairs hhost, List.append_nil],
                .hostless hfails hpairs hhost⟩
      obtain ⟨added, htrace, hprints⟩ := hvisit
        { s with trace := s.trace ++ [.contextOpened],
                 clock := s.clock + (env.react (s.trace ++ [.contextOpened])).takes }
      refine ⟨_, ?_, hprints⟩
      rw [print, Act.final_bind (Act.mapFault_ok.mpr hopened), Act.final_andAlways,
        Act.final_mapFault, Browser.trace_call, htrace]
      simp

/-- A page is printed once the browser is open. -/
theorem adds_page (settings : Settings) (url d : String) (file : Path) (cookies : Cookies) :
    Adds env s (Errand settings env s.trace cookies (.save (.page url) d))
      (Saving.page settings url file cookies) := by
  have hopen := @Browser.tends_ensureOpen env settings s
  cases hact : Browser.ensureOpen settings env s with
  | error f t =>
      obtain ⟨launch, htrace, hlaunch⟩ := hopen
      refine ⟨launch, ?_, .launch hlaunch⟩
      rw [Saving.page, Act.final_bind_of_error hact, ← Act.final_of_error hact, htrace]
  | ok u t =>
      rw [Act.final_of_ok hact] at hopen
      obtain ⟨launch, htrace, hlaunch⟩ := hopen
      have hrest : Adds env t (fun added =>
          Errand settings env s.trace cookies (.save (.page url) d) (launch ++ added)) (do
            Disk.ensureParent file
            print settings url file cookies
            Disk.during (.readBack file) (Disk.size file)) := by
        refine .keeps_bind (Disk.deals_ensureParent file) ?_ fun _ u hu => ?_
        · rw [List.append_nil]
          exact .launch hlaunch
        · refine .bind_keeps ((adds_print settings url file cookies).mono fun added hprints => ?_)
            fun _ env => ((Chained.part _).follows_size file).mapFault _
          rw [State.trace_of_dealings hu, htrace] at hprints
          exact .page hlaunch hprints
      obtain ⟨added, htrace', hadded⟩ := hrest
      refine ⟨launch ++ added, ?_, hadded⟩
      rw [Saving.page, Act.final_bind hact, htrace', htrace, List.append_assoc]

end Pages

end Saving

/-! ## Rows -/

namespace Run

theorem deals_skip (category d : String) : Keeps State.dealings (skip category d) := fun _ =>
  .modify fun _ => rfl

theorem deals_announce (verdict : Verdict) (d : String) :
    Keeps State.dealings (announce verdict d) := fun _ =>
  .ite (.modify fun _ => rfl) (.pure (.part _) _)

/-- Fetching makes the calls for its source, with the cookies in force. -/
theorem adds_fetch (source : Source) (d : String) (file : Path) :
    Adds env s (Errand settings env s.trace s.cookies (.save source d))
      (fetch settings source file) := by
  refine .get_bind ?_
  cases source with
  | file url =>
      obtain ⟨made, hmade, htrace⟩ :=
        (Saving.calls_file url file s.cookies settings.requestTimeout).final s
      exact ⟨made, htrace, .request (Saving.sends_cookieHeaders s.cookies) hmade⟩
  | page url => exact Saving.adds_page settings url d file s.cookies
  | text content => exact .of_keeps (Saving.deals_text content file) .idle

theorem adds_acquire (file : Path) (source : Source) (d : String) :
    Adds env s (Errand settings env s.trace s.cookies (.save source d))
      (acquire settings file source d) :=
  .bind_keeps (adds_fetch source d file) fun _ _ =>
    .bind (.part _) (.modify fun _ => rfl) fun _ => .modify fun _ => rfl

theorem adds_saveIfWanted (output : Path) (source : Source) (d : String) :
    Adds env s (Errand settings env s.trace s.cookies (.save source d))
      (saveIfWanted settings output source d) := by
  refine .keeps_bind (Verdict.deals_reach settings output d) .idle fun decision t ht => ?_
  split
  · refine .keeps_bind (deals_announce decision.verdict d) .idle fun _ u hu => ?_
    rw [← State.trace_of_dealings ht, ← State.trace_of_dealings hu,
      ← State.cookies_of_dealings ht, ← State.cookies_of_dealings hu]
    exact adds_acquire decision.file source d
  · exact .of_keeps (deals_skip _ _) .idle

theorem adds_save (output : Path) (source : Source) (d : String) :
    Adds env s (Errand settings env s.trace s.cookies (.save source d))
      (save settings output source d) := by
  cases hout : settings.leavesOut source with
  | true =>
      rw [save_of_leftOut hout]
      exact .of_keeps (fun _ => .bind (.part _) (.modify fun _ => rfl) fun _ =>
        .modify fun _ => rfl) .idle
  | false =>
      rw [save_of_wanted hout]
      exact adds_saveIfWanted output source d

/-- A row runs the errand of its action, with the cookies in force. -/
theorem row_errand (output : Path) (directive : Directive) :
    Adds env s (Errand settings env s.trace s.cookies directive.action)
      (row settings output directive) := by
  rw [row]
  cases haction : directive.action with
  | archiveName name => exact .of_keeps (fun _ => .throw (.part _) _) .idle
  | cookies blob =>
      have hkeep : Follows env (fun s s' => s'.trace = s.trace) (setCookies directive.line blob) :=
        .bind (.part _) (.ofExcept (.part _) _ _) fun _ =>
          .bind (.part _) (.modify fun _ => rfl) fun _ => .modify fun _ => rfl
      exact ⟨[], (hkeep s).trans (List.append_nil _).symm, .idle⟩
  | save source d => exact adds_save output source d

end Run

end Dossier
