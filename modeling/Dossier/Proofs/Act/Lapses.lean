import Dossier.Proofs.Act.Reported
import Dossier.Proofs.Script.Shape
import Dossier.Proofs.Store.Links

/-!
# Lapses of saving

Saving a source to a file leaks few faults, and each of them can be told from what the act
meets: from the answers of the network and the browser and from what the store refuses.  Such
a cause is a *lapse* (`Saving.Lapse`), and what saving leaks are its lapses, no more and no
less (`Run.leaks_fetch`).

A download leaks that the system fails the request or that what is left of it cannot be
removed.  A page leaks that its context does not close; if it does, a page leaks that it has no
host to give cookies to or that its output cannot be written.  A verdict leaks that the path
of a destination is too long to be asked for, and text leaks nothing.
-/

namespace Dossier

open Script (Directive Source)
open Act (FailsWith Leaks Reports Succeeds)

variable {settings : Settings} {given : Provided} {env : Environment} {s t : State}
  {file : Path} {url : String} {cookies : Cookies} {fault : Fault}

/-- Requests and responses fail on the connection or in the system, and in no other way. -/
def Environment.Foreseen (env : Environment) : Prop :=
  ∀ trace, match (env.reply trace).outcome with
    | .error cause => ∀ message, cause ≠ .value message
    | .ok response => ∀ message, response.broken ≠ some (.value message)

/-! ## Paths without the character that none may hold -/

namespace Path

variable {p : Path} {text : String}

theorem holdsNul_parent (h : p.holdsNul = false) : p.parent.holdsNul = false := by
  rw [holdsNul, List.any_eq_false] at h ⊢
  exact fun part hpart => h part (List.dropLast_subset p.parts hpart)

theorem holdsNul_child (hp : p.holdsNul = false) (htext : '\x00' ∉ text.toList) :
    (p.child text).holdsNul = false := by
  have hplain : (ofString text).holdsNul = false := by
    rw [holdsNul, List.any_eq_false]
    intro part hpart
    obtain ⟨cs, hcs, rfl⟩ := List.mem_map.mp (List.mem_filter.mp hpart).1
    rw [String.toList_ofList]
    simpa using fun hnul => htext (Text.mem_of_mem_pieces hcs hnul).1
  rw [child, join]
  split
  · show (p.parts ++ (ofString text).parts).any _ = false
    rw [List.any_append, Bool.or_eq_false_iff]
    exact ⟨hp, hplain⟩
  · exact hplain

end Path

theorem Script.Destination.Safe.nul_not_mem {d : String} (h : Safe d) : '\x00' ∉ d.toList :=
  fun hnul => by simpa [isHostile] using (safe_iff.mp h).1 _ hnul

/-- A URL cannot be fetched. -/
def Fault.IsNetwork (fault : Fault) : Prop := ∃ cause, fault = .network cause

namespace Saving

/-! ## Downloads -/

/-- A download of a response to a file fails and leaves a store. -/
inductive Spoils (env : Environment) (file : Path) (response : Response) (store : Store) :
    Store → Prop
  /-- The file cannot be written. -/
  | refused {e : Errno} (write : store.write env.here file (.plain response.body) = .error e) :
      Spoils env file response store store
  /-- The file is written, but the response is cut short. -/
  | broken {left : Store} {cause : TransportFault}
      (write : store.write env.here file (.plain response.body) = .ok left)
      (cut : response.broken = some cause) : Spoils env file response store left

/-- What a request is answered. -/
def answer (url : String) (cookies : Cookies) (timeout : Timeout) (env : Environment)
    (s : State) : Except TransportFault Response :=
  (env.reply (s.trace ++ [.requested url (cookieHeaders cookies) timeout])).outcome

theorem leaks_request {timeout : Timeout} (henv : env.Foreseen) :
    Leaks (request url cookies timeout) env s fault ↔
      ∃ message, answer url cookies timeout env s = .error (.system message) ∧
        fault = .system (.reported message) := by
  have hforeseen := henv (s.trace ++ [.requested url (cookieHeaders cookies) timeout])
  obtain ⟨clock, hrequest⟩ := request_eq url cookies timeout env s
  rw [answer]
  cases houtcome : (env.reply
      (s.trace ++ [.requested url (cookieHeaders cookies) timeout])).outcome with
  | ok response =>
      rw [houtcome] at hrequest
      have hsucceeds : Succeeds (request url cookies timeout) env s := ⟨response, _, hrequest⟩
      exact iff_of_false hsucceeds.not_leaks nofun
  | error cause =>
      rw [houtcome] at hrequest hforeseen
      cases cause with
      | connection message =>
          rw [Act.leaks_of_error hrequest]
          refine iff_of_false ?_ nofun
          rintro ⟨hfault, rfl⟩
          cases hfault
      | system message => simp [Act.leaks_of_unreported hrequest rfl, unanswered]
      | value message => exact absurd rfl (hforeseen message)

/-- A request that is answered gives the response and leaves the store alone. -/
theorem answer_of_request {timeout : Timeout} {response : Response} {u : State}
    (h : request url cookies timeout env s = .ok response u) :
    answer url cookies timeout env s = .ok response ∧ u.store = s.store := by
  obtain ⟨clock, hrequest⟩ := request_eq url cookies timeout env s
  rw [hrequest] at h
  rw [answer]
  cases houtcome : (env.reply
      (s.trace ++ [.requested url (cookieHeaders cookies) timeout])).outcome with
  | error cause => simp [houtcome] at h
  | ok received =>
      simp only [houtcome, EStateM.Result.ok.injEq] at h
      exact ⟨congrArg _ h.1, by rw [← h.2]⟩

theorem request_of_answer {timeout : Timeout} {response : Response}
    (h : answer url cookies timeout env s = .ok response) :
    ∃ u, request url cookies timeout env s = .ok response u := by
  obtain ⟨clock, hrequest⟩ := request_eq url cookies timeout env s
  rw [answer] at h
  rw [h] at hrequest
  exact ⟨_, hrequest⟩

/-- A response that is foreseen breaks off on the connection or in the system. -/
theorem foreseen_of_answer {timeout : Timeout} {response : Response} (henv : env.Foreseen)
    (h : answer url cookies timeout env s = .ok response) (message : String) :
    response.broken ≠ some (.value message) := by
  have hforeseen := henv (s.trace ++ [.requested url (cookieHeaders cookies) timeout])
  rw [answer] at h
  rw [h] at hforeseen
  exact hforeseen message

/-- A body that is not saved spoils the store, for a reason that is named. -/
theorem writeBody_spoils {response : Response} (hnul : file.holdsNul = false)
    (hforeseen : ∀ message, response.broken ≠ some (.value message))
    (h : writeBody url file response env s = .error fault t) :
    (fault.IsNetwork ∨ fault.IsSystem) ∧ Spoils env file response s.store t.store := by
  rw [writeBody_eq] at h
  rcases Act.bind_error.mp h with hwrite | ⟨_, u, hwrite, hcut⟩
  · rw [Disk.write, Disk.change_eq, hnul] at hwrite
    cases hleft : s.store.write env.here file (.plain response.body) with
    | ok left => simp [hleft] at hwrite
    | error e =>
        simp only [hleft] at hwrite
        cases hwrite
        exact ⟨Or.inr ⟨_, rfl⟩, .refused hleft⟩
  · obtain ⟨_, left, hleft, rfl⟩ := Disk.change_ok.mp hwrite
    cases hbroken : response.broken with
    | none =>
        rw [hbroken] at hcut
        cases hcut
    | some cause =>
        rw [hbroken] at hcut hforeseen
        obtain ⟨rfl, rfl⟩ := Act.throw_error.mp hcut
        refine ⟨?_, .broken hleft hbroken⟩
        cases cause with
        | connection message => exact Or.inl ⟨_, rfl⟩
        | system message => exact Or.inr ⟨_, rfl⟩
        | value message => exact absurd rfl (hforeseen message)

/-- A store that can be spoilt is. -/
theorem Spoils.writeBody {response : Response} {left : Store} (url : String)
    (hnul : file.holdsNul = false) (h : Spoils env file response s.store left) :
    ∃ fault t, writeBody url file response env s = .error fault t ∧ t.store = left := by
  rw [writeBody_eq]
  cases h with
  | @refused e write =>
      refine ⟨Disk.refused e file, s, Act.bind_error.mpr (Or.inl ?_), rfl⟩
      rw [Disk.write, Disk.change_eq, hnul, write]
      rfl
  | @broken _ cause write cut =>
      have hwritten : Disk.write file (.plain response.body) env s =
          .ok () { s with store := left } := Disk.change_ok.mpr ⟨hnul, left, write, rfl⟩
      refine ⟨cutShort url cause, { s with store := left },
        Act.bind_error.mpr (Or.inr ⟨(), _, hwritten, ?_⟩), rfl⟩
      rw [cut]
      exact Act.throw_error.mpr ⟨rfl, rfl⟩

/-- Discarding leaks if what is left cannot be removed. -/
theorem leaks_discard {f : Fault} (hf : f.IsNetwork ∨ f.IsSystem) :
    Leaks (discard file f) env s fault ↔ Leaks (Disk.unlinkIfThere file) env s fault := by
  rcases hf with ⟨cause, rfl⟩ | ⟨cause, rfl⟩
  all_goals exact Act.leaks_bind_of_reports fun _ => .throw rfl

theorem noteStatus_ok (url : String) (response : Response) (env : Environment) (s : State) :
    ∃ notes, noteStatus url response env s = .ok () { s with notes := notes } := by
  unfold noteStatus
  split
  · exact ⟨s.notes, rfl⟩
  · exact ⟨_, rfl⟩

theorem leaks_receive {response : Response} (hnul : file.holdsNul = false)
    (hforeseen : ∀ message, response.broken ≠ some (.value message)) :
    Leaks (receive url file response) env s fault ↔
      ∃ left e, Spoils env file response s.store left ∧ left.unlink env.here file = .error e ∧
        e ≠ .noEntry ∧ fault = Disk.refused e file := by
  obtain ⟨notes, hnoted⟩ := noteStatus_ok url response env s
  rw [receive, Act.leaks_bind_of_ok hnoted, Act.leaks_bind_of_reports fun _ => .pure _,
    Act.leaks_rescue]
  constructor
  · rintro ⟨f, u, hbody, hleaks⟩
    obtain ⟨hf, hspoils⟩ := writeBody_spoils hnul hforeseen hbody
    obtain ⟨e, hunlink, hne, hfault⟩ :=
      (Disk.leaks_unlinkIfThere hnul).mp ((leaks_discard hf).mp hleaks)
    exact ⟨u.store, e, hspoils, hunlink, hne, hfault⟩
  · rintro ⟨left, e, hspoils, hunlink, hne, hfault⟩
    obtain ⟨f, u, hbody, rfl⟩ := hspoils.writeBody (s := { s with notes := notes }) url hnul
    exact ⟨f, u, hbody, (leaks_discard (writeBody_spoils hnul hforeseen hbody).1).mpr
      ((Disk.leaks_unlinkIfThere hnul).mpr ⟨e, hunlink, hne, hfault⟩)⟩

/-- Once the directories above its file are made, a download leaks that the system fails the
request, or what receiving the response leaks. -/
theorem leaks_file_of_parent {timeout : Timeout} (henv : env.Foreseen)
    (hparent : file.parent.holdsNul = false) :
    Leaks (Saving.file url file cookies timeout) env s fault ↔
      ∃ t, Disk.ensureParent file env s = .ok () t ∧
        ((∃ message, answer url cookies timeout env t = .error (.system message) ∧
            fault = .system (.reported message)) ∨
          ∃ response u, request url cookies timeout env t = .ok response u ∧
            Leaks (receive url file response) env u fault) := by
  have hrecord : ∀ u, Succeeds (Act.record (.responseClosed url)) env u := fun u => ⟨_, _, rfl⟩
  have hreports : Reports (Act.record (.responseClosed url)) := .modify _
  rw [Saving.file, (Disk.ensureParent_reports hparent).leaks_then]
  refine exists_congr fun t => and_congr_right fun _ => ?_
  rw [Act.leaks_bind, leaks_request henv]
  simp only [Act.leaks_andAlways, hrecord, hreports.not_leaks, false_or, and_true]

/-- A download leaks that the system fails the request or that what is left of it cannot be
removed. -/
theorem leaks_file {timeout : Timeout} (henv : env.Foreseen) (hnul : file.holdsNul = false) :
    Leaks (Saving.file url file cookies timeout) env s fault ↔
      ∃ t, Disk.ensureParent file env s = .ok () t ∧
        ((∃ message, answer url cookies timeout env t = .error (.system message) ∧
            fault = .system (.reported message)) ∨
          ∃ response left e, answer url cookies timeout env t = .ok response ∧
            Spoils env file response t.store left ∧ left.unlink env.here file = .error e ∧
              e ≠ .noEntry ∧ fault = Disk.refused e file) := by
  rw [leaks_file_of_parent henv (Path.holdsNul_parent hnul)]
  refine exists_congr fun t => and_congr_right fun _ => or_congr_right ?_
  constructor
  · rintro ⟨response, u, hrequest, hleaks⟩
    obtain ⟨hanswer, hstore⟩ := answer_of_request hrequest
    obtain ⟨left, e, hspoilt⟩ := (leaks_receive hnul (foreseen_of_answer henv hanswer)).mp hleaks
    exact ⟨response, left, e, hanswer, hstore ▸ hspoilt⟩
  · rintro ⟨response, left, e, hanswer, hspoilt⟩
    obtain ⟨u, hrequest⟩ := request_of_answer hanswer
    refine ⟨response, u, hrequest, (leaks_receive hnul (foreseen_of_answer henv hanswer)).mpr
      ⟨left, e, ?_⟩⟩
    rwa [(answer_of_request hrequest).2]

/-! ## Pages -/

/-- What leads to a context that is open for a page. -/
def enter (settings : Settings) (url : String) (file : Path) : Act Unit := do
  Browser.ensureOpen settings
  Disk.ensureParent file
  (Browser.call .contextOpened).mapFault (Browser.asRendering (.page url))

/-- What leads to the output of a page in a context that is open. -/
def present (settings : Settings) (url : String) (file : Path) (cookies : Cookies) :
    Act Reaction := do
  giveCookies url cookies
  Browser.call .pageOpened
  Browser.call (.visited url settings.navigationTimeout)
  Act.browse (.printed file settings.pageFormat)

/-- The failure to close a context in which a page was visited, if it fails. -/
def jam? (settings : Settings) (url : String) (file : Path) (cookies : Cookies)
    (env : Environment) (s : State) : Option String :=
  (env.react (((visit settings url file cookies).final env s).trace ++ [.contextClosed])).failure

theorem page_eq (settings : Settings) (url : String) (file : Path) (cookies : Cookies) :
    Saving.page settings url file cookies = (do
      enter settings url file
      ((visit settings url file cookies).mapFault (Browser.asRendering (.page url))).andAlways
        (Browser.call .contextClosed)
      Disk.during (.readBack file) (Disk.size file)) := by
  simp only [Saving.page, print, enter, bind_assoc]

theorem visit_eq (settings : Settings) (url : String) (file : Path) (cookies : Cookies) :
    visit settings url file cookies = (do
      let reaction ← present settings url file cookies
      keepOutput file reaction
      Act.settle reaction) := by
  simp only [visit, printFrom, present, bind_assoc]

theorem enter_reports (settings : Settings) (url : String)
    (hparent : file.parent.holdsNul = false) : Reports (enter settings url file) :=
  (Browser.ensureOpen_reports settings).bind fun _ =>
    (Disk.ensureParent_reports hparent).bind fun _ =>
      Browser.naming_reports (Browser.call_browser _)

/-- Besides faults of the browser, giving cookies to a page leaks that it has no host. -/
theorem leaks_giveCookies (hfault : ¬ fault.IsBrowser) :
    Leaks (giveCookies url cookies) env s fault ↔
      cookies.isEmpty = false ∧ ∃ cause, Host.ofUrl url = .error cause ∧ fault = .host cause := by
  rw [giveCookies]
  cases hempty : cookies.isEmpty with
  | true =>
      simp only [if_true, reduceCtorEq, false_and, iff_false]
      exact Act.leaks_pure
  | false =>
      simp only [Bool.false_eq_true, if_false, true_and]
      rw [Act.leaks_bind, or_iff_left fun ⟨_, _, _, hcall⟩ =>
        hfault ((Browser.call_browser _).of_leaks hcall), Act.leaks_ofExcept,
        Cookies.browserCookies]
      cases Host.ofUrl url with
      | ok host => simp [Except.map]
      | error cause =>
          simp only [Except.map, Except.error.injEq]
          constructor
          · rintro ⟨_, e, rfl, rfl⟩
            exact ⟨cause, rfl, rfl⟩
          · rintro ⟨_, rfl, rfl⟩
            exact ⟨rfl, cause, rfl, rfl⟩

/-- What can leak from a visit, besides faults of the browser: cookies are to be given to a
page without a host, or what keeping its output leaks. -/
theorem leaks_visit_keeping (hfault : ¬ fault.IsBrowser) :
    Leaks (visit settings url file cookies) env s fault ↔
      (cookies.isEmpty = false ∧ ∃ cause, Host.ofUrl url = .error cause ∧ fault = .host cause) ∨
        ∃ reaction t, present settings url file cookies env s = .ok reaction t ∧
          Leaks (keepOutput file reaction) env t fault := by
  have hpresent : Leaks (present settings url file cookies) env s fault ↔
      Leaks (giveCookies url cookies) env s fault := by
    have hrest : FailsWith Fault.IsBrowser (do
        Browser.call .pageOpened
        Browser.call (.visited url settings.navigationTimeout)
        Act.browse (.printed file settings.pageFormat)) :=
      (Browser.call_browser _).bind fun _ => (Browser.call_browser _).bind fun _ =>
        Act.browse_never _
    rw [present, Act.leaks_bind]
    exact or_iff_left fun ⟨_, _, _, hleaks⟩ => hfault (hrest.of_leaks hleaks)
  rw [visit_eq, Act.leaks_bind, hpresent, leaks_giveCookies hfault]
  refine or_congr_right (exists_congr fun reaction => exists_congr fun t =>
    and_congr_right fun _ => ?_)
  rw [Act.leaks_bind]
  exact or_iff_left fun ⟨_, _, _, hsettle⟩ =>
    hfault ((Browser.settle_browser reaction).of_leaks hsettle)

/-- What can leak from a visit, besides faults of the browser: cookies are to be given to a
page without a host, or its output cannot be written. -/
theorem leaks_visit (hnul : file.holdsNul = false) (hfault : ¬ fault.IsBrowser) :
    Leaks (visit settings url file cookies) env s fault ↔
      (cookies.isEmpty = false ∧ ∃ cause, Host.ofUrl url = .error cause ∧ fault = .host cause) ∨
        ∃ reaction t data e, present settings url file cookies env s = .ok reaction t ∧
          reaction.output = some data ∧ t.store.write env.here file (.plain data) = .error e ∧
            fault = Disk.refused e file := by
  rw [leaks_visit_keeping hfault]
  refine or_congr_right (exists_congr fun reaction => exists_congr fun t => ?_)
  rw [keepOutput]
  cases houtput : reaction.output with
  | none => simp [Act.leaks_pure]
  | some data =>
      simp only [Option.some.injEq, exists_eq_left', Disk.write, Disk.leaks_change hnul,
        exists_and_left]

/-- A visit that is followed by closing its context leaks that the context does not close, and
what the visit leaks if it does. -/
theorem leaks_visit_closing :
    Leaks (((visit settings url file cookies).mapFault (Browser.asRendering (.page url))).andAlways
        (Browser.call .contextClosed)) env s fault ↔
      (∃ message, jam? settings url file cookies env s = some message ∧
          fault = .browser message) ∨
        jam? settings url file cookies env s = none ∧ ¬ fault.IsBrowser ∧
          Leaks (visit settings url file cookies) env s fault := by
  rw [Act.leaks_andAlways, Act.final_mapFault, Browser.leaks_call, Browser.succeeds_call,
    Browser.leaks_naming]
  refine or_congr_right ?_
  rw [and_comm, and_comm (a := Leaks _ _ _ _)]
  rfl

/-- A page leaks that its context does not close, and what a visit to it leaks if it does. -/
theorem leaks_page (hnul : file.holdsNul = false) :
    Leaks (Saving.page settings url file cookies) env s fault ↔
      ∃ t, enter settings url file env s = .ok () t ∧
        ((∃ message, jam? settings url file cookies env t = some message ∧
            fault = .browser message) ∨
          jam? settings url file cookies env t = none ∧ ¬ fault.IsBrowser ∧
            Leaks (visit settings url file cookies) env t fault) := by
  rw [page_eq, (enter_reports settings url (Path.holdsNul_parent hnul)).leaks_then]
  refine exists_congr fun t => and_congr_right fun _ => ?_
  rw [Act.leaks_bind_of_reports fun _ => Disk.during_reports (Disk.size_system hnul),
    leaks_visit_closing]

/-! ## Sources -/

/-- What saving a source to a file meets and does not account for, with the fault that comes
of it. -/
inductive Lapse (settings : Settings) (env : Environment) (file : Path) (s : State) :
    Source → Fault → Prop
  /-- The system fails a request. -/
  | request {url : String} {t : State} {message : String}
      (parent : Disk.ensureParent file env s = .ok () t)
      (answered : answer url s.cookies settings.requestTimeout env t = .error (.system message)) :
      Lapse settings env file s (.file url) (.system (.reported message))
  /-- What is left of a download cannot be removed. -/
  | leftover {url : String} {t : State} {response : Response} {left : Store} {e : Errno}
      (parent : Disk.ensureParent file env s = .ok () t)
      (answered : answer url s.cookies settings.requestTimeout env t = .ok response)
      (spoils : Spoils env file response t.store left)
      (unlink : left.unlink env.here file = .error e) (there : e ≠ .noEntry) :
      Lapse settings env file s (.file url) (Disk.refused e file)
  /-- A page that is to be given cookies has no host. -/
  | host {url : String} {t : State} {cause : Host.Fault}
      (enters : enter settings url file env s = .ok () t) (cookies : s.cookies.isEmpty = false)
      (host : Host.ofUrl url = .error cause)
      (closes : jam? settings url file s.cookies env t = none) :
      Lapse settings env file s (.page url) (.host cause)
  /-- The output of a page cannot be written. -/
  | output {url : String} {t u : State} {reaction : Reaction} {data : Bytes} {e : Errno}
      (enters : enter settings url file env s = .ok () t)
      (presents : present settings url file s.cookies env t = .ok reaction u)
      (output : reaction.output = some data)
      (write : u.store.write env.here file (.plain data) = .error e)
      (closes : jam? settings url file s.cookies env t = none) :
      Lapse settings env file s (.page url) (Disk.refused e file)
  /-- The context of a page does not close. -/
  | context {url : String} {t : State} {message : String}
      (enters : enter settings url file env s = .ok () t)
      (jams : jam? settings url file s.cookies env t = some message) :
      Lapse settings env file s (.page url) (.browser message)

end Saving

/-! ## Verdicts -/

namespace Verdict

variable {output : Path} {d : String}

end Verdict

/-! ## Packing -/

namespace Packing

/-- The archive of a directory with a plain path has one. -/
theorem holdsNul_archivePath {p : Path} (h : p.holdsNul = false) :
    (archivePath p).holdsNul = false := by
  refine Path.holdsNul_child (Path.holdsNul_parent h) ?_
  rw [String.toList_append, List.mem_append, not_or]
  refine ⟨?_, by decide⟩
  rw [Path.name]
  cases hlast : p.parts.getLast? with
  | none => simp
  | some part =>
      rw [Path.holdsNul, List.any_eq_false] at h
      simpa using h part (List.mem_of_getLast? hlast)

end Packing

end Dossier
