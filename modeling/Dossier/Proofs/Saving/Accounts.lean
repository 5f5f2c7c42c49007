import Dossier.Proofs.Act.Faults
import Dossier.Proofs.Saving
import Dossier.Proofs.Saving.Download
import Dossier.Proofs.Saving.Leftover

/-!
# Which savings are accounted for

A download is to fail on the network or with the store, and a page in the browser or with the
store.  Each does so unless it meets a lapse, and then the fault of the lapse is the one that is
seen (`file_accounted`, `page_accounted`).

The lapses of a download are told by what is asked of the system outside of the parts that name
their task: the request itself, and the removal of what is left, which is refused for a directory
and for a path that is too long (`Store.Ends.unlink_error_iff`).  Those of a page are that its
context does not close, that cookies are given to a page without a host and that its output
cannot be written.  Both also fail without a name for it if the path of their file holds the
character that no path may hold.
-/

namespace Dossier

open Act (FailsWith Leaks Reports Succeeds)

/-- Something cannot be done with the store. -/
def Fault.IsStorage (fault : Fault) : Prop := ∃ task cause, fault = .storage task cause

/-- A page cannot be printed. -/
def Fault.IsRender (fault : Fault) : Prop := ∃ cause, fault = .render cause

namespace Act

variable {α : Type} {env : Environment} {s : State}

/-- An act ends well, or it fails with a fault of a kind. -/
def EndsAs (kind : Fault → Prop) (act : Act α) (env : Environment) (s : State) : Prop :=
  Succeeds act env s ∨ ∃ fault s', act env s = .error fault s' ∧ kind fault

/-- An act that reports the faults of a kind, and no others, ends with one of them or leaks. -/
theorem endsAs_iff {kind : Fault → Prop} {act : Act α}
    (hact : FailsWith (fun fault => fault.isReported = true ↔ kind fault) act) :
    act.EndsAs kind env s ↔ ∀ fault, ¬ Leaks act env s fault := by
  cases hends : act env s with
  | ok a t =>
      have hsucceeds : Succeeds act env s := ⟨a, t, hends⟩
      exact iff_of_true (Or.inl hsucceeds) fun _ => hsucceeds.not_leaks
  | error f t =>
      have hkind : f.isReported = true ↔ kind f := hact env s f t hends
      simp only [EndsAs, Succeeds, hends, Leaks, EStateM.Result.error.injEq, reduceCtorEq,
        exists_false, false_or]
      grind

end Act

namespace Saving

variable {settings : Settings} {url : String} {file : Path} {cookies : Cookies}
  {timeout : Timeout} {env : Environment} {s t : State} {fault : Fault} {response : Response}

/-! ## Downloads -/

/-- What a download meets and does not account for, with the fault that comes of it. -/
inductive FileLapse (url : String) (file : Path) (cookies : Cookies) (timeout : Timeout)
    (env : Environment) (s : State) : Fault → Prop
  /-- The directory of the file has a path that holds the character that none may hold. -/
  | parent (nul : file.parent.holdsNul = true) : FileLapse url file cookies timeout env s .nul
  /-- The system fails the request. -/
  | request {t : State} {message : String} (made : Disk.ensureParent file env s = .ok () t)
      (answered : answer url cookies timeout env t = .error (.system message)) :
      FileLapse url file cookies timeout env s (.system (.reported message))
  /-- There is a response, but the name of the file holds the character that none may hold. -/
  | name {t : State} {response : Response} (made : Disk.ensureParent file env s = .ok () t)
      (answered : answer url cookies timeout env t = .ok response)
      (nul : file.holdsNul = true) : FileLapse url file cookies timeout env s .nul
  /-- There is a response, but a directory is where the file is to be. -/
  | directory {t : State} {response : Response} {l : Location}
      (made : Disk.ensureParent file env s = .ok () t)
      (answered : answer url cookies timeout env t = .ok response)
      (plain : file.holdsNul = false)
      (there : t.store.find env.here file false = .ok (.taken l .directory)) :
      FileLapse url file cookies timeout env s (Disk.refused .isDirectory file)
  /-- There is a response, but the path of the file is too long. -/
  | long {t : State} {response : Response} (made : Disk.ensureParent file env s = .ok () t)
      (answered : answer url cookies timeout env t = .ok response)
      (plain : file.holdsNul = false)
      (refused : t.store.find env.here file false = .error .nameTooLong) :
      FileLapse url file cookies timeout env s (Disk.refused .nameTooLong file)

theorem plain_of_ensureParent (h : Disk.ensureParent file env s = .ok () t) :
    file.parent.holdsNul = false :=
  (Disk.ensureDirectories_ok.mp (Disk.during_ok.mp h)).1

/-- A file in a directory that was made has a path that ends somehow. -/
theorem ends_of_ensureParent (hs : s.store.WellFormed)
    (h : Disk.ensureParent file env s = .ok () t) :
    t.store.WellFormed ∧ t.store.Ends env.here file := by
  obtain ⟨_, made, hmade, rfl⟩ := Disk.ensureDirectories_ok.mp (Disk.during_ok.mp h)
  have hwell := Store.ensureDirectories_wellFormed hs env.here file.parent
  obtain ⟨l, hfind⟩ := Store.ensureDirectories_leads (congrArg Prod.snd hmade)
  rw [hmade] at hwell hfind
  exact ⟨hwell, Store.ends_of_parent hwell hfind⟩

/-- What is left of a download that was spoilt can be removed if it was written. -/
theorem Spoils.unremoved_iff (response : Response) (hwell : t.store.WellFormed)
    (hends : t.store.Ends env.here file) :
    (∃ left e, Spoils env file response t.store left ∧ left.unlink env.here file = .error e ∧
        e ≠ .noEntry ∧ fault = Disk.refused e file) ↔
      ∃ e, t.store.unlink env.here file = .error e ∧ e ≠ .noEntry ∧
        fault = Disk.refused e file := by
  constructor
  · rintro ⟨left, e, hspoils, hunlink, hthere⟩
    cases hspoils with
    | refused write => exact ⟨e, hunlink, hthere⟩
    | broken write cut =>
        obtain ⟨u, hremoved⟩ := Store.unlink_of_write hwell hends write
        cases hremoved.symm.trans hunlink
  · rintro ⟨e, hunlink, hthere, rfl⟩
    exact ⟨t.store, e, .refused (hends.write_of_unlink_error hunlink hthere _), hunlink, hthere,
      rfl⟩

/-- A response is not received by a file with the character that none may hold in its path. -/
theorem leaks_receive_of_nul (hnul : file.holdsNul = true) :
    Leaks (receive url file response) env s fault ↔ fault = .nul := by
  obtain ⟨notes, hnoted⟩ := noteStatus_ok url response env s
  have hbody : writeBody url file response env { s with notes := notes } =
      .error .nul { s with notes := notes } := by
    refine Act.bind_error.mpr (Or.inl ?_)
    rw [Disk.write, Disk.change_eq, hnul]
    rfl
  have hreceived : receive url file response env s = .error .nul { s with notes := notes } :=
    Act.bind_error.mpr (Or.inr ⟨(), _, hnoted, Act.bind_error.mpr (Or.inl
      (Act.rescue_error.mpr ⟨_, _, hbody, rfl⟩))⟩)
  exact Act.leaks_of_unreported hreceived rfl

/-- Along a path that a file may have, a download leaks that the system fails the request, or that
what is where the file is to be could not be removed. -/
theorem leaks_file_of_plain (henv : env.Foreseen) (hs : s.store.WellFormed)
    (hnul : file.holdsNul = false) :
    Leaks (Saving.file url file cookies timeout) env s fault ↔
      ∃ t, Disk.ensureParent file env s = .ok () t ∧
        ((∃ message, answer url cookies timeout env t = .error (.system message) ∧
            fault = .system (.reported message)) ∨
          ∃ response, answer url cookies timeout env t = .ok response ∧
            ∃ e, (e = .isDirectory ∧ (∃ l, t.store.find env.here file false =
                .ok (.taken l .directory)) ∨
              e = .nameTooLong ∧ t.store.find env.here file false = .error .nameTooLong) ∧
            fault = Disk.refused e file) := by
  rw [leaks_file henv hnul]
  refine exists_congr fun t => and_congr_right fun made => or_congr_right
    (exists_congr fun response => ?_)
  obtain ⟨hwell, hends⟩ := ends_of_ensureParent hs made
  simp only [exists_and_left, ← hends.unlink_error_iff, and_assoc]
  refine and_congr_right fun _ => ?_
  rw [← Spoils.unremoved_iff response hwell hends]
  simp only [exists_and_left]

/-- Without a path that a directory may have, a download asks for nothing. -/
theorem leaks_file_iff_lapse_of_parent (hnul : file.parent.holdsNul = true) :
    Leaks (Saving.file url file cookies timeout) env s fault ↔
      FileLapse url file cookies timeout env s fault := by
  have hrefused : Saving.file url file cookies timeout env s = .error .nul s :=
    Act.bind_error.mpr (Or.inl (Disk.during_ensureDirectories_of_nul _ hnul env s))
  have hmade : ∀ {t}, Disk.ensureParent file env s ≠ .ok () t := fun h => by
    cases (plain_of_ensureParent h).symm.trans hnul
  rw [Act.leaks_of_unreported hrefused rfl]
  refine ⟨fun h => h ▸ .parent hnul, fun h => ?_⟩
  cases h with
  | parent nul => rfl
  | request made => exact absurd made hmade
  | name made => exact absurd made hmade
  | directory made => exact absurd made hmade
  | long made => exact absurd made hmade

/-- A download leaks its lapses. -/
theorem leaks_file_iff_lapse (henv : env.Foreseen) (hs : s.store.WellFormed) :
    Leaks (Saving.file url file cookies timeout) env s fault ↔
      FileLapse url file cookies timeout env s fault := by
  cases hparent : file.parent.holdsNul with
  | true => exact leaks_file_iff_lapse_of_parent hparent
  | false =>
      cases hnul : file.holdsNul with
      | true =>
          rw [leaks_file_of_parent henv hparent]
          simp only [leaks_receive_of_nul hnul]
          constructor
          · rintro ⟨t, made, ⟨message, answered, rfl⟩ | ⟨response, u, requested, rfl⟩⟩
            · exact .request made answered
            · exact .name made (answer_of_request requested).1 hnul
          · intro h
            cases h with
            | parent nul => cases hparent.symm.trans nul
            | request made answered => exact ⟨_, made, Or.inl ⟨_, answered, rfl⟩⟩
            | name made answered =>
                obtain ⟨u, requested⟩ := request_of_answer answered
                exact ⟨_, made, Or.inr ⟨_, u, requested, rfl⟩⟩
            | directory made answered plain => cases hnul.symm.trans plain
            | long made answered plain => cases hnul.symm.trans plain
      | false =>
          rw [leaks_file_of_plain henv hs hnul]
          constructor
          · rintro ⟨t, made, ⟨message, answered, rfl⟩ |
              ⟨response, answered, e, ⟨rfl, l, there⟩ | ⟨rfl, refused⟩, rfl⟩⟩
            · exact .request made answered
            · exact .directory made answered hnul there
            · exact .long made answered hnul refused
          · intro h
            cases h with
            | parent nul => cases hparent.symm.trans nul
            | request made answered => exact ⟨_, made, Or.inl ⟨_, answered, rfl⟩⟩
            | name made answered nul => cases hnul.symm.trans nul
            | directory made answered plain there =>
                exact ⟨_, made, Or.inr ⟨_, answered, _, Or.inl ⟨rfl, _, there⟩, rfl⟩⟩
            | long made answered plain refused =>
                exact ⟨_, made, Or.inr ⟨_, answered, _, Or.inr ⟨rfl, refused⟩, rfl⟩⟩

/-- A fault is reported just if it is one of the network or of the store. -/
abbrev ReportedInFile (fault : Fault) : Prop :=
  fault.isReported = true ↔ fault.IsNetwork ∨ fault.IsStorage

theorem reportedInFile_network (cause : NetworkFault) : ReportedInFile (.network cause) :=
  iff_of_true rfl (Or.inl ⟨cause, rfl⟩)

theorem reportedInFile_storage (task : StorageTask) (cause : StorageCause) :
    ReportedInFile (.storage task cause) :=
  iff_of_true rfl (Or.inr ⟨task, cause, rfl⟩)

theorem reportedInFile_of_unreported (h : fault.isReported = false) : ReportedInFile fault := by
  refine iff_of_false (by simp [h]) ?_
  rintro (⟨cause, rfl⟩ | ⟨task, cause, rfl⟩) <;> cases h

theorem covered_inFile : Disk.Covered ReportedInFile :=
  ⟨reportedInFile_of_unreported rfl, fun _ => reportedInFile_of_unreported rfl⟩

theorem receive_inFile (url : String) (file : Path) (response : Response) :
    FailsWith ReportedInFile (receive url file response) := by
  have hcut : ∀ cause, ReportedInFile (cutShort url cause) := fun cause => by
    cases cause with
    | connection message => exact reportedInFile_network _
    | system message | value message => exact reportedInFile_of_unreported rfl
  have hbody : FailsWith ReportedInFile (writeBody url file response) := by
    refine (covered_inFile.change file _).bind fun _ => ?_
    split
    · exact .throw (hcut _)
    · exact .pure _
  have hunlink : FailsWith ReportedInFile (Disk.unlinkIfThere file) := by
    refine (covered_inFile.change file _).rescue fun f hf => ?_
    split
    · exact .pure _
    · exact .throw hf
  have hdiscard : ∀ f, ReportedInFile f → FailsWith ReportedInFile (discard file f) := by
    intro f hf
    unfold discard
    split
    · exact hunlink.bind fun _ => .throw (reportedInFile_network _)
    · exact hunlink.bind fun _ => .throw (reportedInFile_storage _ _)
    · exact .throw hf
  refine FailsWith.bind ?_ fun _ => (hbody.rescue hdiscard).bind fun _ => .pure _
  unfold noteStatus
  split
  · exact .pure _
  · exact .modify _

/-- What a download reports is a fault of the network or of the store. -/
theorem file_inFile (url : String) (file : Path) (cookies : Cookies) (timeout : Timeout) :
    FailsWith ReportedInFile (Saving.file url file cookies timeout) := by
  have hparent : FailsWith ReportedInFile (Disk.ensureParent file) := by
    refine (covered_inFile.ensureDirectories file.parent).mapFault fun f hf => ?_
    unfold Disk.asTask
    split
    · exact reportedInFile_storage _ _
    · exact hf
  have hasked : FailsWith ReportedInFile (request url cookies timeout) := by
    have hrequest : FailsWith ReportedInFile
        (Act.request (.requested url (cookieHeaders cookies) timeout)) := fun _ _ _ _ h => nomatch h
    refine hrequest.bind fun _ => .ofExcept (fun cause => ?_) _
    cases cause with
    | connection message => exact reportedInFile_network _
    | system message | value message => exact reportedInFile_of_unreported rfl
  exact hparent.bind fun _ => hasked.bind fun response =>
    (receive_inFile url file response).andAlways (.modify _)

/-- Whatever the network and the system fail with, and whatever is in the way in the store, a
download ends well or fails with a fault of the network or of the store, unless it meets a lapse,
and then it fails with the fault of the lapse. -/
theorem file_accounted (url : String) (file : Path) (cookies : Cookies) (timeout : Timeout)
    (henv : env.Foreseen) (hs : s.store.WellFormed) :
    ((Saving.file url file cookies timeout).EndsAs
        (fun fault => fault.IsNetwork ∨ fault.IsStorage) env s ↔
      ∀ fault, ¬ FileLapse url file cookies timeout env s fault) ∧
    ∀ fault, FileLapse url file cookies timeout env s fault →
      ∃ s', Saving.file url file cookies timeout env s = .error fault s' := by
  constructor
  · rw [Act.endsAs_iff (file_inFile url file cookies timeout)]
    exact forall_congr' fun fault => not_congr (leaks_file_iff_lapse henv hs)
  · exact fun fault hlapse => ((leaks_file_iff_lapse henv hs).mpr hlapse).2

/-! ### A directory where a file is to be -/

theorem oneFile_tree : oneFile.store.Tree := by decide +kernel

/-- The path of the directory, and of what is in it. -/
def belowA (names : List String) : Path := ⟨.relative, "a" :: names⟩

theorem cramped_foreseen : (steady (.ok cramped)).Foreseen := fun _ _ hbroken => by cases hbroken

theorem directory_refused : ∃ s', Saving.file "u" (belowA []) {} (.whole 120) (steady (.ok cramped))
    oneFile = .error (Disk.refused .isDirectory (belowA [])) s' := by
  obtain ⟨fault, s', hfile, hfault⟩ := Act.exists_of_breaksIn (by decide +kernel :
    (Saving.file "u" (belowA []) {} (.whole 120)).BreaksIn (steady (.ok cramped)) oneFile
      (fun fault _ => fault == Disk.refused .isDirectory (belowA [])) = true)
  exact ⟨s', eq_of_beq hfault ▸ hfile⟩

theorem belowA_made (names : List String) (spot : Spot)
    (h : (Disk.ensureParent (belowA names)).EndsIn (steady (.ok cramped)) oneFile (fun _ t =>
      (t.store.find ["w"] (belowA names) false).toOption == some spot) = true) :
    ∃ t, Disk.ensureParent (belowA names) (steady (.ok cramped)) oneFile = .ok () t ∧
      t.store.find ["w"] (belowA names) false = .ok spot := by
  obtain ⟨_, t, made, hfind⟩ := Act.exists_of_endsIn h
  exact ⟨t, made, Act.ok_of_toOption (eq_of_beq hfind)⟩

/-- A download that is cut short is accounted for where a file was.  Where a directory is, it
fails with a fault of the system. -/
theorem belowA_accounts :
    (Saving.file "u" (belowA ["f"]) {} (.whole 120)).EndsAs
        (fun fault => fault.IsNetwork ∨ fault.IsStorage) (steady (.ok cramped)) oneFile ∧
      ∃ s', Saving.file "u" (belowA []) {} (.whole 120) (steady (.ok cramped)) oneFile =
        .error (Disk.refused .isDirectory (belowA [])) s' := by
  constructor
  · refine (file_accounted "u" _ {} (.whole 120) cramped_foreseen oneFile_tree.wellFormed).1.mpr
      fun fault hlapse => ?_
    obtain ⟨t, made, hfind⟩ := belowA_made ["f"] (.taken ["w", "a", "f"] (.file (.plain [7])))
      (by decide +kernel)
    have hplain : (belowA ["f"]).holdsNul = false := by decide +kernel
    cases hlapse with
    | parent nul => cases (Path.holdsNul_parent hplain).symm.trans nul
    | request made' answered => cases answered
    | name made' answered nul => cases hplain.symm.trans nul
    | directory made' answered plain there =>
        obtain rfl := (EStateM.Result.ok.inj (made.symm.trans made')).2
        cases hfind.symm.trans there
    | long made' answered plain refused =>
        obtain rfl := (EStateM.Result.ok.inj (made.symm.trans made')).2
        cases hfind.symm.trans refused
  · obtain ⟨t, made, hfind⟩ := belowA_made [] (.taken ["w", "a"] .directory) (by decide +kernel)
    exact (file_accounted "u" _ {} (.whole 120) cramped_foreseen oneFile_tree.wellFormed).2 _
      (.directory made rfl (by decide +kernel) hfind)

/-- Although the network and the system fail only as they may, a download may fail with neither
a fault of the network nor one of the store. -/
theorem not_all_files_accounted :
    ¬ ∀ (url : String) (file : Path) (cookies : Cookies) (timeout : Timeout) (env : Environment)
      (s : State), env.Foreseen → s.store.WellFormed →
      (Saving.file url file cookies timeout).EndsAs
        (fun fault => fault.IsNetwork ∨ fault.IsStorage) env s := by
  intro hall
  obtain ⟨s', hrefused⟩ := directory_refused
  rcases hall "u" (belowA []) {} (.whole 120) _ oneFile cramped_foreseen
      oneFile_tree.wellFormed with
    ⟨n, t, hsaved⟩ | ⟨fault, t, hfails, hkind⟩
  · cases hrefused.symm.trans hsaved
  · cases hrefused.symm.trans hfails
    rcases hkind with ⟨cause, h⟩ | ⟨task, cause, h⟩ <;> cases h

/-! ## Pages -/

/-- What a page meets and does not account for, with the fault that comes of it. -/
inductive PageLapse (settings : Settings) (url : String) (file : Path) (cookies : Cookies)
    (env : Environment) (s : State) : Fault → Prop
  /-- The browser is open, but the directory of the file has a path that holds the character that
  none may hold. -/
  | parent {t : State} (opens : Browser.ensureOpen settings env s = .ok () t)
      (nul : file.parent.holdsNul = true) : PageLapse settings url file cookies env s .nul
  /-- The context of the page does not close. -/
  | context {t : State} {message : String} (enters : enter settings url file env s = .ok () t)
      (jams : jam? settings url file cookies env t = some message) :
      PageLapse settings url file cookies env s (.browser message)
  /-- The page is to be given cookies and has no host. -/
  | host {t : State} {cause : Host.Fault} (enters : enter settings url file env s = .ok () t)
      (given : cookies.isEmpty = false) (host : Host.ofUrl url = .error cause)
      (closes : jam? settings url file cookies env t = none) :
      PageLapse settings url file cookies env s (.host cause)
  /-- The output of the page cannot be written. -/
  | output {t u : State} {reaction : Reaction} {data : Bytes} {e : Errno}
      (enters : enter settings url file env s = .ok () t)
      (presents : present settings url file cookies env t = .ok reaction u)
      (output : reaction.output = some data) (plain : file.holdsNul = false)
      (write : u.store.write env.here file (.plain data) = .error e)
      (closes : jam? settings url file cookies env t = none) :
      PageLapse settings url file cookies env s (Disk.refused e file)
  /-- The page is printed, or is said to be, to a file with a name that holds the character that
  none may hold. -/
  | name {t u : State} {reaction : Reaction} (enters : enter settings url file env s = .ok () t)
      (presents : present settings url file cookies env t = .ok reaction u)
      (asked : reaction.output ≠ none ∨ reaction.failure = none) (nul : file.holdsNul = true)
      (closes : jam? settings url file cookies env t = none) :
      PageLapse settings url file cookies env s .nul

theorem plain_of_enter (h : enter settings url file env s = .ok () t) :
    file.parent.holdsNul = false := by
  obtain ⟨_, _, _, h⟩ := Act.bind_ok.mp h
  obtain ⟨_, _, hparent, _⟩ := Act.bind_ok.mp h
  exact plain_of_ensureParent hparent

/-- Without a path that a directory may have, a page leaks that if its browser is open. -/
theorem leaks_page_iff_lapse_of_parent (hnul : file.parent.holdsNul = true) :
    Leaks (Saving.page settings url file cookies) env s fault ↔
      PageLapse settings url file cookies env s fault := by
  have hparent : ∀ t, Disk.ensureParent file env t = .error .nul t :=
    Disk.during_ensureDirectories_of_nul _ hnul env
  have henter : ∀ {t}, enter settings url file env s ≠ .ok () t := fun h => by
    cases (plain_of_enter h).symm.trans hnul
  rw [Saving.page, (Browser.ensureOpen_reports settings).leaks_then]
  simp only [Act.leaks_bind_of_error (hparent _)]
  constructor
  · rintro ⟨t, opens, _, rfl⟩
    exact .parent opens hnul
  · intro h
    cases h with
    | parent opens => exact ⟨_, opens, rfl, rfl⟩
    | context enters => exact absurd enters henter
    | host enters => exact absurd enters henter
    | output enters => exact absurd enters henter
    | name enters => exact absurd enters henter

/-! ### A name that none may have -/

theorem keepOutput_of_nul (hnul : file.holdsNul = true) (reaction : Reaction) (env : Environment)
    (s : State) : keepOutput file reaction env s =
      if reaction.output = none then .ok () s else .error .nul s := by
  rw [keepOutput]
  cases reaction.output with
  | none => rfl
  | some data =>
      have hprinted : ¬ some data = none := Option.some_ne_none data
      dsimp only
      rw [Disk.write, Disk.change_eq, if_pos hnul, if_neg hprinted]

theorem leaks_keepOutput_of_nul {reaction : Reaction} (hnul : file.holdsNul = true) :
    Leaks (keepOutput file reaction) env s fault ↔ reaction.output ≠ none ∧ fault = .nul := by
  have hkept := keepOutput_of_nul hnul reaction env s
  by_cases houtput : reaction.output = none
  · rw [if_pos houtput] at hkept
    have hsucceeds : Succeeds (keepOutput file reaction) env s := ⟨(), s, hkept⟩
    exact iff_of_false hsucceeds.not_leaks fun h => h.1 houtput
  · rw [if_neg houtput] at hkept
    rw [Act.leaks_of_unreported hkept rfl]
    exact (and_iff_right houtput).symm

theorem leaks_readBack_of_nul (hnul : file.holdsNul = true) :
    Leaks (Disk.during (.readBack file) (Disk.size file)) env s fault ↔ fault = .nul := by
  have hrefused : Disk.during (.readBack file) (Disk.size file) env s = .error .nul s := by
    refine Act.mapFault_error.mpr ⟨.nul, Act.bind_error.mpr (Or.inl ?_), rfl⟩
    rw [Disk.checkPath_eq, if_pos hnul]
  exact Act.leaks_of_unreported hrefused rfl

theorem succeeds_visit_of_nul (hnul : file.holdsNul = true) :
    Succeeds (visit settings url file cookies) env s ↔
      ∃ reaction u, present settings url file cookies env s = .ok reaction u ∧
        reaction.output = none ∧ reaction.failure = none := by
  rw [visit_eq]
  simp only [Succeeds, Act.bind_ok, keepOutput_of_nul hnul]
  constructor
  · rintro ⟨_, s', reaction, u, presents, _, v, hkept, hsettled⟩
    refine ⟨reaction, u, presents, ?_, (settle_ok hsettled).1⟩
    split at hkept
    · assumption
    · cases hkept
  · rintro ⟨reaction, u, presents, houtput, hfailure⟩
    refine ⟨(), u, reaction, u, presents, (), u, if_pos houtput, ?_⟩
    rw [Act.settle, hfailure]
    rfl

/-- Such a visit ends well with its context closed if it closes, and nothing was to be written. -/
theorem succeeds_closing_of_nul (hnul : file.holdsNul = true) :
    Succeeds (((visit settings url file cookies).mapFault
        (Browser.asRendering (.page url))).andAlways (Browser.call .contextClosed)) env s ↔
      jam? settings url file cookies env s = none ∧
        ∃ reaction u, present settings url file cookies env s = .ok reaction u ∧
          reaction.output = none ∧ reaction.failure = none := by
  rw [← succeeds_visit_of_nul hnul]
  constructor
  · rintro ⟨_, v, hclosed⟩
    obtain ⟨w, hnamed, hclose⟩ := Act.andAlways_ok.mp hclosed
    have hvisit := Act.mapFault_ok.mp hnamed
    refine ⟨?_, _, w, hvisit⟩
    rw [jam?, Act.final_of_ok hvisit]
    exact Browser.succeeds_call.mp ⟨_, _, hclose⟩
  · rintro ⟨closes, _, w, hvisit⟩
    rw [jam?, Act.final_of_ok hvisit] at closes
    obtain ⟨_, v, hclose⟩ := Browser.succeeds_call.mpr closes
    exact ⟨(), v, Act.andAlways_ok.mpr ⟨w, Act.mapFault_ok.mpr hvisit, hclose⟩⟩

/-- A page whose file has a name with the character that none may hold leaks that its context does
not close, and if it does, that there is no host for cookies or that the name is asked for: to
write the output of the page, or to tell its size where there is none. -/
theorem leaks_page_iff_lapse_of_name (hparent : file.parent.holdsNul = false)
    (hnul : file.holdsNul = true) :
    Leaks (Saving.page settings url file cookies) env s fault ↔
      PageLapse settings url file cookies env s fault := by
  rw [page_eq, (enter_reports settings url hparent).leaks_then]
  simp only [Act.leaks_bind, leaks_visit_closing, leaks_readBack_of_nul hnul]
  constructor
  · rintro ⟨t, enters, (⟨message, jams, rfl⟩ | ⟨closes, hfault, hvisit⟩) | ⟨_, v, hclosed, rfl⟩⟩
    · exact .context enters jams
    · rcases (leaks_visit_keeping hfault).mp hvisit with
        ⟨given, cause, host, rfl⟩ | ⟨reaction, u, presents, hkeeping⟩
      · exact .host enters given host closes
      · obtain ⟨output, rfl⟩ := (leaks_keepOutput_of_nul hnul).mp hkeeping
        exact .name enters presents (Or.inl output) hnul closes
    · obtain ⟨closes, reaction, u, presents, _, failure⟩ :=
        (succeeds_closing_of_nul hnul).mp ⟨_, v, hclosed⟩
      exact .name enters presents (Or.inr failure) hnul closes
  · intro h
    cases h with
    | parent opens nul => cases hparent.symm.trans nul
    | context enters jams => exact ⟨_, enters, Or.inl (Or.inl ⟨_, jams, rfl⟩)⟩
    | host enters given host closes =>
        have hfault := Fault.not_browser_host
        exact ⟨_, enters, Or.inl (Or.inr ⟨closes, hfault _, (leaks_visit_keeping (hfault _)).mpr
          (Or.inl ⟨given, _, host, rfl⟩)⟩)⟩
    | output enters presents output plain => cases hnul.symm.trans plain
    | @name t u reaction enters presents asked nul closes =>
        have hfault := Fault.not_browser_nul
        by_cases houtput : reaction.output = none
        · -- there is nothing to write, and the size is asked for
          obtain ⟨_, v, hclosed⟩ := (succeeds_closing_of_nul hnul).mpr
            ⟨closes, reaction, u, presents, houtput, asked.resolve_left (absurd houtput)⟩
          exact ⟨t, enters, Or.inr ⟨(), v, hclosed, rfl⟩⟩
        · exact ⟨t, enters, Or.inl (Or.inr ⟨closes, hfault, (leaks_visit_keeping hfault).mpr
            (Or.inr ⟨reaction, u, presents, (leaks_keepOutput_of_nul hnul).mpr ⟨houtput, rfl⟩⟩)⟩)⟩

/-- A page leaks its lapses. -/
theorem leaks_page_iff_lapse :
    Leaks (Saving.page settings url file cookies) env s fault ↔
      PageLapse settings url file cookies env s fault := by
  cases hparent : file.parent.holdsNul with
  | true => exact leaks_page_iff_lapse_of_parent hparent
  | false =>
      cases hnul : file.holdsNul with
      | true => exact leaks_page_iff_lapse_of_name hparent hnul
      | false =>
          rw [leaks_page hnul]
          constructor
          · rintro ⟨t, enters, ⟨message, jams, rfl⟩ | ⟨closes, hfault, hvisit⟩⟩
            · exact .context enters jams
            · rcases (leaks_visit hnul hfault).mp hvisit with
                ⟨given, cause, host, rfl⟩ | ⟨reaction, u, data, e, presents, output, write, rfl⟩
              · exact .host enters given host closes
              · exact .output enters presents output hnul write closes
          · intro h
            cases h with
            | parent opens nul => cases hparent.symm.trans nul
            | context enters jams => exact ⟨_, enters, Or.inl ⟨_, jams, rfl⟩⟩
            | host enters given host closes =>
                have hfault := Fault.not_browser_host
                exact ⟨_, enters, Or.inr ⟨closes, hfault _, (leaks_visit hnul (hfault _)).mpr
                  (Or.inl ⟨given, _, host, rfl⟩)⟩⟩
            | output enters presents output plain write closes =>
                have hfault := Fault.not_browser_system
                exact ⟨_, enters, Or.inr ⟨closes, hfault _, (leaks_visit hnul (hfault _)).mpr
                  (Or.inr ⟨_, _, _, _, presents, output, write, rfl⟩)⟩⟩
            | name enters presents asked nul => cases hnul.symm.trans nul

/-- What a page reports is a fault of the browser or of the store. -/
theorem page_reported (settings : Settings) (url : String) (file : Path) (cookies : Cookies) :
    FailsWith (fun fault => fault.isReported = true ↔ fault.IsRender ∨ fault.IsStorage)
      (Saving.page settings url file cookies) := by
  intro env s fault s' h
  have hlocal : fault.IsLocal := page_local settings url file cookies env s fault s' h
  cases fault
  case render cause => exact iff_of_true rfl (Or.inl ⟨cause, rfl⟩)
  case storage task cause => exact iff_of_true rfl (Or.inr ⟨task, cause, rfl⟩)
  case script | size | network => cases hlocal
  all_goals exact iff_of_false nofun (by rintro (⟨_, h⟩ | ⟨_, _, h⟩) <;> cases h)

/-- Whichever calls on the browser fail, and whatever is in the way in the store, a page ends well
or fails with a fault of rendering or of the store, unless it meets a lapse, and then it fails
with the fault of the lapse. -/
theorem page_accounted (settings : Settings) (url : String) (file : Path) (cookies : Cookies)
    (env : Environment) (s : State) :
    ((Saving.page settings url file cookies).EndsAs
        (fun fault => fault.IsRender ∨ fault.IsStorage) env s ↔
      ∀ fault, ¬ PageLapse settings url file cookies env s fault) ∧
    ∀ fault, PageLapse settings url file cookies env s fault →
      ∃ s', Saving.page settings url file cookies env s = .error fault s' := by
  constructor
  · rw [Act.endsAs_iff (page_reported settings url file cookies)]
    exact forall_congr' fun fault => not_congr leaks_page_iff_lapse
  · exact fun fault hlapse => (leaks_page_iff_lapse.mpr hlapse).2

/-! ### A context that does not close -/

/-- Even with nothing else that fails, a page may fail with a fault that is neither one of
rendering nor one of the store. -/
theorem not_all_pages_accounted :
    ¬ ∀ (settings : Settings) (url : String) (file : Path) (cookies : Cookies) (env : Environment)
      (s : State), (Saving.page settings url file cookies).EndsAs
        (fun fault => fault.IsRender ∨ fault.IsStorage) env s := by
  intro hall
  obtain ⟨fault, s', hfails, hfault⟩ := Act.exists_of_breaksIn (by decide +kernel :
    (Saving.page {} "u" draft {}).BreaksIn (jammed (some [7])) emptyDir
      (fun fault _ => fault == .browser "stuck") = true)
  obtain rfl := eq_of_beq hfault
  rcases hall {} "u" draft {} (jammed (some [7])) emptyDir with
    ⟨n, t, hsaved⟩ | ⟨fault, t, hfails', hkind⟩
  · cases hfails.symm.trans hsaved
  · cases hfails.symm.trans hfails'
    rcases hkind with ⟨cause, h⟩ | ⟨task, cause, h⟩ <;> cases h

end Saving

end Dossier
