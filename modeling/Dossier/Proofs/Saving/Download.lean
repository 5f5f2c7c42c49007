import Dossier.Proofs.Act.Lapses
import Dossier.Proofs.Store.Paving

/-!
# Downloads that fail

A download that fails leaves nothing but the directories above its destination, whether its
request is not answered or its body is cut short (`file_leavesNothing`).  In the second case a
file that was at the destination is gone too, for it was overwritten by what arrived, and that
is removed.  The response is closed once.
-/

namespace Dossier.Saving

open Store (Paves)

variable {env : Environment} {s t : State} {url : String} {file : Path} {cookies : Cookies}
  {timeout : Timeout} {fault : Fault} {cause : TransportFault} {response : Response}

/-- The fault of a download that is cut short by the connection or by the system. -/
def interruption? (url : String) (file : Path) : TransportFault → Option Fault
  | .connection message => some (.network (.interrupted url message))
  | .system message => some (.storage (.write file) (.system (.reported message)))
  | .value _ => none

/-- The directories above a file are made, and nothing else is changed. -/
theorem ensureParent_paves (hs : s.store.Tree) {u : Unit}
    (h : Disk.ensureParent file env s = .ok u t) :
    Paves env.here file.parent s.store t.store ∧
      t.store.find env.here file.parent true =
        .ok (.taken (file.parent.location env.here) .directory) ∧ t.trace = s.trace := by
  obtain ⟨_, made, hmade, rfl⟩ := Disk.ensureDirectories_ok.mp (Disk.during_ok.mp h)
  obtain ⟨hpaves, hfinds⟩ := Store.ensureDirectories_paves hs env.here file.parent
  rw [hmade] at hpaves hfinds
  exact ⟨hpaves, hfinds rfl, rfl⟩

/-! ## A body that is cut short -/

/-- What arrived of a body that is cut short is removed. -/
theorem discard_interrupted {left : Store} (hnul : file.holdsNul = false)
    (hunlink : s.store.unlink env.here file = .ok left)
    (hcause : interruption? url file cause = some fault) :
    discard file (cutShort url cause) env s = .error fault { s with store := left } := by
  have hremoved : Disk.unlinkIfThere file env s = .ok () { s with store := left } :=
    Act.rescue_ok.mpr (Or.inl (Disk.change_ok.mpr ⟨hnul, left, hunlink, rfl⟩))
  cases cause with
  | connection message =>
      obtain rfl := Option.some.inj hcause
      exact Act.bind_error.mpr (Or.inr ⟨(), _, hremoved, rfl⟩)
  | system message =>
      obtain rfl := Option.some.inj hcause
      exact Act.bind_error.mpr (Or.inr ⟨(), _, hremoved, rfl⟩)
  | value message => cases hcause

/-- A body that is cut short is written as far as it arrives, and removed. -/
theorem receive_interrupted {written left : Store} (hnul : file.holdsNul = false)
    (hwrite : s.store.write env.here file (.plain response.body) = .ok written)
    (hunlink : written.unlink env.here file = .ok left) (hbroken : response.broken = some cause)
    (hcause : interruption? url file cause = some fault) :
    ∃ notes, receive url file response env s =
      .error fault { s with notes := notes, store := left } := by
  obtain ⟨notes, hnote⟩ := noteStatus_ok url response env s
  have hbody : writeBody url file response env { s with notes := notes } =
      .error (cutShort url cause) { s with notes := notes, store := written } := by
    rw [writeBody_eq]
    refine Act.bind_error.mpr (Or.inr ⟨(), _, Disk.change_ok.mpr ⟨hnul, written, hwrite, rfl⟩, ?_⟩)
    rw [hbroken]
    rfl
  refine ⟨notes, Act.bind_error.mpr (Or.inr ⟨(), _, hnote, Act.bind_error.mpr (Or.inl ?_)⟩)⟩
  exact Act.rescue_error.mpr ⟨_, _, hbody, discard_interrupted hnul hunlink hcause⟩

/-! ## Downloads -/

/-- A download that fails leaves nothing.  If its request is not answered, no more was changed
than that missing directories above its destination were made.  If its body is cut short, by
the connection or by the system, nothing is at its destination, even if a file was there, and
elsewhere no more was changed than that; the response is closed once.

The body is only read if the destination can be opened: if its path is short enough and does not
hold the character that no path may hold, and if it is not a directory, nor made one as one of
the directories above itself, as two dots in the path could have it. -/
theorem file_leavesNothing (url : String) (cookies : Cookies) (timeout : Timeout)
    (hs : s.store.Tree) (hparent : Disk.ensureParent file env s = .ok () t) :
    (∀ message, answer url cookies timeout env t = .error (.connection message) →
      ∃ s', Saving.file url file cookies timeout env s =
          .error (.network (.unreachable url message)) s' ∧
        Paves env.here file.parent s.store s'.store ∧
        s'.trace = s.trace ++ [.requested url (cookieHeaders cookies) timeout]) ∧
    ∀ response cause fault, answer url cookies timeout env t = .ok response →
      response.broken = some cause → interruption? url file cause = some fault →
      file.Short → file.holdsNul = false →
      s.store.get? (file.location env.here) ≠ some .directory →
      (".." ∈ file.parts → t.store.get? (file.location env.here) ≠ some .directory) →
      ∃ s', Saving.file url file cookies timeout env s = .error fault s' ∧
        s'.store.Tree ∧ s'.store.get? (file.location env.here) = none ∧
        s'.store.hasEntry env.here file = .ok false ∧
        (∀ m, m ≠ file.location env.here → s'.store.get? m ≠ s.store.get? m →
          file.parent.Passes env.here m ∧ s.store.get? m = none ∧
            s'.store.get? m = some .directory) ∧
        s'.trace = s.trace ++
          [.requested url (cookieHeaders cookies) timeout, .responseClosed url] := by
  obtain ⟨hpaves, hfinds, htrace⟩ := ensureParent_paves hs hparent
  obtain ⟨clock, hrequest⟩ := request_eq url cookies timeout env t
  constructor
  · intro message hanswer
    rw [answer] at hanswer
    rw [hanswer] at hrequest
    refine ⟨_, Act.bind_error.mpr (Or.inr ⟨(), t, hparent, Act.bind_error.mpr
      (Or.inl hrequest)⟩), hpaves, ?_⟩
    rw [htrace]
  · intro response cause fault hanswer hbroken hcause hshort hnul hdir hown
    rw [answer] at hanswer
    rw [hanswer] at hrequest
    have hdir' : t.store.get? (file.location env.here) ≠ some .directory := by
      by_cases hdots : ".." ∈ file.parts
      · exact hown hdots
      · rwa [hpaves.untouched hdots]
    obtain ⟨written, left, hwrite, hunlink, htree, hleft⟩ :=
      Store.write_unlink hpaves.tree hfinds hshort hdir' (.plain response.body)
    have hnone : left.get? (file.location env.here) = none := by
      rw [hleft, Store.View.erased, if_pos rfl]
    obtain ⟨notes, hreceive⟩ := receive_interrupted (s := { t with
      trace := t.trace ++ [.requested url (cookieHeaders cookies) timeout], clock := clock })
      hnul hwrite hunlink hbroken hcause
    refine ⟨_, Act.bind_error.mpr (Or.inr ⟨(), t, hparent, Act.bind_error.mpr
      (Or.inr ⟨response, _, hrequest, Act.andAlways_error.mpr (Or.inr (Or.inl
        ⟨_, hreceive, rfl⟩))⟩)⟩), htree, hnone, Store.hasEntry_of_absent htree hshort hnone,
      fun m hm hchanged => ?_, ?_⟩
    · have hsame : left.get? m = t.store.get? m := by rw [hleft, Store.View.erased, if_neg hm]
      show file.parent.Passes env.here m ∧ _ ∧ left.get? m = _
      rw [hsame]
      exact hpaves.made m (hsame ▸ hchanged)
    · show t.trace ++ [_] ++ [_] = _
      rw [htrace, List.append_assoc]
      rfl

/-! ## A file that is downloaded again -/

/-- A directory with a file in it. -/
def oneFile : State :=
  { store := ⟨[(["w"], .directory), (["w", "a"], .directory),
      (["w", "a", "f"], .file (.plain [7]))]⟩ }

/-- Every request has the same outcome. -/
def steady (outcome : Except TransportFault Response) : Environment :=
  { here := ["w"], reply := fun _ => ⟨0, outcome⟩ }

/-- Two chunks arrive, and then the system has no more space. -/
def cramped : Response := { chunks := [[1], [2]], broken := some (.system "full") }

/-- A request that is not answered leaves the directory that was to hold its file.  A file that is
downloaded again is gone once its body is cut short. -/
theorem oneFile_leavesNothing :
    (∃ s', Saving.file "u" ⟨.relative, ["b", "f"]⟩ {} (.whole 120)
          (steady (.error (.connection "gone"))) oneFile =
        .error (.network (.unreachable "u" "gone")) s' ∧
      Paves ["w"] ⟨.relative, ["b"]⟩ oneFile.store s'.store) ∧
    ∃ s', Saving.file "u" ⟨.relative, ["a", "f"]⟩ {} (.whole 120) (steady (.ok cramped)) oneFile =
        .error (.storage (.write ⟨.relative, ["a", "f"]⟩) (.system (.reported "full"))) s' ∧
      s'.store.get? ["w", "a", "f"] = none ∧
      s'.trace = [.requested "u" [] (.whole 120), .responseClosed "u"] := by
  have htree : oneFile.store.Tree := by decide +kernel
  constructor
  · obtain ⟨_, t, hparent, _⟩ := Act.exists_of_endsIn (by decide +kernel :
      (Disk.ensureParent ⟨.relative, ["b", "f"]⟩).EndsIn (steady (.error (.connection "gone")))
        oneFile (fun _ _ => true) = true)
    obtain ⟨s', hfile, hpaves, _⟩ := (file_leavesNothing "u" {} (.whole 120) htree hparent).1
      "gone" rfl
    exact ⟨s', hfile, hpaves⟩
  · obtain ⟨_, t, hparent, _⟩ := Act.exists_of_endsIn (by decide +kernel :
      (Disk.ensureParent ⟨.relative, ["a", "f"]⟩).EndsIn (steady (.ok cramped)) oneFile
        (fun _ _ => true) = true)
    obtain ⟨s', hfile, _, hnone, _, _, htrace⟩ :=
      (file_leavesNothing "u" {} (.whole 120) htree hparent).2 cramped (.system "full") _ rfl rfl
        rfl ⟨by decide +kernel, by decide +kernel⟩ (by decide +kernel) (by decide +kernel)
        (fun hdots => absurd hdots (by decide))
    exact ⟨s', hfile, hnone, htrace⟩

end Dossier.Saving
