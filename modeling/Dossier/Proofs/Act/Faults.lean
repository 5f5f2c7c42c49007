import Dossier.Proofs.Act.Ending
import Dossier.Packing
import Dossier.Saving.File
import Dossier.Saving.Page
import Dossier.Saving.Text
import Dossier.Verdict

/-!
# Which acts fail locally

A fault is *local* if it is no fault of the network and refuses neither a script
nor a size.  All that a run does fails with local faults only, save for saving a
file behind a URL and setting cookies.  So a run that fails on the network fails in
a row that saves such a file, and a run that refuses its script does so at a row
of cookies.
-/

namespace Dossier

open Act (FailsWith)

/-- A script or a size is refused. -/
def Fault.isRefusal : Fault → Bool
  | .script _ | .size _ => true
  | _ => false

/-- Nothing is refused, and it is no fault of the network. -/
def Fault.isLocal : Fault → Bool
  | .network _ | .script _ | .size _ => false
  | _ => true

/-- A local fault. -/
abbrev Fault.IsLocal (fault : Fault) : Prop := fault.isLocal = true

theorem Fault.IsLocal.not_refusal {fault : Fault} (h : fault.IsLocal) :
    fault.isRefusal = false := by
  cases fault <;> first | rfl | cases h

/-! ## Calls on the store -/

namespace Disk

theorem asTask_local (task : StorageTask) (fault : Fault) (h : fault.IsLocal) :
    (asTask task fault).IsLocal := by
  unfold asTask
  split
  · rfl
  · exact h

theorem during_local {α : Type} {task : StorageTask} {act : Act α}
    (h : FailsWith Fault.IsLocal act) : FailsWith Fault.IsLocal (during task act) :=
  h.mapFault (asTask_local task)

/-- A property of all faults of calls on the store. -/
structure Covered (P : Fault → Prop) : Prop where
  nul : P .nul
  system : ∀ cause, P (.system cause)

namespace Covered

variable {P : Fault → Prop} (h : Covered P)
include h

theorem checkPath (p : Path) : FailsWith P (checkPath p) := by
  unfold Disk.checkPath
  split
  · exact .throw h.nul
  · exact .pure _

theorem look {α : Type} (p : Path) (question : Store → Location → Path → Except Errno α) :
    FailsWith P (look p question) :=
  FailsWith.environment.bind fun _ => FailsWith.get.bind fun _ =>
    .ofExcept (fun _ => h.system _) _

theorem size (p : Path) : FailsWith P (size p) := (h.checkPath p).bind fun _ => h.look p _

theorem change (p : Path) (call : Store → Location → Path → Except Errno Store) :
    FailsWith P (change p call) :=
  (h.checkPath p).bind fun _ => (h.look p call).bind fun _ => .modify _

theorem create (p : Path) (content : Content) : FailsWith P (create p content) :=
  (h.checkPath p).bind fun _ => (h.look p _).bind fun _ => (FailsWith.modify _).bind fun _ =>
    .pure _

theorem changeUntil (p : Path) {call : Store → Location → Path → Store × Option Fault}
    (hcall : ∀ store here f, (call store here p).2 = some f → P f) :
    FailsWith P (changeUntil p call) := by
  refine (h.checkPath p).bind fun _ => FailsWith.environment.bind fun env =>
    FailsWith.get.bind fun s => FailsWith.bind (fun _ _ _ _ h => nomatch h) fun _ => ?_
  cases hf : (call s.store env.here p).2 with
  | none => exact .pure _
  | some f => exact .throw (hcall _ _ f hf)

theorem ensureDirectories (p : Path) : FailsWith P (ensureDirectories p) := by
  refine h.changeUntil p fun store here f hf => ?_
  obtain ⟨_, _, rfl⟩ := Option.map_eq_some_iff.mp hf
  exact h.system _

theorem removeTree (p : Path) : FailsWith P (removeTree p) := by
  refine h.changeUntil p fun store here f hf => ?_
  obtain ⟨refusal, _, rfl⟩ := Option.map_eq_some_iff.mp hf
  cases refusal <;> exact h.system _

end Covered

theorem covered_local : Covered Fault.IsLocal := ⟨rfl, fun _ => rfl⟩

theorem failIf_with {P : Fault → Prop} {fault? : Option Fault} (h : ∀ f, fault? = some f → P f) :
    FailsWith P (failIf fault?) := by
  cases fault? with
  | none => exact .pure _
  | some f => exact .throw (h f rfl)

theorem ensureParent_local (file : Path) : FailsWith Fault.IsLocal (ensureParent file) :=
  during_local (covered_local.ensureDirectories _)

end Disk

/-! ## The browser -/

namespace Browser

theorem asRendering_local (cause : String → RenderFault) (fault : Fault) (h : fault.IsLocal) :
    (asRendering cause fault).IsLocal := by
  unfold asRendering
  split
  · rfl
  · exact h

theorem browse_local (e : Event) : FailsWith Fault.IsLocal (Act.browse e) :=
  (FailsWith.modify _).bind fun _ => FailsWith.environment.bind fun _ =>
    FailsWith.get.bind fun _ => (FailsWith.modify _).bind fun _ => .pure _

theorem settle_local (reaction : Reaction) : FailsWith Fault.IsLocal (Act.settle reaction) := by
  unfold Act.settle
  split
  · exact .throw rfl
  · exact .pure _

theorem call_local (e : Event) : FailsWith Fault.IsLocal (call e) :=
  (browse_local e).bind settle_local

theorem shutDown_local (held : Handles) : FailsWith Fault.IsLocal (shutDown held) := by
  unfold shutDown
  refine .andAlways ?_ ?_
  · split
    · exact call_local _
    · exact .pure _
  · split
    · exact call_local _
    · exact .pure _

theorem close_local : FailsWith Fault.IsLocal close :=
  FailsWith.get.bind fun _ => (FailsWith.modify _).bind fun _ =>
    (shutDown_local _).mapFault (asRendering_local _)

theorem launch_local (settings : Settings) : FailsWith Fault.IsLocal (launch settings) :=
  (call_local _).bind fun _ => (FailsWith.modify _).bind fun _ => (call_local _).bind fun _ =>
    .modify _

theorem ensureOpen_local (settings : Settings) : FailsWith Fault.IsLocal (ensureOpen settings) := by
  have hlaunch : FailsWith Fault.IsLocal ((launch settings).rescue abandon) := by
    refine (launch_local settings).rescue fun f hf => ?_
    unfold abandon
    split
    · exact close_local.bind fun _ => .throw rfl
    · exact .throw hf
  refine FailsWith.get.bind fun s => ?_
  split
  · exact .pure _
  · refine FailsWith.environment.bind fun env => ?_
    split
    · exact (FailsWith.throw (P := Fault.IsLocal) rfl).bind fun _ =>
        (FailsWith.modify _).bind fun _ => hlaunch
    · exact (FailsWith.modify _).bind fun _ => hlaunch

end Browser

/-! ## Saving -/

namespace Saving

theorem text_local (content : String) (file : Path) :
    FailsWith Fault.IsLocal (Saving.text content file) :=
  (Disk.ensureParent_local file).bind fun _ =>
    (Disk.during_local (Disk.covered_local.change file _)).bind fun _ => .pure _

theorem giveCookies_local (url : String) (cookies : Cookies) :
    FailsWith Fault.IsLocal (giveCookies url cookies) := by
  unfold giveCookies
  split
  · exact .pure _
  · exact (FailsWith.ofExcept (P := Fault.IsLocal) (fun _ => rfl) _).bind fun _ =>
      Browser.call_local _

theorem keepOutput_local (file : Path) (reaction : Reaction) :
    FailsWith Fault.IsLocal (keepOutput file reaction) := by
  unfold keepOutput
  split
  · exact Disk.covered_local.change file _
  · exact .pure _

theorem printFrom_local (settings : Settings) (url : String) (file : Path) :
    FailsWith Fault.IsLocal (printFrom settings url file) :=
  (Browser.call_local _).bind fun _ => (Browser.browse_local _).bind fun reaction =>
    (keepOutput_local file reaction).bind fun _ => Browser.settle_local reaction

theorem page_local (settings : Settings) (url : String) (file : Path) (cookies : Cookies) :
    FailsWith Fault.IsLocal (Saving.page settings url file cookies) := by
  have hvisit : FailsWith Fault.IsLocal (visit settings url file cookies) :=
    (giveCookies_local url cookies).bind fun _ => (Browser.call_local _).bind fun _ =>
      printFrom_local settings url file
  have hprint : FailsWith Fault.IsLocal (print settings url file cookies) :=
    ((Browser.call_local _).mapFault (Browser.asRendering_local _)).bind fun _ =>
      (hvisit.mapFault (Browser.asRendering_local _)).andAlways (Browser.call_local _)
  exact (Browser.ensureOpen_local settings).bind fun _ => (Disk.ensureParent_local file).bind
    fun _ => hprint.bind fun _ => Disk.during_local (Disk.covered_local.size file)

/-- A body that fails on the network was written, and the response was cut
short. -/
theorem writeBody_network {env : Environment} {s s' : State} {url : String} {file : Path}
    {response : Response} {cause : NetworkFault}
    (h : writeBody url file response env s = .error (.network cause) s') :
    (∃ message, cause = .interrupted url message) ∧
      Disk.write file (.plain response.body) env s = .ok () s' := by
  rw [writeBody_eq] at h
  rcases Act.bind_error.mp h with hwrite | ⟨_, t, hwrite, hbroken⟩
  · exact nomatch Disk.covered_local.change file _ _ _ _ _ hwrite
  · cases hb : response.broken with
    | none => rw [hb] at hbroken; cases hbroken
    | some fault =>
        rw [hb] at hbroken
        obtain ⟨hfault, rfl⟩ := Act.throw_error.mp hbroken
        cases fault <;> cases hfault
        exact ⟨⟨_, rfl⟩, hwrite⟩

end Saving

/-! ## Verdicts -/

namespace Verdict

theorem clear_local (output directory : Path) :
    FailsWith Fault.IsLocal (clear output directory) := by
  refine Disk.during_local ?_
  split
  · exact Disk.covered_local.change _ _
  · exact Disk.covered_local.removeTree _

theorem smallSize?_local (settings : Settings) (output : Path) (destination : String) :
    FailsWith Fault.IsLocal (smallSize? settings output destination) := by
  unfold smallSize?
  split
  · split
    · exact (Disk.covered_local.size _).bind fun _ => .pure _
    · exact .pure _
  · exact .pure _

theorem onPresent_local (settings : Settings) (output : Path) (destination : String) :
    FailsWith Fault.IsLocal (onPresent settings output destination) := by
  refine (smallSize?_local settings output destination).bind fun small => ?_
  cases small with
  | some size =>
      exact (FailsWith.modify _).bind fun _ => (clear_local _ _).bind fun _ => .pure _
  | none => exact (FailsWith.modify _).bind fun _ => .pure _

theorem reach_local (settings : Settings) (output : Path) (destination : String) :
    FailsWith Fault.IsLocal (reach settings output destination) := by
  unfold reach
  split
  · split
    · exact .pure _
    · exact (FailsWith.modify _).bind fun _ => .pure _
  · refine (Disk.covered_local.look _ _).bind fun there => ?_
    split
    · exact onPresent_local settings output destination
    · exact .pure _

end Verdict

/-! ## Packing -/

namespace Packing

theorem filesOf_local (directory : Path) : FailsWith Fault.IsLocal (filesOf directory) := by
  refine (Disk.covered_local.look directory place?).bind fun place => FailsWith.get.bind fun s => ?_
  cases place with
  | none => exact .pure _
  | some l =>
      dsimp only
      split
      · exact .throw rfl
      · exact .pure _

theorem snag?_local {machine : Machine} {file : Path} {f : Fault}
    (h : snag? machine file = some f) : f.IsLocal := by
  unfold snag? at h
  grind [Fault.isLocal, Disk.refused]

theorem addAll_local (directory : Path) (place : Location) :
    ∀ (made : List Archive.Member) (files : List (Location × Content)),
      FailsWith Fault.IsLocal (addAll directory place made files)
  | _, [] => .pure _
  | _, _ :: rest => FailsWith.environment.bind fun _ =>
      (Disk.failIf_with fun _ => snag?_local).bind fun _ => (FailsWith.modify _).bind fun _ =>
        addAll_local directory place _ rest

theorem pack_local (directory : Path) : FailsWith Fault.IsLocal (pack directory) :=
  (Disk.during_local ((filesOf_local directory).bind fun _ =>
    (Disk.covered_local.create _ _).bind fun _ => addAll_local directory _ _ _)).bind fun _ =>
      (FailsWith.modify _).bind fun _ => .pure _

end Packing

end Dossier
