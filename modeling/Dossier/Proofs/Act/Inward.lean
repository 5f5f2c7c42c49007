import Dossier.Proofs.Act.Keeping

/-!
# What a run does by itself

Much of what a run does calls neither on the network nor on the browser: it changes
the store, takes notes and fills in how its report ends.  A relation between states is
*inward* if all of this stays within it, *reporting* if notes and the end of the report
do, and *tacit* if changes of the store do and notes that give no report.

Reaching a verdict, making the output directory and packing it follow every tacit
relation, and completing a run follows every inward one (`Inward.follows_complete`).  To
end a run with a fault a relation need only be reporting (`Reporting.follows_fail`).
-/

namespace Dossier

open Act (Chained Follows)

/-- A relation that notes and the end of the report stay within. -/
structure Act.Reporting (R : State → State → Prop) : Prop extends Chained R where
  note : ∀ s n, R s { s with notes := s.notes ++ [n] }
  report : ∀ s status elapsed archive, R s { s with report := { s.report with
    status := status, elapsed := elapsed, archivePath := archive } }

/-- A relation that changes of the store and notes that give no report stay within. -/
structure Act.Tacit (R : State → State → Prop) : Prop extends Chained R where
  tell : ∀ s n, n.report? = none → R s { s with notes := s.notes ++ [n] }
  store : ∀ s store, R s { s with store := store }

/-- A reporting relation that changes of the store stay within. -/
structure Act.Inward (R : State → State → Prop) : Prop extends Reporting R, Tacit R where
  tell := fun s n _ => note s n

variable {env : Environment} {R : State → State → Prop} {settings : Settings}

/-! ## Questions -/

namespace Act.Chained

variable (hR : Chained R)
include hR

theorem follows_smallSize? (output : Path) (destination : String) :
    Follows env R (Verdict.smallSize? settings output destination) := by
  unfold Verdict.smallSize?
  split
  · exact .ite (.bind hR (hR.follows_size _) fun _ => .pure hR _)
      (.pure hR _)
  · exact .pure hR _

theorem follows_failIf : ∀ fault? : Option Fault, Follows env R (Disk.failIf fault?)
  | none => .pure hR _
  | some fault => .throw hR fault

theorem follows_filesOf (directory : Path) : Follows env R (Packing.filesOf directory) := by
  refine .bind hR (hR.follows_look _ _) fun place =>
    .bind hR (.get hR) fun s => ?_
  cases place with
  | none => exact .pure hR _
  | some l =>
      dsimp only
      split
      · exact .throw hR _
      · exact .pure hR _

end Act.Chained

/-! ## Reporting -/

namespace Act.Reporting

variable (hR : Reporting R)
include hR

theorem follows_note (n : Note) : Follows env R (Act.note n) := .modify fun s => hR.note s n

theorem follows_conclude (status : String) : Follows env R (Run.conclude status) :=
  .bind hR.toChained (.get hR.toChained) fun _ =>
    .modify fun s => hR.report s status _ s.report.archivePath

theorem follows_noteReport : Follows env R Run.noteReport :=
  .bind hR.toChained (.get hR.toChained) fun _ => hR.follows_note _

/-- A run that ends with a fault. -/
theorem follows_fail (fault : Fault) : Follows env R (Run.fail fault) := by
  unfold Run.fail
  split
  · exact .bind hR.toChained (hR.follows_conclude _) fun _ =>
      .bind hR.toChained hR.follows_noteReport fun _ => .throw hR.toChained _
  · exact .throw hR.toChained _

end Act.Reporting

namespace Act.Tacit

variable (hR : Tacit R)
include hR

theorem follows_tell {n : Note} (h : n.report? = none) : Follows env R (Act.note n) :=
  .modify fun s => hR.tell s n h

theorem follows_change (p : Path) (call : Store → Location → Path → Except Errno Store) :
    Follows env R (Disk.change p call) :=
  hR.toChained.follows_change fun s changed _ => hR.store s changed

theorem follows_changeUntil (p : Path)
    (call : Store → Location → Path → Store × Option Fault) :
    Follows env R (Disk.changeUntil p call) :=
  hR.toChained.follows_changeUntil fun s => hR.store s _

/-! ## Verdicts -/

theorem follows_clear (output directory : Path) :
    Follows env R (Verdict.clear output directory) :=
  (Follows.ite (hR.follows_change _ _) (hR.follows_changeUntil _ _)).mapFault _

theorem follows_onPresent (output : Path) (destination : String) :
    Follows env R (Verdict.onPresent settings output destination) := by
  refine .bind hR.toChained (hR.toChained.follows_smallSize? _ _) fun small => ?_
  cases small with
  | none => exact .bind hR.toChained (hR.follows_tell rfl) fun _ => .pure hR.toChained _
  | some size =>
      exact .bind hR.toChained (hR.follows_tell rfl) fun _ =>
        .bind hR.toChained (hR.follows_clear _ _) fun _ => .pure hR.toChained _

theorem follows_reach (output : Path) (destination : String) :
    Follows env R (Verdict.reach settings output destination) := by
  unfold Verdict.reach
  split
  · exact .ite (.pure hR.toChained _)
      (.bind hR.toChained (hR.follows_tell rfl) fun _ => .pure hR.toChained _)
  · exact .bind hR.toChained (hR.toChained.follows_look _ _) fun _ =>
      .ite (hR.follows_onPresent _ _) (.pure hR.toChained _)

/-! ## The output directory -/

theorem follows_prepare (name : String) : Follows env R (Run.prepare settings name) := by
  have hresolve : ∀ p, Follows env R (Run.resolve p) := fun p =>
    .bind hR.toChained (hR.toChained.follows_checkPath p) fun _ =>
      .bind hR.toChained (.environment hR.toChained) fun _ =>
        .bind hR.toChained (.get hR.toChained) fun _ =>
          .bind hR.toChained (.ofExcept hR.toChained _ _) fun _ => .pure hR.toChained _
  exact .bind hR.toChained (hresolve _) fun _ =>
    .bind hR.toChained ((hR.follows_changeUntil _ _).mapFault _) fun _ =>
      .bind hR.toChained (hR.follows_tell rfl) fun _ => .pure hR.toChained _

/-! ## Packing -/

theorem follows_create (p : Path) (content : Content) : Follows env R (Disk.create p content) :=
  .bind hR.toChained (hR.toChained.follows_checkPath p) fun _ =>
    .bind hR.toChained (hR.toChained.follows_look _ _) fun _ =>
      .bind hR.toChained (.modify fun s => hR.store s _) fun _ => .pure hR.toChained _

theorem follows_addAll (directory : Path) (place : Location) :
    ∀ (made : List Archive.Member) (files : List (Location × Content)),
      Follows env R (Packing.addAll directory place made files)
  | _, [] => .pure hR.toChained _
  | _, _ :: rest => .bind hR.toChained (.environment hR.toChained) fun _ =>
      .bind hR.toChained (hR.toChained.follows_failIf _) fun _ =>
        .bind hR.toChained (.modify fun s => hR.store s _) fun _ =>
          follows_addAll directory place _ rest

theorem follows_pack (directory : Path) : Follows env R (Packing.pack directory) :=
  .bind hR.toChained (Follows.mapFault
      (.bind hR.toChained (hR.toChained.follows_filesOf _) fun _ =>
        .bind hR.toChained (hR.follows_create _ _) fun _ => hR.follows_addAll _ _ _ _) _) fun _ =>
    .bind hR.toChained (hR.follows_tell rfl) fun _ => .pure hR.toChained _

end Act.Tacit

/-! ## Completing -/

namespace Act.Inward

variable (hR : Inward R)
include hR

theorem follows_complete (output : Path) : Follows env R (Run.complete output) :=
  .bind hR.toChained (hR.follows_pack output) fun path =>
    .bind hR.toChained
      (.modify fun s => hR.report s s.report.status s.report.elapsed (some path)) fun _ =>
    .bind hR.toChained (hR.follows_conclude _) fun _ => .bind hR.toChained (.get hR.toChained)
      fun _ => .bind hR.toChained (.ofExcept hR.toChained _ _) fun _ =>
        .bind hR.toChained (hR.follows_note _) fun _ =>
          .bind hR.toChained hR.follows_noteReport fun _ => .bind hR.toChained (.get hR.toChained)
            fun _ => .pure hR.toChained _

end Act.Inward

end Dossier
