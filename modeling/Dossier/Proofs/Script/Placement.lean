import Dossier.Proofs.Script.Grammar
import Dossier.Proofs.Verdict

/-!
# Where destinations lie

A destination is read three times: it is checked, it is joined to the path of the output
directory, and verdicts ask whether it names responses and whether it lies in the output
directory itself.  The readings agree (`child_placed`).  What passes the check lies strictly below
the output directory, where its segments say and without any normalisation, and no two
destinations lie at one place.  What does not pass starts at the root, has a character it may not
have, or has a segment that names no entry of its own.
-/

namespace Dossier.Script.Destination

variable {d : String}

/-! ## Segments -/

/-- The segments are what stands between the slashes. -/
theorem segments_eq_splitOn (d : String) :
    (segments d).map String.toList = d.toList.splitOn '/' := by
  rw [segments, Text.piecesOf, List.map_map, Text.pieces_eq_splitOnP]
  exact List.map_id'' (fun cs => String.toList_ofList) _

/-- Only a destination without slashes lies in the output directory itself. -/
theorem directory_eq_nil_iff : directory d = [] ↔ '/' ∉ d.toList := by
  rw [directory, segments, Text.piecesOf, ← List.map_dropLast, List.map_eq_nil_iff]
  constructor
  · intro hnone hslash
    obtain ⟨piece, hpiece⟩ : ∃ piece, Text.pieces (· == '/') d.toList = [piece] :=
      ⟨_, (List.dropLast_concat_getLast (Text.pieces_ne_nil _ _)).symm.trans (by rw [hnone]; rfl)⟩
    have hjoin := Text.joinWith_pieces '/' d.toList
    rw [hpiece, Text.joinWith] at hjoin
    have hcut := Text.mem_of_mem_pieces (hpiece ▸ List.mem_singleton_self piece) (hjoin ▸ hslash)
    simpa using hcut.2
  · intro hslash
    have huncut : ∀ c ∈ d.toList, (c == '/') = false := fun c hc => by
      simpa using fun he : c = '/' => hslash (he ▸ hc)
    rw [Text.pieces_of_uncut huncut]
    rfl

theorem isIdle_iff {segment : String} :
    isIdle segment = true ↔ segment = "" ∨ segment = "." ∨ segment = ".." := by
  simp [isIdle, or_assoc]

/-- What is wrong with a destination that does not pass. -/
theorem not_safe_iff : ¬ Safe d ↔
    d.toList.head? = some '/' ∨ (∃ c ∈ d.toList, isHostile c = true) ∨
      ∃ segment ∈ segments d, segment = "" ∨ segment = "." ∨ segment = ".." := by
  simp only [safe_iff, not_and_or, not_forall, Classical.not_not, Bool.not_eq_false, isIdle_iff,
    exists_prop]
  exact or_left_comm

/-! ## Places -/

/-- A path is that of a destination in an output directory. -/
structure Placed (output : Path) (d : String) (path : Path) : Prop where
  /-- It goes on from that of the output directory with the segments of the destination. -/
  extends_output : path = ⟨output.anchor, output.parts ++ segments d⟩
  /-- These are what stands between the slashes. -/
  cut : (segments d).map String.toList = d.toList.splitOn '/'
  /-- There is one of them at least. -/
  below : segments d ≠ []
  /-- Each names an entry of its own. -/
  named : ∀ segment ∈ segments d, segment ≠ "" ∧ segment ≠ "." ∧ segment ≠ ".."
  /-- The path leads below the output directory, wherever that is. -/
  leads : ∀ here, path.location here = output.location here ++ segments d
  /-- The output directory is just above it if there are no slashes. -/
  parent : path.parent = output ↔ '/' ∉ d.toList
  /-- It is the path of responses if the last segment says so. -/
  responses : Verdict.isResponses d = true ↔ (segments d).getLast? = some "responses.pdf"

theorem placed_of_safe (hd : Safe d) (output : Path) : Placed output d (output.child d) where
  extends_output := child_of_safe hd output
  cut := segments_eq_splitOn d
  below := segments_ne_nil d
  named := (permitted_iff.mpr hd).segments
  leads := Verdict.location_child hd output
  parent := (Verdict.parent_child_eq_iff hd).trans directory_eq_nil_iff
  responses := Verdict.isResponses_iff hd

/-- A destination that passes the check lies strictly below the output directory, at a place of
its own.  One that does not starts at the root, has a character it may not have, or has a segment
that names no entry of its own. -/
theorem child_placed (output : Path) (d : String) :
    (Safe d → Placed output d (output.child d) ∧
      ∀ e, Safe e → output.child d = output.child e → d = e) ∧
    (¬ Safe d ↔ d.toList.head? = some '/' ∨ (∃ c ∈ d.toList, isHostile c = true) ∨
      ∃ segment ∈ segments d, segment = "" ∨ segment = "." ∨ segment = "..") := by
  refine ⟨fun hd => ⟨placed_of_safe hd output, fun e he heq => ?_⟩, not_safe_iff⟩
  rw [child_of_safe hd, child_of_safe he] at heq
  exact segments_inj (List.append_cancel_left (congrArg Path.parts heq))

/-- Responses lie one directory below an output directory that is itself given with two dots, and
a destination with two dots does not pass. -/
theorem responses_placed :
    Placed (Path.ofString "/a/../out") "s/responses.pdf" (Path.ofString "/a/../out/s/responses.pdf")
      ∧ Verdict.isResponses "s/responses.pdf" = true ∧ ¬ Safe "s/../responses.pdf" := by
  have hchild : (Path.ofString "/a/../out").child "s/responses.pdf" =
      Path.ofString "/a/../out/s/responses.pdf" := by decide +kernel
  have hplaced := ((child_placed (Path.ofString "/a/../out") "s/responses.pdf").1
    (by decide +kernel)).1
  rw [hchild] at hplaced
  refine ⟨hplaced, hplaced.responses.mpr (by decide +kernel), ?_⟩
  exact (child_placed (Path.ofString "/a/../out") "s/../responses.pdf").2.mpr
    (Or.inr (Or.inr ⟨"..", by decide +kernel, by decide⟩))

end Dossier.Script.Destination
