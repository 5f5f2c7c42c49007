import Dossier.Proofs.Store.Calls
import Dossier.Proofs.Script.Shape

/-!
# The places of destinations

Where the destinations of a script lie in its output directory, and what saving
or clearing one of them does to the places of the others.

If destinations are prefix-free, saving one leaves the places of the others as
they were (`saved_other`).  Clearing responses empties all that lies *beside*
them, in their directory, and nothing else (`emptied_of_beside`,
`emptied_of_not_beside`).
-/

namespace Dossier

/-- Where a destination lies in an output directory. -/
def Run.place (output : Location) (destination : String) : Location :=
  output ++ Script.Destination.segments destination

/-- A location lies beside a destination: in its directory, or at its own place
if that is in the output directory. -/
def Run.Beside (output : Location) (d : String) (l : Location) : Prop :=
  if Script.Destination.directory d = [] then l = Run.place output d
  else output ++ Script.Destination.directory d <+: l

/-- A view without what is cleared for responses at a location: their directory,
or they alone if they lie in the output directory itself. -/
def Store.View.emptied (v : View) (output l : Location) : View :=
  if l.dropLast = output then v.erased l else v.cleared l.dropLast

namespace Run

variable {output : Location} {destination : String}

theorem place_ne_nil (output : Location) (destination : String) : place output destination ≠ [] :=
  fun h => Script.Destination.segments_ne_nil destination (List.append_eq_nil_iff.mp h).2

theorem dropLast_place (output : Location) (destination : String) :
    (place output destination).dropLast =
      output ++ Script.Destination.directory destination :=
  List.dropLast_append_of_ne_nil (Script.Destination.segments_ne_nil destination)

theorem place_inj {other : String} (h : place output destination = place output other) :
    destination = other :=
  Script.Destination.segments_inj (List.append_cancel_left h)

theorem not_mem_place (ho : ".." ∉ output) (hd : Script.Destination.Safe destination) :
    ".." ∉ place output destination := by
  rw [place, List.mem_append, not_or]
  exact ⟨ho, Script.Destination.not_mem_segments hd⟩

/-- The path of a destination is the path of its place. -/
theorem child_path (hd : Script.Destination.Safe destination) (output : Location) :
    (Location.path output).child destination = Location.path (place output destination) :=
  Script.Destination.child_of_safe hd _

theorem holdsNul_place (ho : (Location.path output).holdsNul = false)
    (hd : Script.Destination.Safe destination) :
    (Location.path (place output destination)).holdsNul = false := by
  rw [Path.holdsNul, List.any_eq_false] at ho ⊢
  intro part hpart
  cases List.mem_append.mp hpart with
  | inl h => exact ho part h
  | inr h => simpa using Script.Destination.nul_not_mem hd h

/-- The place of a destination lies at or above that of another one if its
segments come first. -/
theorem place_prefix_iff {d e : String} : place output d <+: place output e ↔
    Script.Destination.segments d <+: Script.Destination.segments e :=
  List.prefix_append_right_inj output

/-! ## What saving does to places -/

variable {v : Store.View}

theorem output_ne_place (output : Location) (destination : String) :
    output ≠ place output destination := fun h =>
  Script.Destination.segments_ne_nil destination (List.append_right_eq_self.mp h.symm)

/-- Saving a destination leaves the output directory in place. -/
theorem saved_output (destination : String) (c : Content) (h : v output = some .directory) :
    v.saved (place output destination) c output = some .directory := by
  rw [Store.View.saved, if_neg (output_ne_place output destination), Store.View.opened_of_some h]

section PrefixFree

variable {ds : List String} {d e : String} (hfree : Script.PrefixFree ds) (hd : d ∈ ds)
  (he : e ∈ ds) (hne : e ≠ d)
include hfree hd he

/-- No destination lies above another one. -/
theorem not_prefix_dropLast_place : ¬ place output e <+: (place output d).dropLast := by
  intro hp
  have heq := hfree e he d hd (place_prefix_iff.mp (hp.trans (List.dropLast_prefix _)))
  subst heq
  have hlen := hp.length_le
  rw [List.length_dropLast] at hlen
  have hpos := List.length_pos_iff.mpr (place_ne_nil output e)
  omega

include hne

/-- Saving a destination leaves the places of the others as they were. -/
theorem saved_other (c : Content) : v.saved (place output d) c (place output e) =
    v (place output e) := by
  rw [Store.View.saved, if_neg fun h => hne (place_inj h),
    Store.View.opened_of_not_prefix (not_prefix_dropLast_place hfree hd he)]

end PrefixFree

/-! ## What lies beside a destination -/

variable {l : Location} {d e : String}

theorem beside_place (output : Location) (d : String) : Beside output d (place output d) := by
  rw [Beside]
  split
  · rfl
  · rw [← dropLast_place]
    exact List.dropLast_prefix _

theorem beside_place_iff (hne : e ≠ d) : Beside output d (place output e) ↔
    Script.Destination.directory d ≠ [] ∧
      Script.Destination.directory d <+: Script.Destination.segments e := by
  rw [Beside]
  split
  · rename_i hnil
    exact ⟨fun h => absurd (place_inj h) hne, fun h => absurd hnil h.1⟩
  · rename_i hnil
    exact ⟨fun h => ⟨hnil, (List.prefix_append_right_inj output).mp h⟩,
      fun h => (List.prefix_append_right_inj output).mpr h.2⟩

/-- What lies beside a destination is not the output directory. -/
theorem Beside.ne_output (h : Beside output d l) : l ≠ output := by
  rw [Beside] at h
  split at h
  · rw [h]
    exact (output_ne_place output d).symm
  · rename_i hnil
    rintro rfl
    exact hnil (List.append_right_eq_self.mp
      (h.eq_of_length_le (List.prefix_append _ _).length_le))

/-- What lies beside a destination that lies beside another one lies beside that
one too. -/
theorem Beside.trans {ds : List String} (hfree : Script.PrefixFree ds) (hd : d ∈ ds) (he : e ∈ ds)
    (hne : e ≠ d) (h : Beside output d (place output e)) (hl : Beside output e l) :
    Beside output d l := by
  obtain ⟨hnil, hp⟩ := (beside_place_iff hne).mp h
  have hnot : Script.Destination.directory d ≠ Script.Destination.segments e := fun heq =>
    hne (hfree e he d hd (heq ▸ List.dropLast_prefix _))
  rw [Beside] at hl
  rw [Beside, if_neg hnil]
  split at hl
  · rw [hl]
    exact (List.prefix_append_right_inj output).mpr hp
  · exact ((List.prefix_append_right_inj output).mpr (Store.prefix_dropLast hp hnot)).trans hl

/-! ## What clearing does -/

theorem emptied_of_beside (h : Beside output d l) :
    v.emptied output (place output d) l = none := by
  rw [Beside] at h
  rw [Store.View.emptied, dropLast_place]
  split at h
  · rename_i hnil
    rw [if_pos (by rw [hnil, List.append_nil]), Store.View.erased, if_pos h]
  · rename_i hnil
    rw [if_neg fun he => hnil (List.append_right_eq_self.mp he), Store.View.cleared, if_pos h]

theorem emptied_of_not_beside (h : ¬ Beside output d l) :
    v.emptied output (place output d) l = v l := by
  rw [Beside] at h
  rw [Store.View.emptied, dropLast_place]
  split at h
  · rename_i hnil
    rw [if_pos (by rw [hnil, List.append_nil]), Store.View.erased, if_neg h]
  · rename_i hnil
    rw [if_neg fun he => hnil (List.append_right_eq_self.mp he), Store.View.cleared, if_neg h]

/-- Clearing responses leaves the output directory in place. -/
theorem emptied_output (destination : String) :
    v.emptied output (place output destination) output = v output :=
  emptied_of_not_beside fun h => h.ne_output rfl

/-- Clearing responses empties the places in their directory and leaves those of
other destinations as they were. -/
theorem emptied_other (hne : e ≠ d) : v.emptied output (place output d) (place output e) =
    if Script.Destination.directory d ≠ [] ∧
        Script.Destination.directory d <+: Script.Destination.segments e then none
    else v (place output e) := by
  split
  · rename_i h
    exact emptied_of_beside ((beside_place_iff hne).mpr h)
  · rename_i h
    exact emptied_of_not_beside fun hbeside => h ((beside_place_iff hne).mp hbeside)

end Run

end Dossier
