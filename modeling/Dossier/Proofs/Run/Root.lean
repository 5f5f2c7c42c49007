import Dossier.Proofs.Run.Phases

/-!
# Where a run puts its output

The name that an accepted script gives its archive is one name, without slashes.
Joined to the output root it leads to the directory of that name in the root,
save for the two names that stand for a directory already: a dot stays in the
root, and two dots lead to the directory above it (`location_child_name`).
-/

namespace Dossier

variable {here : Location} {p : Path} {name : String}

/-! ## Plain names -/

/-- A location whose names can be names in a directory: none of them is two dots
or has a slash in it. -/
def Location.Plain (l : Location) : Prop := ∀ name ∈ l, name ≠ ".." ∧ '/' ∉ name.toList

instance (l : Location) : Decidable l.Plain :=
  inferInstanceAs (Decidable (∀ name ∈ l, name ≠ ".." ∧ '/' ∉ name.toList))

theorem Location.Plain.not_mem {l : Location} (h : l.Plain) : ".." ∉ l :=
  fun hm => (h _ hm).1 rfl

/-- The last of plain names has no slash in it. -/
theorem Location.Plain.not_mem_last {l : Location} (h : l.Plain) :
    '/' ∉ (l.getLast?.getD "").toList := by
  cases hl : l.getLast? with
  | none => simp
  | some name => exact (h name (List.mem_of_getLast? hl)).2

theorem Store.foldl_step_mem {names : List String} (h : name ∈ names.foldl Store.step here) :
    name ∈ here ∨ name ∈ names := by
  induction names generalizing here with
  | nil => exact Or.inl h
  | cons next rest ih =>
      rcases ih h with hstep | hrest
      · rw [Store.step] at hstep
        split at hstep
        · exact Or.inl (List.dropLast_subset _ hstep)
        · rcases List.mem_append.mp hstep with hhere | hnext
          · exact Or.inl hhere
          · exact Or.inr (List.mem_singleton.mp hnext ▸ List.mem_cons_self ..)
      · exact Or.inr (List.mem_cons_of_mem _ hrest)

/-- A path that is read from a text leads from plain names to plain names. -/
theorem Location.Plain.location (hhere : here.Plain) (hp : ∀ name ∈ p.parts, '/' ∉ name.toList) :
    (p.location here).Plain := by
  have hstart : (Store.startOf here p).Plain := by
    rw [Store.startOf]
    split
    · exact hhere
    · exact fun name hm => absurd hm List.not_mem_nil
  intro name hm
  refine ⟨fun he => Store.foldl_step_plain hstart.not_mem (he ▸ hm), ?_⟩
  rcases Store.foldl_step_mem hm with hs | hparts
  · exact (hstart name hs).2
  · exact hp name hparts

/-! ## Names of archives -/

namespace Script

/-- The name of an archive has no slashes, and is not empty. -/
theorem plain_of_isArchiveName (h : isArchiveName name.toList = true) :
    '/' ∉ name.toList ∧ name ≠ "" := by
  rw [isArchiveName, Bool.and_eq_true, List.all_eq_true] at h
  refine ⟨fun hm => ?_, fun he => ?_⟩
  · have := h.2 _ hm
    revert this
    decide
  · rw [he] at h
    exact absurd h.1 (by decide)

end Script

namespace Run

open Script (Directive Source Action)

variable {settings : Settings} {given : Provided} {env : Environment} {s s' : State}
  {report : Report}

/-- Where the name of an archive leads from a root. -/
def homeOf (root : Location) (name : String) : Location :=
  if name = "." then root else if name = ".." then root.dropLast else root ++ [name]

theorem location_child_name (hname : Script.isArchiveName name.toList = true) (root : Path) :
    (root.child name).location here = homeOf (root.location here) name := by
  obtain ⟨hslash, hempty⟩ := Script.plain_of_isArchiveName hname
  rw [Path.child, Path.ofString_of_plain hslash, Path.join, if_pos rfl, homeOf]
  show ((root.parts ++ _).foldl Store.step (Store.startOf here root)) = _
  rw [List.foldl_append]
  by_cases hdot : name = "."
  · rw [if_pos hdot, hdot]
    rfl
  · have hpart : Path.isPart name = true := by simp [Path.isPart, hempty, hdot]
    rw [if_neg hdot, List.filter_cons_of_pos hpart]
    rfl

/-- The names down to an output directory are plain. -/
theorem plain_child {text : String} (hhere : here.Plain)
    (hname : Script.isArchiveName name.toList = true) :
    (((Path.ofString text).child name).location here).Plain := by
  have hroot : ((Path.ofString text).location here).Plain :=
    hhere.location fun _ => Path.not_mem_of_mem_parts
  rw [location_child_name hname, homeOf]
  split
  · exact hroot
  · split
    · exact fun part hm => hroot part (List.dropLast_subset _ hm)
    · rename_i hdots
      intro part hm
      rcases List.mem_append.mp hm with hm | hm
      · exact hroot part hm
      · obtain rfl := List.mem_singleton.mp hm
        exact ⟨hdots, (Script.plain_of_isArchiveName hname).1⟩

/-- The name leads to the directory of that name in the root unless it is a dot
or two dots. -/
theorem homeOf_eq_iff (root : Location) (name : String) :
    homeOf root name = root ++ [name] ↔ name ≠ "." ∧ name ≠ ".." := by
  rw [homeOf]
  split
  · rename_i hdot
    simp [hdot]
  · rename_i hdot
    split
    · rename_i hdots
      refine ⟨fun h => ?_, fun h => absurd hdots h.2⟩
      have hlen := congrArg List.length h
      rw [List.length_dropLast, List.length_append, List.length_singleton] at hlen
      omega
    · rename_i hdots
      exact ⟨fun _ => ⟨hdot, hdots⟩, fun _ => rfl⟩

end Run

end Dossier
