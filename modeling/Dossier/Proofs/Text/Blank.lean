import Dossier.Text.Blank

/-!
# Trimmed texts

A text is *trimmed* if there is no blank at either end of it.  Trimming gives a
trimmed text, and finds one again whatever blanks were put around it
(`trim_between`).
-/

namespace Dossier.Text

/-- There is no blank at either end of a text. -/
structure Trimmed (cs : List Char) : Prop where
  head : ∀ c ∈ cs.head?, isBlank c = false
  last : ∀ c ∈ cs.getLast?, isBlank c = false

theorem Trimmed.reverse {cs : List Char} (h : Trimmed cs) : Trimmed cs.reverse :=
  ⟨by simpa using h.last, by simpa using h.head⟩

/-- Blanks before a trimmed text are dropped, and no more. -/
theorem dropWhile_trimmed {before cs after : List Char}
    (hbefore : ∀ c ∈ before, isBlank c = true) (hafter : ∀ c ∈ after, isBlank c = true)
    (h : Trimmed cs) :
    (before ++ cs ++ after).dropWhile isBlank = if cs = [] then [] else cs ++ after := by
  rw [List.append_assoc, List.dropWhile_append_of_pos hbefore]
  cases cs with
  | nil =>
      rw [List.nil_append, if_pos rfl, ← List.append_nil after,
        List.dropWhile_append_of_pos hafter, List.dropWhile_nil]
  | cons c cs =>
      have hc := h.head c rfl
      rw [if_neg (by simp), List.cons_append, List.dropWhile_cons_of_neg (by simp [hc])]

/-- Blanks around a trimmed text are trimmed. -/
theorem trim_between {before cs after : List Char} (hbefore : ∀ c ∈ before, isBlank c = true)
    (hafter : ∀ c ∈ after, isBlank c = true) (h : Trimmed cs) :
    trim (before ++ cs ++ after) = cs := by
  rw [trim, trimLeft, dropWhile_trimmed hbefore hafter h, trimRight]
  split
  · rename_i hnil
    rw [hnil]
    rfl
  · rename_i hne
    have hlast := @dropWhile_trimmed _ _ []
      (fun c hc => hafter c (List.mem_reverse.mp hc)) nofun h.reverse
    rw [List.append_nil, List.append_nil, if_neg (by simpa using hne)] at hlast
    rw [List.reverse_append, hlast, List.reverse_reverse]

theorem trim_of_trimmed {cs : List Char} (h : Trimmed cs) : trim cs = cs := by
  simpa using @trim_between [] cs [] nofun nofun h

theorem head_dropWhile {cs : List Char} :
    ∀ c ∈ (cs.dropWhile isBlank).head?, isBlank c = false := by
  intro c hc
  have hhead := List.head?_dropWhile_not isBlank cs
  rwa [Option.mem_def.mp hc] at hhead

theorem trim_trimmed (cs : List Char) : Trimmed (trim cs) := by
  refine ⟨fun c hc => ?_, fun c hc => head_dropWhile c (List.getLast?_reverse ▸ hc)⟩
  have hprefix : trim cs <+: trimLeft cs := by
    rw [← List.reverse_reverse (trimLeft cs)]
    exact List.reverse_prefix.mpr (List.dropWhile_suffix _)
  obtain ⟨tail, htail⟩ := hprefix
  refine head_dropWhile c (?_ : c ∈ (trimLeft cs).head?)
  rw [← htail, List.head?_append, Option.mem_def.mp hc]
  rfl

theorem mem_of_mem_trim {cs : List Char} {c : Char} (h : c ∈ trim cs) : c ∈ cs := by
  rw [trim, trimRight, List.mem_reverse] at h
  exact (List.dropWhile_sublist _).subset
    (List.mem_reverse.mp ((List.dropWhile_sublist _).subset h))

/-- A blank at the head of a text does not matter. -/
theorem trim_cons_of_blank {c : Char} (hc : isBlank c = true) (cs : List Char) :
    trim (c :: cs) = trim cs := by
  rw [trim, trim, trimLeft, trimLeft, List.dropWhile_cons_of_pos hc]

end Dossier.Text
