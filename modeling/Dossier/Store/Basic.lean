import Dossier.Archive.Layout

/-!
# The store

A store is what a file system holds: directories, files and links, each at a
*location*, the list of names that leads to it from the root.  The root is a
directory and is always there.  The contents of a file are plain bytes, or the
members of an archive, whose bytes follow from them.

The view of a store is `get?`.  Each change says what it does to this view:
`put` at one location, `erase` at one location, and `eraseTree` at a location
and everywhere below it.  A store is *well formed* if everything in it lies in
a directory.
-/

namespace Dossier

/-- The names that lead from the root to a place in the store. -/
abbrev Location := List String

/-- The contents of a file. -/
inductive Content
  | plain (data : Bytes)
  | archive (members : List Archive.Member)
deriving DecidableEq, Repr

/-- The bytes of a file. -/
def Content.bytes : Content → Bytes
  | .plain data => data
  | .archive members => Archive.encode members

/-- The size of a file. -/
def Content.size (c : Content) : Nat := c.bytes.length

/-- What lies at a location. -/
inductive Entry
  | directory
  | file (content : Content)
  | link (target : String)
deriving DecidableEq, Repr

namespace Entry

/-- It is a directory. -/
def isDirectory : Entry → Bool
  | .directory => true
  | _ => false

/-- The size that is given for a directory. -/
def directorySize : Nat := 4096

/-- The size that is given for an entry. -/
def size : Entry → Nat
  | .directory => directorySize
  | .file content => content.size
  | .link target => target.utf8ByteSize

end Entry

/-- A file system. -/
structure Store where
  entries : List (Location × Entry) := []
deriving DecidableEq, Repr

namespace Store

/-! ## The view -/

/-- What lies at a location, if anything. -/
def get? (s : Store) (l : Location) : Option Entry :=
  if l = [] then some .directory else s.entries.lookup l

/-- A store whose entries all lie in directories. -/
def WellFormed (s : Store) : Prop :=
  ∀ l e, s.get? l = some e → s.get? l.dropLast = some .directory

/-- A store without links. -/
def LinkFree (s : Store) : Prop := ∀ l target, s.get? l ≠ some (.link target)

/-! ## Changes -/

/-- A store with an entry at a location, in place of any that was there. -/
def put (s : Store) (l : Location) (e : Entry) : Store :=
  ⟨(l, e) :: s.entries.filter fun x => x.1 != l⟩

/-- A store without the entry at a location. -/
def erase (s : Store) (l : Location) : Store := ⟨s.entries.filter fun x => x.1 != l⟩

/-- A store without a location and everything below it. -/
def eraseTree (s : Store) (l : Location) : Store :=
  ⟨s.entries.filter fun x => !l.isPrefixOf x.1⟩

/-- A store without what lies below a location. -/
def eraseBelow (s : Store) (l : Location) : Store :=
  ⟨s.entries.filter fun x => !(l.isPrefixOf x.1 && x.1 != l)⟩

/-! ## Looking up after a change -/

theorem lookup_cons_of_ne {l m : Location} (h : l ≠ m) (e : Entry) (xs : List (Location × Entry)) :
    List.lookup l ((m, e) :: xs) = List.lookup l xs := by
  have hb : (l == m) = false := by simpa using h
  rw [List.lookup_cons, hb]

theorem lookup_filter_of_pos {p : Location × Entry → Bool} {l : Location} :
    ∀ {xs : List (Location × Entry)}, (∀ e, p (l, e) = true) → (xs.filter p).lookup l = xs.lookup l
  | [], _ => rfl
  | (m, e) :: rest, h => by
      by_cases hm : l = m
      · subst hm
        simp [h e]
      · rw [lookup_cons_of_ne hm]
        by_cases hp : p (m, e) = true
        · rw [List.filter_cons_of_pos hp, lookup_cons_of_ne hm, lookup_filter_of_pos h]
        · rw [List.filter_cons_of_neg hp, lookup_filter_of_pos h]

theorem lookup_filter_of_neg {p : Location × Entry → Bool} {l : Location} :
    ∀ {xs : List (Location × Entry)}, (∀ e, p (l, e) = false) → (xs.filter p).lookup l = none
  | [], _ => rfl
  | (m, e) :: rest, h => by
      by_cases hp : p (m, e) = true
      · have hm : l ≠ m := fun hl => by subst hl; simp [h e] at hp
        rw [List.filter_cons_of_pos hp, lookup_cons_of_ne hm, lookup_filter_of_neg h]
      · rw [List.filter_cons_of_neg hp, lookup_filter_of_neg h]

@[simp] theorem get?_root (s : Store) : s.get? [] = some .directory := by simp [get?]

theorem get?_of_ne (s : Store) {l : Location} (h : l ≠ []) : s.get? l = s.entries.lookup l := by
  simp [get?, h]

/-- A put is seen at its location and nowhere else. -/
theorem get?_put (s : Store) (l m : Location) (e : Entry) (hl : l ≠ []) :
    (s.put l e).get? m = if m = l then some e else s.get? m := by
  by_cases hm : m = l
  · subst hm
    simp [get?, put, hl]
  · by_cases hr : m = []
    · simp [hr, Ne.symm hl]
    · rw [if_neg hm, get?_of_ne _ hr, get?_of_ne _ hr, put, lookup_cons_of_ne hm]
      exact lookup_filter_of_pos fun e => by simpa using hm

/-- Only the last of two puts at a location is left. -/
theorem put_put (s : Store) (l : Location) (e f : Entry) : (s.put l e).put l f = s.put l f := by
  simp [put]

/-- An erasure is seen at its location and nowhere else. -/
theorem get?_erase (s : Store) (l m : Location) (hl : l ≠ []) :
    (s.erase l).get? m = if m = l then none else s.get? m := by
  by_cases hm : m = l
  · subst hm
    rw [if_pos rfl, get?_of_ne _ hl]
    exact lookup_filter_of_neg fun e => by simp
  · by_cases hr : m = []
    · simp [hr, Ne.symm hl]
    · rw [if_neg hm, get?_of_ne _ hr, get?_of_ne _ hr]
      exact lookup_filter_of_pos fun e => by simpa using hm

/-- The erasure of a tree is seen at its root and below it and nowhere else. -/
theorem get?_eraseTree (s : Store) (l m : Location) (hl : l ≠ []) :
    (s.eraseTree l).get? m = if l <+: m then none else s.get? m := by
  by_cases hr : m = []
  · subst hr
    simp [hl]
  · rw [get?_of_ne _ hr, get?_of_ne _ hr]
    by_cases hm : l <+: m
    · rw [if_pos hm]
      exact lookup_filter_of_neg fun e => by simpa using hm
    · rw [if_neg hm]
      exact lookup_filter_of_pos fun e => by
        simpa [Bool.eq_false_iff, List.isPrefixOf_iff_prefix] using hm

/-- The erasure of what lies below a location is seen there and nowhere else. -/
theorem get?_eraseBelow (s : Store) (l m : Location) :
    (s.eraseBelow l).get? m = if l <+: m ∧ m ≠ l then none else s.get? m := by
  by_cases hr : m = []
  · subst hr
    rw [if_neg fun h => h.2 (List.prefix_nil.mp h.1).symm, get?_root, get?_root]
  · rw [get?_of_ne _ hr, get?_of_ne _ hr]
    by_cases hm : l <+: m ∧ m ≠ l
    · rw [if_pos hm]
      exact lookup_filter_of_neg fun e => by simpa using hm
    · rw [if_neg hm]
      exact lookup_filter_of_pos fun e => by
        simpa [Bool.eq_false_iff, List.isPrefixOf_iff_prefix, Decidable.imp_iff_not_or] using hm

end Store

end Dossier
