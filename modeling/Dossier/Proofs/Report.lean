import Dossier.Report
import Dossier.Proofs.Text.Order
import Mathlib

/-!
# Reports in any order

The counts of a report are a histogram of its skips: every category that occurs, once, with the
number of skips of it (`histogram_skipCounts`).  In the order of their names there is only one such
list (`Histogram.unique`).

So the summary of a report does not depend on the order in which it was told what happened, and
it says of every part of what happened just what there is to say (`tellAll_tells`).
-/

namespace Dossier.Report

open Text (NameBefore)

variable {category c : String} {n : Nat} {counts counts' : List (String × Nat)}
  {skips skips' : List Skip} {r r' r'' : Report}

/-! ## Counting one -/

theorem countOne_of_not_mem (h : category ∉ counts.map Prod.fst) :
    countOne category counts = counts ++ [(category, 1)] := by
  induction counts with
  | nil => rfl
  | cons first rest ih =>
      rw [List.map_cons, List.mem_cons, not_or] at h
      rw [countOne, if_neg (Ne.symm h.1), ih h.2, List.cons_append]

theorem countOne_of_mem (hnodup : (counts.map Prod.fst).Nodup)
    (h : category ∈ counts.map Prod.fst) :
    countOne category counts =
      counts.map fun x => if x.1 = category then (x.1, x.2 + 1) else x := by
  induction counts with
  | nil => nomatch h
  | cons first rest ih =>
      rw [List.map_cons, List.nodup_cons] at hnodup
      rw [countOne, List.map_cons]
      by_cases hfirst : first.1 = category
      · have hrest : ∀ x ∈ rest, (if x.1 = category then (x.1, x.2 + 1) else x) = x := by
          intro x hx
          refine if_neg fun heq => hnodup.1 ?_
          rw [hfirst, ← heq]
          exact List.mem_map_of_mem hx
        rw [if_pos hfirst, if_pos hfirst, List.map_congr_left hrest, List.map_id']
      · have hmem := (List.mem_cons.mp h).resolve_left (Ne.symm hfirst)
        rw [if_neg hfirst, if_neg hfirst, ih hnodup.2 hmem]

theorem mem_countOne_self (hnodup : (counts.map Prod.fst).Nodup)
    (h : category ∈ counts.map Prod.fst) :
    (category, n) ∈ countOne category counts ↔ ∃ m, (category, m) ∈ counts ∧ n = m + 1 := by
  rw [countOne_of_mem hnodup h, List.mem_map]
  constructor
  · rintro ⟨⟨c, m⟩, hm, heq⟩
    split at heq <;> cases heq
    · exact ⟨m, hm, rfl⟩
    · contradiction
  · rintro ⟨m, hm, rfl⟩
    exact ⟨(category, m), hm, if_pos rfl⟩

/-- The counts of the other categories stay as they are. -/
theorem mem_countOne_of_ne (h : c ≠ category) :
    (c, n) ∈ countOne category counts ↔ (c, n) ∈ counts := by
  induction counts with
  | nil => simp [countOne, h]
  | cons first rest ih =>
      rw [countOne]
      split
      · next hfirst =>
        have hne : ∀ m, (c, n) ≠ (first.1, m) := fun m heq => h (hfirst ▸ congrArg Prod.fst heq)
        rw [List.mem_cons, List.mem_cons, or_iff_right (hne _), or_iff_right (hne first.2)]
      · rw [List.mem_cons, List.mem_cons, ih]

/-- Whatever is counted, one more is counted in all. -/
theorem sum_countOne (category : String) (counts : List (String × Nat)) :
    ((countOne category counts).map Prod.snd).sum = (counts.map Prod.snd).sum + 1 := by
  induction counts with
  | nil => rfl
  | cons first rest ih =>
      rw [countOne]
      split
      · simp only [List.map_cons, List.sum_cons]
        omega
      · simp only [List.map_cons, List.sum_cons, ih]
        omega

theorem nodup_countOne (h : (counts.map Prod.fst).Nodup) :
    ((countOne category counts).map Prod.fst).Nodup := by
  by_cases hmem : category ∈ counts.map Prod.fst
  · have hkeys : ∀ x ∈ counts,
        (Prod.fst ∘ fun x => if x.1 = category then (x.1, x.2 + 1) else x) x = x.1 := by
      intro x _
      dsimp only [Function.comp_apply]
      split <;> rfl
    rwa [countOne_of_mem h hmem, List.map_map, List.map_congr_left hkeys]
  · rw [countOne_of_not_mem hmem, List.map_append]
    exact h.append (List.nodup_singleton _) (by simpa using hmem)

/-! ## Histograms -/

/-- Counts are a histogram of skips: they have every category that occurs, once, with the number
of skips of it. -/
structure Histogram (skips : List Skip) (counts : List (String × Nat)) : Prop where
  once : (counts.map Prod.fst).Nodup
  mem : ∀ c n, (c, n) ∈ counts ↔ 0 < n ∧ n = skips.countP (·.category = c)
  total : (counts.map Prod.snd).sum = skips.length

namespace Histogram

/-- A category that is counted occurs. -/
theorem mem_keys_iff (h : Histogram skips counts) :
    c ∈ counts.map Prod.fst ↔ 0 < skips.countP (·.category = c) := by
  rw [List.mem_map]
  constructor
  · rintro ⟨⟨_, n⟩, hmem, rfl⟩
    obtain ⟨hpos, rfl⟩ := (h.mem _ n).mp hmem
    exact hpos
  · exact fun hpos => ⟨(c, _), (h.mem c _).mpr ⟨hpos, rfl⟩, rfl⟩

/-- One more skip is counted. -/
theorem step (h : Histogram skips counts) (s : Skip) :
    Histogram (skips ++ [s]) (countOne s.category counts) where
  once := nodup_countOne h.once
  mem c n := by
    rw [List.countP_append, List.countP_singleton]
    by_cases hc : s.category = c
    · subst hc
      rw [decide_eq_true rfl, if_pos rfl]
      -- A category that occurred already has one more; a new one had none.
      by_cases hmem : s.category ∈ counts.map Prod.fst
      · rw [mem_countOne_self h.once hmem]
        constructor
        · rintro ⟨m, hm, rfl⟩
          obtain ⟨-, rfl⟩ := (h.mem _ m).mp hm
          exact ⟨Nat.succ_pos _, rfl⟩
        · rintro ⟨-, rfl⟩
          exact ⟨_, (h.mem _ _).mpr ⟨h.mem_keys_iff.mp hmem, rfl⟩, rfl⟩
      · have hnone : skips.countP (·.category = s.category) = 0 :=
          Nat.eq_zero_of_not_pos (mt h.mem_keys_iff.mpr hmem)
        rw [countOne_of_not_mem hmem, List.mem_append, List.mem_singleton, h.mem, hnone]
        simp only [Prod.mk.injEq, true_and]
        omega
    · rw [decide_eq_false hc, if_neg Bool.false_ne_true, Nat.add_zero, ← h.mem,
        mem_countOne_of_ne (Ne.symm hc)]
  total := by rw [sum_countOne, h.total, List.length_append, List.length_singleton]

/-- The order of the counts does not matter, and neither does that of the skips. -/
theorem of_perm (h : Histogram skips counts) (hs : skips.Perm skips')
    (hc : counts.Perm counts') : Histogram skips' counts' where
  once := (hc.map _).nodup_iff.mp h.once
  mem c n := by rw [← hc.mem_iff, h.mem, hs.countP_eq]
  total := by rw [← (hc.map _).sum_eq, h.total, hs.length_eq]

/-- There is only one histogram, but for its order. -/
theorem perm (h : Histogram skips counts) (h' : Histogram skips counts') :
    counts.Perm counts' := by
  refine (List.perm_ext_iff_of_nodup h.once.of_map h'.once.of_map).mpr ?_
  rintro ⟨c, n⟩
  rw [h.mem, h'.mem]

/-- In the order of the names there is only one. -/
theorem unique (h : Histogram skips counts) (h' : Histogram skips counts')
    (hs : counts.Pairwise fun a b => NameBefore a.1 b.1)
    (hs' : counts'.Pairwise fun a b => NameBefore a.1 b.1) : counts = counts' := by
  refine List.Perm.eq_of_pairwise ?_ hs hs' (h.perm h')
  intro a b _ _ hab hba
  have heq : a.1 = b.1 := Text.linear_nameLE.antisymm (Text.nameLE_iff.mpr (Or.inr hab))
    (Text.nameLE_iff.mpr (Or.inr hba))
  rw [heq] at hab
  exact absurd hab (Text.not_nameBefore_self _)

end Histogram

theorem histogram_skipCounts (r : Report) : Histogram r.skips.toList r.skipCounts := by
  rw [skipCounts, ← Array.foldl_toList]
  induction r.skips.toList using List.reverseRecOn with
  | nil => exact ⟨List.nodup_nil, fun _ _ => ⟨nofun, fun h => absurd h.2 (Nat.ne_of_gt h.1)⟩, rfl⟩
  | append_singleton skips s ih =>
      rw [List.foldl_append]
      exact ih.step s

theorem histogram_sortedCounts (r : Report) : Histogram r.skips.toList r.sortedCounts :=
  r.histogram_skipCounts.of_perm (List.Perm.refl _) (List.mergeSort_perm _ _).symm

theorem sortedCounts_pairwise (r : Report) :
    r.sortedCounts.Pairwise fun a b => NameBefore a.1 b.1 := by
  have htotal : ∀ a b : String × Nat, (nameLE a.1 b.1 || nameLE b.1 a.1) = true := fun a b =>
    (Bool.or_eq_true _ _).mpr (Text.linear_nameLE.total a.1 b.1)
  have htrans : ∀ a b c : String × Nat, nameLE a.1 b.1 = true → nameLE b.1 c.1 = true →
      nameLE a.1 c.1 = true := fun _ _ _ => Text.linear_nameLE.trans
  have hordered := List.pairwise_mergeSort htrans htotal r.skipCounts
  have hnodup := List.pairwise_map.mp r.histogram_sortedCounts.once
  exact (hordered.and hnodup).imp fun h => (Text.nameLE_iff.mp h.1).resolve_left h.2

/-- Reports of as much fetched, and of the same skips in any order, have the same summary. -/
theorem summary?_congr (hfetched : r.fetched.size = r'.fetched.size)
    (hrefetched : r.refetched.size = r'.refetched.size)
    (hskips : r.skips.toList.Perm r'.skips.toList) (hbytes : r.bytesWritten = r'.bytesWritten) :
    r.summary? = r'.summary? := by
  -- The order in which categories first occur is lost in the order of their names.
  have hcounts : r.sortedCounts = r'.sortedCounts :=
    (r.histogram_sortedCounts.of_perm hskips (List.Perm.refl _)).unique r'.histogram_sortedCounts
      r.sortedCounts_pairwise r'.sortedCounts_pairwise
  have hsize : r.skips.size = r'.skips.size := hskips.length_eq
  have hempty : r.skips.isEmpty = r'.skips.isEmpty := by rw [Array.isEmpty, Array.isEmpty, hsize]
  have hagain : r.refetched.isEmpty = r'.refetched.isEmpty := by
    rw [Array.isEmpty, Array.isEmpty, hrefetched]
  have hwith : r.summaryWith = r'.summaryWith := by
    funext size
    rw [summaryWith, summaryWith, hfetched, hagain, hrefetched, hempty, hsize, hcounts]
  rw [summary?, summary?, hbytes, hwith]

/-! ## Telling a report -/

/-- What a report is told. -/
inductive Call where
  | fetch (item : String) (size : Int)
  | refetch (item : String)
  | skip (category item : String)

namespace Call

/-- The bytes that are written with it. -/
def size : Call → Int
  | .fetch _ size => size
  | _ => 0

def fetched? : Call → Option String
  | .fetch item _ => some item
  | _ => none

def refetched? : Call → Option String
  | .refetch item => some item
  | _ => none

def skip? : Call → Option Skip
  | .skip category item => some ⟨category, item⟩
  | _ => none

end Call

variable {calls calls' : List Call}

/-- A report that is told one thing more. -/
def tell (r : Report) : Call → Report
  | .fetch item size => r.withFetch item size
  | .refetch item => r.withRefetch item
  | .skip category item => r.withSkip category item

def tellAll (r : Report) (calls : List Call) : Report := calls.foldl tell r

/-- A report has what another one has, and then what it was told. -/
structure Told (r : Report) (calls : List Call) (r' : Report) : Prop where
  fetched : r'.fetched.toList = r.fetched.toList ++ calls.filterMap Call.fetched?
  refetched : r'.refetched.toList = r.refetched.toList ++ calls.filterMap Call.refetched?
  skips : r'.skips.toList = r.skips.toList ++ calls.filterMap Call.skip?
  bytes : r'.bytesWritten = r.bytesWritten + (calls.map Call.size).sum

/-- One thing more is told. -/
theorem Told.step (h : Told r calls r') (call : Call) :
    Told r (calls ++ [call]) (r'.tell call) := by
  obtain ⟨hfetched, hrefetched, hskips, hbytes⟩ := h
  cases call <;> constructor <;>
    simp [tell, withFetch, withRefetch, withSkip, Call.fetched?, Call.refetched?, Call.skip?,
      Call.size, hfetched, hrefetched, hskips, hbytes, add_assoc]

theorem told_tellAll (r : Report) (calls : List Call) : Told r calls (r.tellAll calls) := by
  induction calls using List.reverseRecOn with
  | nil => constructor <;> simp [tellAll]
  | append_singleton calls call ih =>
      rw [tellAll, List.foldl_append]
      exact ih.step call

/-- What a report was told may be told in any order. -/
theorem Told.skips_perm (h : Told r calls r') (h' : Told r calls' r'') (hperm : calls.Perm calls') :
    r'.skips.toList.Perm r''.skips.toList := by
  rw [h.skips, h'.skips]
  exact (hperm.filterMap _).append_left _

theorem Told.summary?_eq (h : Told r calls r') (h' : Told r calls' r'')
    (hperm : calls.Perm calls') : r'.summary? = r''.summary? := by
  refine summary?_congr ?_ ?_ (h.skips_perm h' hperm) ?_
  · rw [← Array.length_toList, ← Array.length_toList, h.fetched, h'.fetched]
    exact ((hperm.filterMap _).append_left _).length_eq
  · rw [← Array.length_toList, ← Array.length_toList, h.refetched, h'.refetched]
    exact ((hperm.filterMap _).append_left _).length_eq
  · rw [h.bytes, h'.bytes, (hperm.map _).sum_eq]

/-! ## What a report says -/

/-- Nothing was fetched and nothing was skipped so far. -/
structure Blank (r : Report) : Prop where
  fetched : r.fetched = #[]
  refetched : r.refetched = #[]
  skips : r.skips = #[]
  bytes : r.bytesWritten = 0

/-- The parts of a summary: the items that were saved, those that were fetched again if there are
any, and those that were skipped if there are any, with the number of each category in words. -/
def parts (calls : List Call) (size : String) (listed : List (String × Nat)) : List String :=
  let fetched := calls.filterMap Call.fetched?
  let refetched := calls.filterMap Call.refetched?
  let skips := calls.filterMap Call.skip?
  let words := listed.map fun (category, n) => toString n ++ " " ++ categoryWords category
  [amount fetched.length ++ " saved (" ++ size ++ ")"] ++
    (if refetched = [] then [] else [amount refetched.length ++ " refetched"]) ++
    if skips = [] then []
    else [amount skips.length ++ " skipped (" ++ ", ".intercalate words ++ ")"]

/-- A report tells what happened: its counts are a histogram of the skips, its bytes are all that
were written, and the summary says what there is to say, the categories in the order of their
names. -/
structure Tells (calls : List Call) (r : Report) : Prop where
  skips : r.skips.toList = calls.filterMap Call.skip?
  counts : Histogram r.skips.toList r.skipCounts
  bytes : r.bytesWritten = (calls.map Call.size).sum
  summary : ∃ listed, Histogram r.skips.toList listed ∧
    (listed.Pairwise fun a b => NameBefore a.1 b.1) ∧
    r.summary? = (ByteSize.text? r.bytesWritten).map fun size =>
      " | ".intercalate (parts calls size listed)

theorem Told.tells (h : r.Blank) (htold : Told r calls r') : Tells calls r' := by
  have hfetched : r'.fetched.toList = calls.filterMap Call.fetched? := by
    rw [htold.fetched, h.fetched, List.nil_append]
  have hrefetched : r'.refetched.toList = calls.filterMap Call.refetched? := by
    rw [htold.refetched, h.refetched, List.nil_append]
  have hskips : r'.skips.toList = calls.filterMap Call.skip? := by
    rw [htold.skips, h.skips, List.nil_append]
  refine ⟨hskips, r'.histogram_skipCounts, ?_, r'.sortedCounts, r'.histogram_sortedCounts,
    r'.sortedCounts_pairwise, ?_⟩
  · rw [htold.bytes, h.bytes, Int.zero_add]
  · rw [summary?]
    refine congrArg (Option.map · _) (funext fun size => ?_)
    rw [summaryWith, parts, ← hfetched, ← hrefetched, ← hskips]
    simp only [Array.length_toList, Array.isEmpty_iff, Array.toList_eq_nil_iff]

/-- In whatever order a report is told what happened, its counts and its summary are the same.  A
report that was blank tells at every time what has happened so far. -/
theorem tellAll_tells (r : Report) (calls : List Call) :
    (∀ other, other.Perm calls →
      (r.tellAll other).summary? = (r.tellAll calls).summary? ∧
      (r.tellAll other).skipCounts.Perm (r.tellAll calls).skipCounts) ∧
    (r.Blank → ∀ n, Tells (calls.take n) (r.tellAll (calls.take n))) := by
  refine ⟨fun other hperm => ?_, fun h _ => (r.told_tellAll _).tells h⟩
  have hother := r.told_tellAll other
  have hcalls := r.told_tellAll calls
  refine ⟨hother.summary?_eq hcalls hperm, ?_⟩
  exact ((r.tellAll other).histogram_skipCounts.of_perm (hother.skips_perm hcalls hperm)
    (List.Perm.refl _)).perm (r.tellAll calls).histogram_skipCounts

/-- Skips of two categories, which occur in the other order if it is read backwards. -/
def scattered : List Call :=
  [.skip "b_c" "x", .fetch "y" 2048, .skip "a" "z", .refetch "y", .skip "a" "w"]

theorem scattered_tells :
    (({} : Report).tellAll scattered.reverse).summary? =
      (({} : Report).tellAll scattered).summary? ∧
    Tells (scattered.take 3) (({} : Report).tellAll (scattered.take 3)) :=
  ⟨((tellAll_tells {} scattered).1 _ (List.reverse_perm _)).1,
    (tellAll_tells {} scattered).2 ⟨rfl, rfl, rfl, rfl⟩ 3⟩

example : (({} : Report).tellAll scattered).skipCounts = [("b_c", 1), ("a", 2)] ∧
    (({} : Report).tellAll scattered).sortedCounts = [("a", 2), ("b_c", 1)] := by cbv

end Dossier.Report
