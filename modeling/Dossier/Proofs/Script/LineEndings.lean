import Dossier.Proofs.Script.Lines
import Mathlib

/-!
# Rows between other line endings

A text need not come from a file, and then its line endings have not been replaced.  Its rows
start at the same places and have the same words as with line feeds, but their lines are counted
gap by gap.  A *gap* is a run of blanks, and counts its line feeds, and one if it has a line
ending and no line feed.  So carriage returns that stand alone are lost where several line endings
come together, and the line of a row is not always the one that the editor shows
(`rows_gaps`, `countedLine_eq_iff`).

A text is read alike with its own line endings and with line feeds just if no line in the result
comes after such a gap (`parse_lineFeeds`).
-/

namespace Dossier.Script

open Run (lineFeeds)

/-! ## Gaps -/

/-- A character that is not blank. -/
def isSolid (c : Char) : Bool := !Text.isBlank c

/-- The gaps in a text that comes after a line feed. -/
def gaps (before : List Char) : List (List Char) := ('\n' :: before).splitOnP isSolid

/-- The lines that are counted in a gap. -/
def gapLines (gap : List Char) : Nat :=
  if gap.any Text.isLineEnd then max (gap.count '\n') 1 else 0

/-- The lines that are counted in some gaps. -/
def gapsLines (found : List (List Char)) : Nat := (found.map gapLines).sum

/-- The line that is counted after a text. -/
def countedLine (before : List Char) : Nat := gapsLines (gaps before)

/-- No gap in a text has a carriage return that stands alone, unless it is the only line ending
in its gap. -/
def Faithful (before : List Char) : Prop :=
  ∀ gap ∈ gaps before, lineEndings gap = gap.count '\n' ∨ lineEndings gap = 1

instance : DecidablePred Faithful := fun before =>
  inferInstanceAs (Decidable (∀ gap ∈ gaps before, _))

/-- The row that starts here, with the line that is counted. -/
def Start.counted (start : Start) : Row := ⟨countedLine start.before, start.row.words⟩

theorem gapsLines_concat (found : List (List Char)) (gap : List Char) :
    gapsLines (found ++ [gap]) = gapsLines found + gapLines gap := by
  simp [gapsLines]

theorem gapLines_of_none {gap : List Char} (h : gap.any Text.isLineEnd = false) :
    gapLines gap = 0 := by
  rw [gapLines, h]
  rfl

/-! ### One more character -/

section More

variable {before gap : List Char} {found : List (List Char)} {c : Char}

/-- A character that is not blank ends a gap. -/
theorem gaps_solid (hc : isSolid c = true) (before : List Char) :
    gaps (before ++ [c]) = gaps before ++ [[]] := by
  rw [gaps, ← List.cons_append, List.splitOnP_append_cons _ _ hc, List.splitOnP_nil]
  rfl

/-- What is not cut goes on with the last piece. -/
theorem splitOnP_concat {isCut : Char → Bool} (hc : isCut c = false) (cs : List Char) :
    ∃ found gap, cs.splitOnP isCut = found ++ [gap] ∧
      (cs ++ [c]).splitOnP isCut = found ++ [gap ++ [c]] := by
  induction cs with
  | nil => exact ⟨[], [], List.splitOnP_nil, List.splitOnP_eq_singleton (by simpa using hc)⟩
  | cons d cs ih =>
      obtain ⟨found, gap, hcs, hmore⟩ := ih
      rw [List.cons_append, List.splitOnP_cons_eq_if_modifyHead,
        List.splitOnP_cons_eq_if_modifyHead, hcs, hmore]
      split
      · exact ⟨[] :: found, gap, rfl, rfl⟩
      · cases found with
        | nil => exact ⟨[], d :: gap, rfl, rfl⟩
        | cons first found => exact ⟨(d :: first) :: found, gap, rfl, rfl⟩

/-- A blank goes on with the last gap. -/
theorem gaps_blank (hc : isSolid c = false) (h : gaps before = found ++ [gap]) :
    gaps (before ++ [c]) = found ++ [gap ++ [c]] := by
  obtain ⟨found', gap', hgaps, hmore⟩ := splitOnP_concat hc ('\n' :: before)
  obtain ⟨rfl, hgap⟩ := List.append_inj' (h.symm.trans hgaps) rfl
  obtain rfl := List.singleton_inj.mp hgap
  exact hmore

/-- Where a gap has line endings, one line at least is counted. -/
theorem countedLine_of_some (h : gaps before = found ++ [gap])
    (hsome : gap.any Text.isLineEnd = true) :
    countedLine before = gapsLines found + max (gap.count '\n') 1 := by
  rw [countedLine, h, gapsLines_concat, gapLines, if_pos hsome]

end More

theorem count_concat (gap : List Char) (c : Char) :
    (gap ++ [c]).count '\n' = gap.count '\n' + feed c := by
  rw [List.count_append, List.count_singleton, feed]

theorem count_of_none {gap : List Char} (h : gap.any Text.isLineEnd = false) :
    gap.count '\n' = 0 :=
  List.count_eq_zero.mpr fun hfeed => by
    simpa [Text.isLineEnd] using List.any_eq_false.mp h _ hfeed

/-! ## Rows -/

/-- A scan of a text finds the rows where they start, with the lines that are counted. -/
structure Counts (text : List Char) : Prop where
  /-- A gap counts its line feeds. -/
  gap : ∀ {before found run line}, gaps before = found ++ [run] → atHead before = true →
    run.any Text.isLineEnd = true → line = gapsLines found →
    (scan line (.gap (run.count '\n')) text).filterMap rowOf? =
      (rowStarts before text).map Start.counted
  /-- A row goes on to the end of its line. -/
  row : ∀ {before found run line seen}, gaps before = found ++ [run] → atHead before = false →
    run.any Text.isLineEnd = false → line = gapsLines found →
    (scan line (.row seen) text).filterMap rowOf? =
      (rowOf? (line, seen.reverse ++ text.takeWhile inLine)).toList ++
        (rowStarts before text).map Start.counted

theorem counts_nil : Counts [] where
  gap _ _ _ _ := by
    rw [scan, List.filterMap_cons, rowOf?_nil]
    rfl
  row _ _ _ _ := by
    rw [scan, List.filterMap_cons, List.takeWhile_nil, List.append_nil, rowStarts]
    cases rowOf? _ <;> rfl

/-- A line ending ends a row and adds to a gap. -/
theorem counts_end {c : Char} {rest : List Char} (hc : Text.isLineEnd c = true)
    (h : Counts rest) : Counts (c :: rest) := by
  have hblank := Text.isBlank_of_isLineEnd hc
  have hsolid : isSolid c = false := by rw [isSolid, hblank, Bool.not_true]
  have hhead : ∀ before, atHead (before ++ [c]) = true := fun before => by
    rw [atHead_append, hc, Bool.true_or]
  have hsome : ∀ run : List Char, (run ++ [c]).any Text.isLineEnd = true := fun run => by
    simp [hc]
  refine ⟨fun {before found run line} hgaps _ _ hline => ?_,
    fun {before found run line seen} hgaps _ hnone hline => ?_⟩
  · rw [scan, if_pos hblank, rowStarts_blank hblank, ← count_concat]
    exact h.gap (gaps_blank hsolid hgaps) (hhead before) (hsome run) hline
  · have hline' : (c :: rest).takeWhile inLine = [] :=
      List.takeWhile_cons_of_neg (by simp [inLine, hc])
    have hcount : feed c = (run ++ [c]).count '\n' := by
      rw [count_concat, count_of_none hnone, Nat.zero_add]
    rw [scan, if_pos hc, rowStarts_blank hblank, List.filterMap_cons, hcount,
      h.gap (gaps_blank hsolid hgaps) (hhead before) (hsome run) hline, hline', List.append_nil]
    cases rowOf? (line, seen.reverse) <;> rfl

/-- A blank that does not end a line goes on with a row or a gap. -/
theorem counts_blank {c : Char} {rest : List Char} (hblank : Text.isBlank c = true)
    (hc : Text.isLineEnd c = false) (h : Counts rest) : Counts (c :: rest) := by
  have hsolid : isSolid c = false := by rw [isSolid, hblank, Bool.not_true]
  have hhead : ∀ before, atHead (before ++ [c]) = atHead before := fun before => by
    rw [atHead_append, hc, hblank, Bool.false_or, Bool.true_and]
  have hany : ∀ run : List Char, (run ++ [c]).any Text.isLineEnd = run.any Text.isLineEnd :=
    fun run => by simp [hc]
  refine ⟨fun {before found run line} hgaps hbefore hsome hline => ?_,
    fun {before found run line seen} hgaps hbefore hnone hline => ?_⟩
  · rw [scan, if_pos hblank, rowStarts_blank hblank, ← count_concat]
    exact h.gap (gaps_blank hsolid hgaps) ((hhead before).trans hbefore)
      ((hany run).trans hsome) hline
  · rw [scan, if_neg (by simp [hc]), rowStarts_blank hblank,
      h.row (gaps_blank hsolid hgaps) ((hhead before).trans hbefore) ((hany run).trans hnone) hline,
      takeWhile_inLine hc, List.reverse_cons, List.append_assoc]
    rfl

/-- A character that is not blank goes on with a row, or starts one after a gap. -/
theorem counts_solid {c : Char} {rest : List Char} (hblank : Text.isBlank c = false)
    (h : Counts rest) : Counts (c :: rest) := by
  have hc : Text.isLineEnd c = false :=
    Bool.eq_false_iff.mpr fun he => by simp [Text.isBlank_of_isLineEnd he] at hblank
  have hsolid : isSolid c = true := by rw [isSolid, hblank, Bool.not_false]
  have hnext : ∀ {before found run}, gaps before = found ++ [run] →
      gaps (before ++ [c]) = (found ++ [run]) ++ [[]] := fun hgaps => by
    rw [gaps_solid hsolid, hgaps]
  have hhead : ∀ before, atHead (before ++ [c]) = false := fun before => by
    rw [atHead_append, hc, hblank, Bool.false_or, Bool.false_and]
  refine ⟨fun {before found run line} hgaps hbefore hsome hline => ?_,
    fun {before found run line seen} hgaps hbefore hnone hline => ?_⟩
  · have hcounted : line + max (run.count '\n') 1 = countedLine before := by
      rw [countedLine_of_some hgaps hsome, hline]
    rw [scan, if_neg (by simp [hblank]), h.row (hnext hgaps) (hhead before) rfl
      (by rw [hcounted, countedLine, hgaps]), List.reverse_singleton, List.singleton_append,
      rowOf?_cons hblank, rowStarts, hbefore, hblank, hcounted]
    by_cases hcomment : c = '#'
    · simp [hcomment]
    · simp [hcomment, Start.counted, Start.row, takeWhile_inLine hc]
  · rw [scan, if_neg (by simp [hc]), rowStarts_inside hbefore,
      h.row (hnext hgaps) (hhead before) rfl
        (by rw [gapsLines_concat, gapLines_of_none hnone, hline, Nat.add_zero]),
      takeWhile_inLine hc, List.reverse_cons, List.append_assoc]
    rfl

theorem counts (text : List Char) : Counts text := by
  induction text with
  | nil => exact counts_nil
  | cons c rest ih =>
      by_cases hblank : Text.isBlank c = true
      · by_cases hc : Text.isLineEnd c = true
        · exact counts_end hc ih
        · exact counts_blank hblank (by simpa using hc) ih
      · exact counts_solid (by simpa using hblank) ih

/-- The rows of a text are those of the starts in it, with the lines that are counted. -/
theorem rows_gaps (text : List Char) : rows text = (rowStarts [] text).map Start.counted := by
  rw [rows_eq_scan]
  have hgaps : gaps [] = [] ++ [['\n']] := rfl
  exact (counts text).gap hgaps rfl rfl rfl

/-! ## Lines that are counted and lines that are shown -/

/-- Every line feed ends a line. -/
theorem count_le_lineEndings (gap : List Char) : gap.count '\n' ≤ lineEndings gap := by
  fun_induction lineEndings gap with
  | case1 rest ih => simpa [List.count_cons] using ih
  | case2 rest _ ih => simpa [List.count_cons] using Nat.le_succ_of_le ih
  | case3 rest ih => simpa [List.count_cons] using ih
  | case4 c rest _ _ hfeed ih =>
      rw [List.count_cons_of_ne hfeed]
      exact ih
  | case5 => exact Nat.le_refl 0

/-- A line ends just if there is a line ending. -/
theorem lineEndings_pos_iff {gap : List Char} :
    1 ≤ lineEndings gap ↔ gap.any Text.isLineEnd = true := by
  fun_induction lineEndings gap with
  | case1 rest _ => simp [Text.isLineEnd]
  | case2 rest _ _ => simp [Text.isLineEnd]
  | case3 rest _ => simp [Text.isLineEnd]
  | case4 c rest _ hreturn hfeed ih =>
      have hc : Text.isLineEnd c = false := by simpa [Text.isLineEnd] using ⟨hreturn, hfeed⟩
      rw [ih, List.any_cons, hc, Bool.false_or]
  | case5 => simp

theorem gapLines_le (gap : List Char) : gapLines gap ≤ lineEndings gap := by
  rw [gapLines]
  split
  · exact Nat.max_le.mpr ⟨count_le_lineEndings gap, lineEndings_pos_iff.mpr ‹_›⟩
  · exact Nat.zero_le _

/-- A gap loses no line if none of its carriage returns stands alone, or if it has one line
ending. -/
theorem gapLines_eq_iff (gap : List Char) : gapLines gap = lineEndings gap ↔
    lineEndings gap = gap.count '\n' ∨ lineEndings gap = 1 := by
  have hcount := count_le_lineEndings gap
  have hpos : 1 ≤ lineEndings gap ↔ gap.any Text.isLineEnd = true := lineEndings_pos_iff
  rw [gapLines]
  split
  · have := hpos.mpr ‹_›
    omega
  · have := mt hpos.mp ‹_›
    omega

theorem modifyHead_nil_append (l : List (List Char)) : l.modifyHead ([] ++ ·) = l := by
  cases l <;> rfl

/-- The lines that end in a text end in its gaps. -/
theorem lineEndings_eq_sum (cs : List Char) :
    lineEndings cs = ((cs.splitOnP isSolid).map lineEndings).sum := by
  suffices h : ∀ run, lineEndings (run ++ cs) =
      (((cs.splitOnP isSolid).modifyHead (run ++ ·)).map lineEndings).sum by
    rw [← modifyHead_nil_append (cs.splitOnP isSolid), ← h, List.nil_append]
  induction cs with
  | nil => simp
  | cons c rest ih =>
      intro run
      rw [List.splitOnP_cons_eq_if_modifyHead]
      split
      · rename_i hsolid
        have hc : Text.isLineEnd c = false := by
          refine Bool.eq_false_iff.mpr fun he => ?_
          simp [isSolid, Text.isBlank_of_isLineEnd he] at hsolid
        have hapart : Apart run (c :: rest) := Or.inr fun he => by
          simp [Option.some.inj he, Text.isLineEnd] at hc
        have hrest := ih []
        rw [List.nil_append, modifyHead_nil_append] at hrest
        rw [lineEndings_append hapart, lineEndings_other hc, hrest, List.modifyHead_cons,
          List.append_nil, List.map_cons, List.sum_cons]
      · rw [← List.singleton_append, ← List.append_assoc, ih (run ++ [c]),
          List.modifyHead_modifyHead]
        congr 3
        funext l
        simp

/-- Sums of terms that are no greater are equal just if the terms are. -/
theorem sum_eq_sum_iff {α : Type} {f g : α → Nat} (hle : ∀ a, f a ≤ g a) (l : List α) :
    (l.map f).sum = (l.map g).sum ↔ ∀ a ∈ l, f a = g a := by
  induction l with
  | nil => simp
  | cons a l ih =>
      have hsum : (l.map f).sum ≤ (l.map g).sum := List.sum_le_sum fun a _ => hle a
      have ha := hle a
      rw [List.map_cons, List.map_cons, List.sum_cons, List.sum_cons, List.forall_mem_cons, ← ih]
      omega

theorem lineEndings_gaps (before : List Char) :
    1 + lineEndings before = ((gaps before).map lineEndings).sum := by
  rw [gaps, ← lineEndings_eq_sum, lineEndings, Nat.add_comm]

/-- The line that is counted is the one that the editor shows just if no gap before it loses
one. -/
theorem countedLine_eq_iff (before : List Char) :
    countedLine before = 1 + lineEndings before ↔ Faithful before := by
  rw [lineEndings_gaps, countedLine, gapsLines, sum_eq_sum_iff gapLines_le]
  exact forall₂_congr fun gap _ => gapLines_eq_iff gap

example : Faithful "\n\r\n q\r#\r\n\t\r\n".toList := by decide +kernel
example : ¬ Faithful "\rq".toList ∧ ¬ Faithful "q\r\r".toList := by decide +kernel

/-! ## Lines of different rows -/

/-- With one more character a text does not have fewer lines. -/
theorem lineEndings_le_concat (before : List Char) (c : Char) :
    lineEndings before ≤ lineEndings (before ++ [c]) := by
  by_cases hapart : Apart before [c]
  · rw [lineEndings_append hapart]
    exact Nat.le_add_right _ _
  · rw [Apart, not_or, Classical.not_not, Classical.not_not] at hapart
    obtain ⟨pre, rfl⟩ := List.getLast?_eq_some_iff.mp hapart.1
    obtain rfl := Option.some.inj hapart.2
    rw [List.append_assoc, lineEndings_append (Or.inr (by decide)),
      lineEndings_append (Or.inr (by decide))]
    exact Nat.le_refl _

/-- A row comes to its end with the line it is on. -/
theorem lineEndings_concat {before : List Char} {c : Char} (hbefore : atHead before = false)
    (hc : Text.isLineEnd c = true) : lineEndings (before ++ [c]) = lineEndings before + 1 := by
  have hapart : Apart before [c] := by
    refine Or.inl fun hlast => ?_
    obtain ⟨pre, rfl⟩ := List.getLast?_eq_some_iff.mp hlast
    rw [atHead_append] at hbefore
    cases hbefore
  rw [lineEndings_append hapart]
  congr 1
  rw [Text.isLineEnd, Bool.or_eq_true, beq_iff_eq, beq_iff_eq] at hc
  rcases hc with rfl | rfl <;> rfl

/-- A row starts on a line that has come, and on a later one if the text stands in a row. -/
theorem lineEndings_of_mem_rowStarts {text before : List Char} {start : Start}
    (h : start ∈ rowStarts before text) :
    lineEndings before ≤ lineEndings start.before ∧
      (atHead before = false → lineEndings before < lineEndings start.before) := by
  induction text generalizing before with
  | nil => cases h
  | cons c rest ih =>
      have hlater : start ∈ rowStarts (before ++ [c]) rest →
          lineEndings before ≤ lineEndings start.before ∧
            (atHead before = false → lineEndings before < lineEndings start.before) := by
        intro hmem
        obtain ⟨hle, hlt⟩ := ih hmem
        have hmore := lineEndings_le_concat before c
        refine ⟨hmore.trans hle, fun hbefore => ?_⟩
        cases hc : Text.isLineEnd c with
        | true =>
            rw [lineEndings_concat hbefore hc] at hle
            exact hle
        | false =>
            have hinside : atHead (before ++ [c]) = false := by
              rw [atHead_append, hc, hbefore, Bool.and_false, Bool.false_or]
            exact lt_of_le_of_lt hmore (hlt hinside)
      rw [rowStarts] at h
      split at h
      · rename_i hstart
        rcases List.mem_cons.mp h with rfl | hmem
        · refine ⟨Nat.le_refl _, fun hbefore => ?_⟩
          rw [hbefore, Bool.false_and, Bool.false_and] at hstart
          cases hstart
        · exact hlater hmem
      · exact hlater h

/-- Each row starts on a later line than the one before. -/
theorem rowStarts_increasing (text before : List Char) :
    (rowStarts before text).Pairwise fun start next => start.row.line < next.row.line := by
  induction text generalizing before with
  | nil => exact .nil
  | cons c rest ih =>
      rw [rowStarts]
      split
      · rename_i hstart
        refine .cons (fun next hnext => ?_) (ih _)
        rw [Bool.and_eq_true, Bool.and_eq_true, Bool.not_eq_true'] at hstart
        have hinside : atHead (before ++ [c]) = false := by
          have hend : Text.isLineEnd c = false := Bool.eq_false_iff.mpr fun he => by
            simp [Text.isBlank_of_isLineEnd he] at hstart
          rw [atHead_append, hend, hstart.1.2, Bool.false_and, Bool.false_or]
        have hlater := (lineEndings_of_mem_rowStarts hnext).2 hinside
        have hmore := lineEndings_le_concat before c
        simp only [Start.row]
        omega
      · exact ih _

/-! ## Lines that a result shows -/

/-- A line is that of a directive in a result, or of its fault. -/
def Shows (line : Nat) : Except Fault (List Directive) → Prop
  | .ok directives => ∃ directive ∈ directives, directive.line = some (line : Int)
  | .error (.malformed found _) => found = some (line : Int)
  | .error .empty => False

section Lines

variable {α : Type} {f g : α → Row} {read : List (List Char) → Except Defect Action}

theorem readRows_of_ok {row : Row} {action : Action} (h : read row.words = .ok action)
    (rest : List Row) :
    readRows read row rest = (laterDirectives rest).map (⟨some row.line, action⟩ :: ·) := by
  rw [readRows, directiveOf, h]

theorem readRows_of_error {row : Row} {defect : Defect} (h : read row.words = .error defect)
    (rest : List Row) : readRows read row rest = .error (.malformed (some row.line) defect) := by
  rw [readRows, directiveOf, h]

/-- The line of a directive is shown if no fault comes after it. -/
theorem shows_map_cons {line first : Nat} {action : Action}
    {later : Except Fault (List Directive)} :
    Shows line (later.map (⟨some (first : Int), action⟩ :: ·)) ↔
      Shows line later ∨ (first = line ∧ ∃ directives, later = .ok directives) := by
  cases later with
  | error fault => simp [Except.map]
  | ok directives => simp [Except.map, Shows, or_comm]

/-- A line that a result shows is that of a row. -/
theorem exists_row_of_shows {line : Nat} {rows : List Row} (h : Shows line (laterDirectives rows)) :
    ∃ row ∈ rows, row.line = line := by
  induction rows with
  | nil =>
      obtain ⟨_, hmem, _⟩ := h
      cases hmem
  | cons row rest ih =>
      rw [laterDirectives_cons] at h
      cases hread : parseLater row.words with
      | error defect =>
          rw [readRows_of_error hread] at h
          exact ⟨row, List.mem_cons_self .., Int.ofNat_inj.mp (Option.some.inj h)⟩
      | ok action =>
          rw [readRows_of_ok hread, shows_map_cons] at h
          rcases h with hlater | ⟨hline, _⟩
          · exact (ih hlater).imp fun _ => And.imp_left (List.mem_cons_of_mem _)
          · exact ⟨row, List.mem_cons_self .., hline⟩

variable (hwords : ∀ a, (f a).words = (g a).words)
include hwords

/-- Rows with the same words are read alike just if the lines that are shown are the same. -/
theorem readRows_eq_iff {a : α} {rest : List α}
    (hdistinct : ∀ b ∈ rest, (g a).line ≠ (g b).line)
    (hrest : laterDirectives (rest.map f) = laterDirectives (rest.map g) ↔
      ∀ b ∈ rest, Shows (g b).line (laterDirectives (rest.map g)) → (f b).line = (g b).line) :
    readRows read (f a) (rest.map f) = readRows read (g a) (rest.map g) ↔
      ∀ b ∈ a :: rest, Shows (g b).line (readRows read (g a) (rest.map g)) →
        (f b).line = (g b).line := by
  rw [List.forall_mem_cons]
  cases hread : read (g a).words with
  | error defect =>
      rw [readRows_of_error ((congrArg read (hwords a)).trans hread), readRows_of_error hread]
      constructor
      · intro h
        simp only [Except.error.injEq, Fault.malformed.injEq, Option.some.injEq, Int.ofNat_inj,
          and_true] at h
        refine ⟨fun _ => h, fun b hb hshows => ?_⟩
        exact absurd (Int.ofNat_inj.mp (Option.some.inj hshows)) (hdistinct b hb)
      · rintro ⟨h, _⟩
        rw [h rfl]
  | ok action =>
      rw [readRows_of_ok ((congrArg read (hwords a)).trans hread), readRows_of_ok hread]
      have hother : ∀ b ∈ rest, Shows (g b).line
          ((laterDirectives (rest.map g)).map (⟨some ((g a).line : Int), action⟩ :: ·)) ↔
            Shows (g b).line (laterDirectives (rest.map g)) := fun b hb => by
        rw [shows_map_cons, or_iff_left fun h => hdistinct b hb h.1]
      rw [forall₂_congr fun b hb => imp_congr_left (hother b hb), ← hrest]
      cases hlater : laterDirectives (rest.map g) with
      | error fault =>
          have hfirst : ¬ Shows (g a).line (.error fault : Except Fault (List Directive)) := by
            rw [← hlater]
            intro hshows
            obtain ⟨_, hmem, hline⟩ := exists_row_of_shows hshows
            obtain ⟨b, hb, rfl⟩ := List.mem_map.mp hmem
            exact hdistinct b hb hline.symm
          cases laterDirectives (rest.map f) <;> simp [Except.map, hfirst]
      | ok directives =>
          cases laterDirectives (rest.map f) <;> simp [Except.map, Shows]

theorem laterDirectives_eq_iff {starts : List α}
    (hdistinct : starts.Pairwise fun a b => (g a).line ≠ (g b).line) :
    laterDirectives (starts.map f) = laterDirectives (starts.map g) ↔
      ∀ a ∈ starts, Shows (g a).line (laterDirectives (starts.map g)) →
        (f a).line = (g a).line := by
  induction starts with
  | nil => exact iff_of_true rfl nofun
  | cons a rest ih =>
      rw [List.pairwise_cons] at hdistinct
      exact readRows_eq_iff hwords hdistinct.1 (ih hdistinct.2)

theorem directivesOf_eq_iff {starts : List α}
    (hdistinct : starts.Pairwise fun a b => (g a).line ≠ (g b).line) :
    directivesOf (starts.map f) = directivesOf (starts.map g) ↔
      ∀ a ∈ starts, Shows (g a).line (directivesOf (starts.map g)) →
        (f a).line = (g a).line := by
  cases starts with
  | nil => exact iff_of_true rfl nofun
  | cons a rest =>
      rw [List.pairwise_cons] at hdistinct
      exact readRows_eq_iff hwords hdistinct.1 (laterDirectives_eq_iff hwords hdistinct.2)

end Lines

/-! ## Reading -/

/-- A text and the same text with line feeds for its line endings have rows with the same words at
the same places.  They are read alike just if no line in the result of the second comes after a gap
with several line endings of which one is a carriage return that stands alone. -/
theorem parse_lineFeeds (text : String) :
    rows text.toList = (rowStarts [] text.toList).map Start.counted ∧
    rows (lineFeeds text.toList) = (rowStarts [] text.toList).map Start.row ∧
    (parse text = parse (String.ofList (lineFeeds text.toList)) ↔
      ∀ start ∈ rowStarts [] text.toList,
        Shows start.row.line (parse (String.ofList (lineFeeds text.toList))) →
          Faithful start.before) := by
  refine ⟨rows_gaps _, rows_lineFeeds _, ?_⟩
  have hdistinct : (rowStarts [] text.toList).Pairwise fun start next =>
      start.row.line ≠ next.row.line := (rowStarts_increasing _ _).imp Nat.ne_of_lt
  rw [parse, parse, String.toList_ofList, rows_gaps, rows_lineFeeds,
    directivesOf_eq_iff (f := Start.counted) (g := Start.row) (fun _ => rfl) hdistinct]
  exact forall₂_congr fun start _ => imp_congr_right fun _ => countedLine_eq_iff start.before

/-- Two carriage returns end two lines, and one is counted. -/
theorem not_all_parsed_alike :
    ¬ ∀ text : String, parse text = parse (String.ofList (lineFeeds text.toList)) := by
  intro hall
  have hparse := congrArg Except.toOption (hall "zip-name q\r\rcookies YQ==")
  have hcounted : (parse "zip-name q\r\rcookies YQ==").toOption =
      some [⟨some 1, .archiveName "q"⟩, ⟨some 2, .cookies "YQ=="⟩] := by decide +kernel
  have hshown : (parse (String.ofList (lineFeeds "zip-name q\r\rcookies YQ==".toList))).toOption =
      some [⟨some 1, .archiveName "q"⟩, ⟨some 3, .cookies "YQ=="⟩] := by decide +kernel
  rw [hcounted, hshown] at hparse
  exact absurd hparse (by decide)

end Dossier.Script
