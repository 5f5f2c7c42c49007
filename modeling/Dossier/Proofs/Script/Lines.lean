import Dossier.Proofs.Act.Disk
import Dossier.Proofs.Script.Grammar
import Dossier.Proofs.Text.Utf8
import Dossier.Run

/-!
# The lines of script files

An editor counts the lines of a file by its line endings: a carriage return, a line
feed, or the one followed by the other.  A row *starts* where the first character of
a line stands that is not blank, unless a comment does.

A script file is read with its line endings replaced by line feeds, and its rows are
found by a scan over gaps that may reach over many lines.  Still each row is that of
the start it has in the file, with the line that the editor shows
(`rows_lineFeeds`).  So directives and faults carry these lines (`readScript_lines`).
-/

namespace Dossier.Script

open Run (lineFeeds)

/-! ## Line endings -/

/-- How many lines end in a text. -/
def lineEndings : List Char → Nat
  | '\r' :: '\n' :: rest => lineEndings rest + 1
  | '\r' :: rest => lineEndings rest + 1
  | '\n' :: rest => lineEndings rest + 1
  | _ :: rest => lineEndings rest
  | [] => 0

theorem lineEndings_return {rest : List Char} (h : rest.head? ≠ some '\n') :
    lineEndings ('\r' :: rest) = lineEndings rest + 1 := by
  rw [lineEndings]
  rintro tail rfl
  exact h rfl

theorem lineEndings_other {c : Char} (h : Text.isLineEnd c = false) (rest : List Char) :
    lineEndings (c :: rest) = lineEndings rest := by
  rw [Text.isLineEnd, Bool.or_eq_false_iff, beq_eq_false_iff_ne, beq_eq_false_iff_ne] at h
  rw [lineEndings]
  · exact fun tail he => absurd he h.1
  · exact h.1
  · exact h.2

/-- A carriage return and a line feed do not meet where two texts do. -/
def Apart (before after : List Char) : Prop :=
  before.getLast? ≠ some '\r' ∨ after.head? ≠ some '\n'

theorem Apart.tail {c : Char} {before after : List Char} (h : Apart (c :: before) after) :
    Apart before after := by
  cases before with
  | nil => exact Or.inl nofun
  | cons d rest => rwa [Apart, List.getLast?_cons_cons] at h

/-- Line endings add up where none is torn apart. -/
theorem lineEndings_append {before after : List Char} (h : Apart before after) :
    lineEndings (before ++ after) = lineEndings before + lineEndings after := by
  fun_induction lineEndings before with
  | case1 rest ih =>
      rw [List.cons_append, List.cons_append, lineEndings, ih h.tail.tail, Nat.add_right_comm]
  | case2 rest hnot ih =>
      have hhead : (rest ++ after).head? ≠ some '\n' := by
        cases rest with
        | nil => exact h.resolve_left fun hne => hne rfl
        | cons c tail => exact fun he => hnot tail (by rw [Option.some.inj he])
      rw [List.cons_append, lineEndings_return hhead, ih h.tail, Nat.add_right_comm]
  | case3 rest ih => rw [List.cons_append, lineEndings, ih h.tail, Nat.add_right_comm]
  | case4 c rest _ hreturn hfeed ih =>
      have hc : Text.isLineEnd c = false := by simpa [Text.isLineEnd] using ⟨hreturn, hfeed⟩
      rw [List.cons_append, lineEndings_other hc, ih h.tail]
  | case5 => exact (Nat.zero_add _).symm

/-! ## Where rows start -/

/-- A character that does not end a line. -/
def inLine (c : Char) : Bool := !Text.isLineEnd c

theorem takeWhile_inLine {c : Char} (hc : Text.isLineEnd c = false) (rest : List Char) :
    (c :: rest).takeWhile inLine = c :: rest.takeWhile inLine :=
  List.takeWhile_cons_of_pos (by rw [inLine, hc]; rfl)

/-- Only blanks stand before this place on its line. -/
def atHead (before : List Char) : Bool := (before.reverse.takeWhile inLine).all Text.isBlank

/-- The start of a row: what comes before it in the text, and the rest. -/
structure Start where
  before : List Char
  rest : List Char

/-- The starts of rows from a place on, in their order. -/
def rowStarts (before : List Char) : List Char → List Start
  | [] => []
  | c :: rest =>
    if atHead before && !Text.isBlank c && c != '#' then
      ⟨before, c :: rest⟩ :: rowStarts (before ++ [c]) rest
    else rowStarts (before ++ [c]) rest

/-- The row that starts here, with the line that an editor shows. -/
def Start.row (start : Start) : Row :=
  ⟨1 + lineEndings start.before,
    Text.words Text.isGap (Text.trim (start.rest.takeWhile inLine))⟩

theorem atHead_append (before : List Char) (c : Char) :
    atHead (before ++ [c]) = (Text.isLineEnd c || Text.isBlank c && atHead before) := by
  rw [atHead, List.reverse_append, List.reverse_singleton, List.singleton_append,
    List.takeWhile_cons, inLine]
  cases Text.isLineEnd c <;> simp [atHead]

/-- No row starts at a blank. -/
theorem rowStarts_blank {c : Char} (hc : Text.isBlank c = true) (before rest : List Char) :
    rowStarts before (c :: rest) = rowStarts (before ++ [c]) rest := by
  rw [rowStarts, hc]
  simp

/-- No row starts inside another one. -/
theorem rowStarts_inside {before : List Char} (h : atHead before = false) (c : Char)
    (rest : List Char) : rowStarts before (c :: rest) = rowStarts (before ++ [c]) rest := by
  rw [rowStarts, h]
  simp

theorem rowStarts_end {ending : List Char} (hall : ∀ c ∈ ending, Text.isLineEnd c = true) :
    ∀ (before rest : List Char),
      rowStarts before (ending ++ rest) = rowStarts (before ++ ending) rest := by
  induction ending with
  | nil => simp
  | cons c ending ih =>
      intro before rest
      rw [List.cons_append, rowStarts_blank (Text.isBlank_of_isLineEnd (hall c (by simp))),
        ih fun d hd => hall d (List.mem_cons_of_mem _ hd), List.append_assoc]
      rfl

/-! ## Scanning -/

/-- A scan of a text, its line endings replaced, finds the rows where they start. -/
structure Finds (text : List Char) : Prop where
  /-- A gap ends where the next row starts. -/
  gap : ∀ {before line feeds}, Apart before text → atHead before = true → 1 ≤ feeds →
    line + feeds = 1 + lineEndings before →
    (scan line (.gap feeds) (lineFeeds text)).filterMap rowOf? =
      (rowStarts before text).map Start.row
  /-- A row goes on to the end of its line. -/
  row : ∀ {before line seen}, Apart before text → atHead before = false →
    line = 1 + lineEndings before →
    (scan line (.row seen) (lineFeeds text)).filterMap rowOf? =
      (rowOf? (line, seen.reverse ++ text.takeWhile inLine)).toList ++
        (rowStarts before text).map Start.row

theorem rowOf?_nil (line : Nat) : rowOf? (line, []) = none := by
  rw [rowOf?]
  rfl

theorem finds_nil : Finds [] where
  gap _ _ _ _ := by
    rw [lineFeeds, scan, List.filterMap_cons, rowOf?_nil]
    rfl
  row _ _ _ := by
    rw [lineFeeds, scan, List.filterMap_cons, List.takeWhile_nil, List.append_nil, rowStarts]
    cases rowOf? _ <;> rfl

/-- A line ending, whatever its form, ends a row and adds to a gap. -/
theorem finds_end (ending : List Char) {rest : List Char} (hne : ending ≠ [])
    (hall : ∀ c ∈ ending, Text.isLineEnd c = true) (hone : lineEndings ending = 1)
    (hapart : Apart ending rest) (hfeeds : lineFeeds (ending ++ rest) = '\n' :: lineFeeds rest)
    (h : Finds rest) : Finds (ending ++ rest) := by
  have hcount : ∀ {before}, Apart before (ending ++ rest) →
      lineEndings (before ++ ending) = lineEndings before + 1 := by
    intro before hbefore
    rw [lineEndings_append, hone]
    rwa [Apart, List.head?_append_of_ne_nil _ hne] at hbefore
  have hhead : ∀ before, atHead (before ++ ending) = true := by
    intro before
    rw [← List.dropLast_concat_getLast hne, ← List.append_assoc, atHead_append,
      hall _ (List.getLast_mem hne), Bool.true_or]
  have hnext : ∀ before, Apart (before ++ ending) rest := by
    intro before
    rwa [Apart, List.getLast?_append_of_ne_nil _ hne]
  have hline : (ending ++ rest).takeWhile inLine = [] := by
    obtain ⟨c, tail, rfl⟩ := List.exists_cons_of_ne_nil hne
    rw [List.cons_append, List.takeWhile_cons_of_neg]
    rw [inLine, hall c (List.mem_cons_self ..)]
    decide
  have hfeed : feed '\n' = 1 := rfl
  refine ⟨fun {before line feeds} hbefore _ hpos hcounted => ?_,
    fun {before line seen} hbefore _ hcounted => ?_⟩
  · rw [hfeeds, scan, if_pos (by decide), rowStarts_end hall]
    exact h.gap (hnext _) (hhead _) (by omega) (by rw [hcount hbefore]; omega)
  · have hgap := h.gap (hnext before) (hhead before) (Nat.le_refl 1)
      (show line + 1 = _ by rw [hcount hbefore]; omega)
    rw [hfeeds, scan, if_pos (by decide), rowStarts_end hall, List.filterMap_cons, hfeed, hgap,
      hline, List.append_nil]
    cases rowOf? (line, seen.reverse) <;> rfl

/-- A line that starts with a character that is not blank still does when it is
trimmed. -/
theorem trim_cons {c : Char} (hc : Text.isBlank c = false) (line : List Char) :
    ∃ tail, Text.trim (c :: line) = c :: tail := by
  have hneg : ¬ Text.isBlank c = true := by simp [hc]
  rw [Text.trim, Text.trimLeft, List.dropWhile_cons_of_neg hneg, Text.trimRight,
    List.reverse_cons, List.dropWhile_append]
  split
  · exact ⟨[], by rw [List.dropWhile_cons_of_neg hneg]; rfl⟩
  · exact ⟨_, by rw [List.reverse_append]; rfl⟩

/-- A line that starts with a character that is not blank is a comment or a row. -/
theorem rowOf?_cons {c : Char} (hc : Text.isBlank c = false) (n : Nat) (line : List Char) :
    rowOf? (n, c :: line) = if c = '#' then none
      else some ⟨n, Text.words Text.isGap (Text.trim (c :: line))⟩ := by
  obtain ⟨tail, htrim⟩ := trim_cons hc line
  rw [rowOf?, htrim]
  simp [isSilent]

/-- A character inside a line belongs to its row, or starts one if it is the first
that is not blank. -/
theorem finds_cons {c : Char} {rest : List Char} (hc : Text.isLineEnd c = false)
    (hfeeds : lineFeeds (c :: rest) = c :: lineFeeds rest) (h : Finds rest) :
    Finds (c :: rest) := by
  have hother : c ≠ '\r' ∧ c ≠ '\n' := by simpa [Text.isLineEnd] using hc
  have hcount : ∀ before, lineEndings (before ++ [c]) = lineEndings before := by
    intro before
    have hapart : Apart before [c] := Or.inr fun he => hother.2 (Option.some.inj he)
    rw [lineEndings_append hapart, lineEndings_other hc]
    rfl
  have hnext : ∀ before, Apart (before ++ [c]) rest := by
    intro before
    refine Or.inl ?_
    rw [List.getLast?_concat]
    exact fun he => hother.1 (Option.some.inj he)
  have hline := takeWhile_inLine hc rest
  have hhead : ∀ before, atHead (before ++ [c]) = (Text.isBlank c && atHead before) := by
    intro before
    rw [atHead_append, hc, Bool.false_or]
  refine ⟨fun {before line feeds} _ hbefore hpos hcounted => ?_,
    fun {before line seen} _ hbefore hcounted => ?_⟩
  · rw [hfeeds, scan]
    split
    · rename_i hblank
      have hfeed : feed c = 0 := by simp [feed, hother.2]
      rw [rowStarts_blank hblank, hfeed]
      exact h.gap (hnext _) (by rw [hhead, hblank, hbefore]; rfl) hpos
        (by rw [hcount]; exact hcounted)
    · rename_i hblank
      have hblank : Text.isBlank c = false := by simpa using hblank
      have hcounted' : line + max feeds 1 = 1 + lineEndings before := by omega
      rw [h.row (hnext before) (by rw [hhead, hblank]; rfl) (by rw [hcount]; exact hcounted'),
        List.reverse_singleton, List.singleton_append, rowOf?_cons hblank, rowStarts, hbefore,
        hblank, hcounted']
      by_cases hcomment : c = '#'
      · simp [hcomment]
      · simp [hcomment, Start.row, hline]
  · rw [hfeeds, scan, if_neg (by simp [hc]), rowStarts_inside hbefore,
      h.row (hnext before) (by rw [hhead, hbefore, Bool.and_false])
        (by rw [hcount]; exact hcounted),
      hline, List.reverse_cons, List.append_assoc]
    rfl

theorem finds (text : List Char) : Finds text := by
  induction text using Run.lineFeeds.induct with
  | case1 rest ih =>
      exact finds_end ['\r', '\n'] (by decide) (by simp [Text.isLineEnd]) rfl (Or.inl (by decide))
        (Run.lineFeeds.eq_1 rest) ih
  | case2 rest hnot ih =>
      have hhead : rest.head? ≠ some '\n' := by
        cases rest with
        | nil => exact (Option.some_ne_none _).symm
        | cons c tail => exact fun he => hnot tail (by rw [Option.some.inj he])
      exact finds_end ['\r'] (by decide) (by simp [Text.isLineEnd]) rfl (Or.inr hhead)
        (Run.lineFeeds.eq_2 rest hnot) ih
  | case3 c rest hpair hreturn ih =>
      have hfeeds := Run.lineFeeds.eq_3 c rest hpair hreturn
      by_cases hc : c = '\n'
      · subst hc
        exact finds_end ['\n'] (by decide) (by simp [Text.isLineEnd]) rfl (Or.inl (by decide))
          hfeeds ih
      · exact finds_cons (by simpa [Text.isLineEnd] using ⟨hreturn, hc⟩) hfeeds ih
  | case4 => exact finds_nil

/-- The rows of a text are found from the gap before it. -/
theorem rows_eq_scan (cs : List Char) : rows cs = (scan 0 (.gap 1) cs).filterMap rowOf? := by
  suffices h : ∀ feeds, 1 ≤ feeds →
      (scan (feeds + (cs.takeWhile Text.isBlank).count '\n') (.row []) (Text.trimLeft cs)).filterMap
        rowOf? = (scan 0 (.gap feeds) cs).filterMap rowOf? from h 1 (Nat.le_refl 1)
  induction cs with
  | nil =>
      intro feeds _
      rw [Text.trimLeft, List.dropWhile_nil, scan, scan, List.filterMap_cons, List.filterMap_cons,
        List.reverse_nil, rowOf?_nil, rowOf?_nil]
  | cons c rest ih =>
      intro feeds hpos
      rw [Text.trimLeft, scan]
      split
      · rename_i hblank
        rw [← ih (feeds + feed c) (by omega), List.dropWhile_cons_of_pos hblank,
          List.takeWhile_cons_of_pos hblank, List.count_cons, Text.trimLeft, feed, Nat.add_assoc,
          Nat.add_comm (List.count _ _)]
      · rename_i hblank
        have hend : ¬ Text.isLineEnd c = true := fun h => hblank (Text.isBlank_of_isLineEnd h)
        rw [List.dropWhile_cons_of_neg hblank, List.takeWhile_cons_of_neg hblank, List.count_nil,
          scan, if_neg hend, Nat.max_eq_left hpos, Nat.zero_add, Nat.add_zero]

/-- The rows of a text, its line endings replaced, are those of the starts in it. -/
theorem rows_lineFeeds (text : List Char) :
    rows (lineFeeds text) = (rowStarts [] text).map Start.row := by
  rw [rows_eq_scan]
  exact (finds text).gap (Or.inl nofun) rfl (Nat.le_refl 1) rfl

end Dossier.Script

/-! ## Script files -/

namespace Dossier.Run

open Script (Directive FirstMute NamesArchive Reads Start lineEndings rowStarts)

variable {env : Environment} {s : State} {file : Path} {text : List Char}

/-- The directives of a file are those of the rows that start in its text. -/
theorem readScript_eq (hnul : file.holdsNul = false)
    (hread : s.store.read env.here file = .ok (Utf8.encode text)) :
    readScript file env s =
      Act.ofExcept .script (Script.directivesOf ((rowStarts [] text).map Start.row)) env s := by
  have hbytes : Disk.during (.readScript file) (Disk.read file) env s =
      .ok (Utf8.encode text) s := by
    refine Disk.during_ok.mpr (Act.bind_ok.mpr ⟨(), s, Disk.checkPath_ok.mpr ⟨hnul, rfl⟩, ?_⟩)
    exact Disk.look_ok.mpr ⟨hread, rfl⟩
  have htext : Act.ofExcept (fun fault => Fault.storage (.readScript file) (.encoding fault))
      (Utf8.decode (Utf8.encode text)) env s = .ok text s :=
    Act.ofExcept_ok.mpr ⟨Utf8.decode_encode text, rfl⟩
  rw [readScript, Act.bind_of_ok hbytes, Act.bind_of_ok htext, Script.parse, String.toList_ofList,
    Script.rows_lineFeeds]

/-- The directives that are read from a file have the lines on which their rows start
in it, and so has the fault of a file that is refused. -/
theorem readScript_lines (hnul : file.holdsNul = false)
    (hread : s.store.read env.here file = .ok (Utf8.encode text)) :
    (∀ directives s', readScript file env s = .ok directives s' ↔
      s' = s ∧ Reads ((rowStarts [] text).map Start.row) directives) ∧
    (∀ directives s', readScript file env s = .ok directives s' →
      directives.map Directive.line =
        (rowStarts [] text).map fun start => some ↑(1 + lineEndings start.before)) ∧
    ∀ line s', (∃ defect, readScript file env s = .error (.script (.malformed line defect)) s') ↔
      s' = s ∧ ∃ start ∈ rowStarts [] text,
        FirstMute NamesArchive ((rowStarts [] text).map Start.row) start.row ∧
          line = some ↑(1 + lineEndings start.before) := by
  have hok : ∀ directives s', readScript file env s = .ok directives s' ↔
      s' = s ∧ Reads ((rowStarts [] text).map Start.row) directives := by
    intro directives s'
    rw [readScript_eq hnul hread, Act.ofExcept_ok, Script.directivesOf_ok, and_comm]
  refine ⟨hok, fun directives s' h => ?_, fun line s' => ?_⟩
  · rw [((hok directives s').mp h).2.lines, List.map_map]
    rfl
  · rw [readScript_eq hnul hread]
    constructor
    · rintro ⟨defect, h⟩
      obtain ⟨fault, hfault, he, rfl⟩ := Act.ofExcept_error.mp h
      cases he
      obtain ⟨row, hfirst, hline⟩ := Script.directivesOf_malformed.mp ⟨defect, hfault⟩
      obtain ⟨start, hstart, rfl⟩ := List.mem_map.mp hfirst.mem
      exact ⟨rfl, start, hstart, hfirst, hline⟩
    · rintro ⟨rfl, start, _, hfirst, hline⟩
      obtain ⟨defect, h⟩ := Script.directivesOf_malformed.mpr ⟨start.row, hfirst, hline⟩
      exact ⟨defect, Act.ofExcept_error.mpr ⟨_, h, rfl, rfl⟩⟩

/-- A text with every kind of line ending, and a comment. -/
def mixedText : List Char := "\r\n#é\rzip-name q\r\n\u00a0\r\r\n\tsave-text a as b\n".toList

/-- It lies in a file. -/
def mixedFile : State := { store := ⟨[(["s.txt"], .file (.plain (Utf8.encode mixedText)))]⟩ }

/-- Its rows are read with the lines that an editor shows. -/
theorem mixedFile_lines : ∃ directives, readScript ⟨.relative, ["s.txt"]⟩ {} mixedFile =
    .ok directives mixedFile ∧ directives.map Directive.line = [some 3, some 6] := by
  have hends : (readScript ⟨.relative, ["s.txt"]⟩).EndsIn {} mixedFile (fun _ _ => true) = true :=
    by decide +kernel
  obtain ⟨directives, s', hread, _⟩ := Act.exists_of_endsIn hends
  obtain ⟨hok, hlines, _⟩ := readScript_lines
    (by decide +kernel : (⟨.relative, ["s.txt"]⟩ : Path).holdsNul = false)
    (rfl : mixedFile.store.read ({} : Environment).here ⟨.relative, ["s.txt"]⟩ =
      .ok (Utf8.encode mixedText))
  obtain rfl := ((hok directives s').mp hread).1
  refine ⟨directives, hread, (hlines directives mixedFile hread).trans ?_⟩
  decide +kernel

end Dossier.Run
