import Dossier.Proofs.Script.Lines
import Dossier.Proofs.Text.Blank
import Dossier.Script.Printer

/-!
# The layout of scripts

A list of actions is *writable* if every word of its rows is one: not empty and
without spaces, tabs and line ends.  Other blanks may stand in a word, and a number
sign or a verb may be one, but the last word of a row does not end in a blank.

Writable actions are laid out in a text (`Lays`) one to a line, in their order.
Between them may stand blank lines and comments, before and after each any blanks,
and between its words any spaces and tabs.  Every layout is read as the actions laid
out in it, and the one that `render` writes as those on the lines counted from one
(`parse_render`).
-/

namespace Dossier.Script

/-- What holds of all characters of a text is decided by going through the text, not
through all characters. -/
instance decidableForallMem {p : Char → Prop} [DecidablePred p] (cs : List Char) :
    Decidable (∀ c ∈ cs, p c) :=
  List.decidableBAll p cs

/-! ## Writable actions -/

/-- A word that a row may have: not empty, and without spaces, tabs and line ends. -/
def Word (word : String) : Prop :=
  word ≠ "" ∧ ∀ c ∈ word.toList, c ∉ [' ', '\t', '\r', '\n']

/-- A word that does not end in a blank. -/
def Closed (word : String) : Prop :=
  ∀ c, word.toList.getLast? = some c → Text.isBlank c = false

instance : DecidablePred Word := fun word =>
  inferInstanceAs (Decidable (word ≠ "" ∧ ∀ c ∈ word.toList, c ∉ [' ', '\t', '\r', '\n']))

instance : DecidablePred Closed := fun word =>
  decidable_of_iff (word.toList.getLast?.all (fun c => !Text.isBlank c) = true)
    (by rw [Closed]; cases word.toList.getLast? <;> simp)

/-- An action that can be written on a row after the first. -/
inductive CanFollow : Action → Prop
  | cookies {blob : String} (word : Word blob) (closed : Closed blob) : CanFollow (.cookies blob)
  | save {source : Source} {destination : String} (word : Word source.word)
      (permitted : Permitted destination) (together : ' ' ∉ destination.toList)
      (closed : Closed destination) : CanFollow (.save source destination)

/-- Actions that can be written as a script. -/
inductive Writable : List Action → Prop
  | intro {name : String} {later : List Action} (valid : NameText name)
      (follow : ∀ action ∈ later, CanFollow action) : Writable (.archiveName name :: later)

/-! ## Layouts -/

/-- Blanks that do not end a line. -/
def Indent (cs : List Char) : Prop :=
  ∀ c ∈ cs, Text.isBlank c = true ∧ Text.isLineEnd c = false

instance : DecidablePred Indent := fun cs =>
  inferInstanceAs (Decidable (∀ c ∈ cs, Text.isBlank c = true ∧ Text.isLineEnd c = false))

/-- Words stand on a line with spaces and tabs between them. -/
inductive Spaced : List String → List Char → Prop
  | last (word : String) : Spaced [word] word.toList
  | next (word : String) {words : List String} {gap line : List Char} (wide : gap ≠ [])
      (blank : ∀ c ∈ gap, c = ' ' ∨ c = '\t') (rest : Spaced words line) :
      Spaced (word :: words) (word.toList ++ gap ++ line)

/-- The actions on a line: one, or none if the line is blank or a comment. -/
inductive OnLine : List Action → List Char → Prop
  | blank {space : List Char} (indent : Indent space) : OnLine [] space
  | comment {space text : List Char} (indent : Indent space)
      (inside : ∀ c ∈ text, Text.isLineEnd c = false) : OnLine [] (space ++ '#' :: text)
  | row {action : Action} {before row after : List Char} (indent : Indent before)
      (spaced : Spaced action.words row) (trail : Indent after) :
      OnLine [action] (before ++ row ++ after)

/-- The actions that are laid out in a text, line by line. -/
inductive Lays : List Action → List Char → Prop
  | last {actions : List Action} {line : List Char} (h : OnLine actions line) : Lays actions line
  | next {actions later : List Action} {line text : List Char} {c : Char} (h : OnLine actions line)
      (ends : c = '\r' ∨ c = '\n') (rest : Lays later text) :
      Lays (actions ++ later) (line ++ c :: text)

/-! ## Words -/

theorem Word.isGap {word : String} (h : Word word) {c : Char} (hc : c ∈ word.toList) :
    Text.isGap c = false := by
  have hnot := h.2 c hc
  simp only [List.mem_cons, List.not_mem_nil, or_false, not_or] at hnot
  simp [Text.isGap, hnot]

theorem Word.isLineEnd {word : String} (h : Word word) {c : Char} (hc : c ∈ word.toList) :
    Text.isLineEnd c = false := by
  have hnot := h.2 c hc
  simp only [List.mem_cons, List.not_mem_nil, or_false, not_or] at hnot
  simp [Text.isLineEnd, hnot]

theorem Word.ne_nil {word : String} (h : Word word) : word.toList ≠ [] :=
  fun he => h.1 (String.toList_eq_nil_iff.mp he)

/-- A character of the name of an archive is visible, and blanks are not. -/
theorem isBlank_of_isNameChar {c : Char} (h : isNameChar c = true) : Text.isBlank c = false := by
  have hvisible : 45 ≤ c.toNat ∧ c.toNat ≤ 122 := by
    rcases isNameChar_iff.mp h with hmark | ⟨hlow, hhigh⟩ | ⟨hlow, hhigh⟩ | ⟨hlow, hhigh⟩
    · simp only [List.mem_cons, List.not_mem_nil, or_false] at hmark
      rcases hmark with rfl | rfl | rfl <;> decide
    all_goals
      rw [Char.le_def, UInt32.le_iff_toNat_le] at hlow hhigh
      exact ⟨Nat.le_trans (by decide) hlow, Nat.le_trans hhigh (by decide)⟩
  refine Bool.eq_false_iff.mpr fun hblank => ?_
  obtain ⟨range, hrange, hlow, hhigh⟩ := Text.inRanges_iff.mp hblank
  have hfar : ∀ range ∈ Text.blankRanges, range.2 < 45 ∨ 122 < range.1 := by decide
  have := hfar range hrange
  omega

/-- The name of an archive is a word, and does not end in a blank. -/
theorem word_of_nameText {name : String} (h : NameText name) : Word name ∧ Closed name := by
  have hvisible : ∀ c ∈ name.toList, Text.isBlank c = false := fun c hc =>
    isBlank_of_isNameChar (isNameChar_iff.mpr (h.2 c hc))
  have hlayout : ∀ c ∈ [' ', '\t', '\r', '\n'], Text.isBlank c = true := by decide
  refine ⟨⟨h.1, fun c hc hmem => ?_⟩, fun c hc => hvisible c (List.mem_of_getLast? hc)⟩
  exact absurd ((hlayout c hmem).symm.trans (hvisible c hc)) (by decide)

/-! ## Rows of words -/

/-- Words that can stand on a row: the first starts no comment, and neither a blank
before it nor one after the last belongs to the row. -/
structure Legible (words : List String) : Prop where
  word : ∀ word ∈ words, Word word
  opening : ∃ word ∈ words.head?, ∃ c ∈ word.toList.head?, Text.isBlank c = false ∧ c ≠ '#'
  closing : ∀ word ∈ words.getLast?, Closed word

theorem NameText.legible {name : String} (h : NameText name) :
    Legible (Action.archiveName name).words where
  word := by
    simp only [Action.words, List.forall_mem_cons]
    exact ⟨by decide, (word_of_nameText h).1, nofun⟩
  opening := ⟨archiveVerb, rfl, 'z', rfl, by decide⟩
  closing := by simpa [Action.words] using (word_of_nameText h).2

/-- A destination without spaces is a word, since it has no control characters. -/
theorem Permitted.word {destination : String} (h : Permitted destination)
    (together : ' ' ∉ destination.toList) : Word destination := by
  have hcontrol : ∀ c ∈ ['\t', '\r', '\n'], Destination.isHostile c = true := by decide
  refine ⟨?_, fun c hc hmem => ?_⟩
  · rintro rfl
    exact absurd (permitted_iff.mp h) (by decide)
  · rcases List.mem_cons.mp hmem with rfl | hmem
    · exact together hc
    · exact absurd ((hcontrol c hmem).symm.trans (h.harmless c hc)) (by decide)

theorem CanFollow.legible {action : Action} (h : CanFollow action) : Legible action.words := by
  cases h with
  | cookies word closed =>
      refine ⟨?_, ⟨cookiesVerb, rfl, 'c', rfl, by decide⟩, by simpa [Action.words] using closed⟩
      simp only [Action.words, List.forall_mem_cons]
      exact ⟨by decide, word, nofun⟩
  | @save source destination word permitted together closed =>
      have hverb : Word source.verb ∧ source.verb.toList.head? = some 's' := by
        cases source <;> simp only [Source.verb] <;> decide
      refine ⟨?_, ⟨source.verb, rfl, 's', hverb.2, by decide⟩, by simpa [Action.words] using closed⟩
      simp only [Action.words, List.forall_mem_cons]
      exact ⟨hverb.1, word, by decide, permitted.word together, nofun⟩

/-- The rows of actions that can be written are legible. -/
theorem Writable.legible {actions : List Action} (h : Writable actions) :
    ∀ action ∈ actions, Legible action.words := by
  obtain ⟨valid, follow⟩ := h
  exact List.forall_mem_cons.mpr ⟨valid.legible, fun action hmem => (follow action hmem).legible⟩

/-! ## Words on a line -/

theorem lineWords_gap {gap : List Char} (blank : ∀ c ∈ gap, c = ' ' ∨ c = '\t')
    (line : List Char) : lineWords (gap ++ line) = lineWords line := by
  induction gap with
  | nil => rfl
  | cons c gap ih =>
      have hc : Text.isGap c = true := by simpa [Text.isGap] using blank c (by simp)
      rw [← ih fun d hd => blank d (List.mem_cons_of_mem _ hd), List.cons_append, lineWords,
        List.splitOnP_cons_eq_if_modifyHead, if_pos hc]
      rfl

theorem lineWords_word {word : String} (hword : Word word) {c : Char} (hc : Text.isGap c = true)
    (line : List Char) : lineWords (word.toList ++ c :: line) = word :: lineWords line := by
  rw [lineWords, List.splitOnP_append_cons_of_forall_mem (fun d hd => hword.isGap hd) c hc,
    List.filter_cons_of_pos (by simpa using hword.1), List.map_cons, String.ofList_toList]
  rfl

theorem lineWords_last {word : String} (hword : Word word) : lineWords word.toList = [word] := by
  rw [lineWords, List.splitOnP_eq_singleton (fun d hd => hword.isGap hd),
    List.filter_cons_of_pos (by simpa using hword.1)]
  simp

section Spaced

variable {words : List String} {line : List Char}

/-- Words with spaces and tabs between them are found again. -/
theorem Spaced.lineWords_eq (h : Spaced words line) (hwords : ∀ word ∈ words, Word word) :
    lineWords line = words := by
  induction h with
  | last word => exact lineWords_last (hwords word (by simp))
  | @next word words gap line wide blank _ ih =>
      obtain ⟨c, gap, rfl⟩ := List.exists_cons_of_ne_nil wide
      obtain ⟨hc, hgap⟩ := List.forall_mem_cons.mp blank
      obtain ⟨hword, hrest⟩ := List.forall_mem_cons.mp hwords
      rw [List.append_assoc, List.cons_append,
        lineWords_word hword (by simpa [Text.isGap] using hc), lineWords_gap hgap, ih hrest]

theorem Spaced.inside (h : Spaced words line) (hwords : ∀ word ∈ words, Word word) :
    ∀ c ∈ line, Text.isLineEnd c = false := by
  induction h with
  | last word => exact fun c hc => (hwords word (by simp)).isLineEnd hc
  | next word _ blank _ ih =>
      obtain ⟨hword, hrest⟩ := List.forall_mem_cons.mp hwords
      intro c hc
      rcases List.mem_append.mp hc with hc | hc
      · rcases List.mem_append.mp hc with hc | hc
        · exact hword.isLineEnd hc
        · rcases blank c hc with rfl | rfl <;> decide
      · exact ih hrest c hc

theorem Spaced.ne_nil (h : Spaced words line) (hwords : ∀ word ∈ words, Word word) :
    words ≠ [] ∧ line ≠ [] := by
  cases h with
  | last word => exact ⟨nofun, (hwords word (by simp)).ne_nil⟩
  | next word _ _ _ =>
      refine ⟨nofun, ?_⟩
      rw [List.append_assoc]
      exact List.append_ne_nil_of_left_ne_nil (hwords word (by simp)).ne_nil _

/-- A line of words starts as the first of them does. -/
theorem Spaced.head? (h : Spaced words line) (hwords : ∀ word ∈ words, Word word)
    {first : String} (hfirst : words.head? = some first) : line.head? = first.toList.head? := by
  cases h with
  | last word =>
      cases hfirst
      rfl
  | next =>
      cases hfirst
      rw [List.append_assoc, List.head?_append_of_ne_nil _ (hwords first (by simp)).ne_nil]

/-- A line of words ends as the last of them does. -/
theorem Spaced.getLast? (h : Spaced words line) (hwords : ∀ word ∈ words, Word word)
    {last : String} (hlast : words.getLast? = some last) :
    line.getLast? = last.toList.getLast? := by
  induction h with
  | last word =>
      cases hlast
      rfl
  | next word _ _ rest ih =>
      obtain ⟨hword, hrest⟩ := List.forall_mem_cons.mp hwords
      obtain ⟨hne, hline⟩ := rest.ne_nil hrest
      obtain ⟨second, others, rfl⟩ := List.exists_cons_of_ne_nil hne
      rw [List.getLast?_cons_cons] at hlast
      rw [List.getLast?_append_of_ne_nil _ hline, ih hrest hlast]

end Spaced

/-- Legible words on a line are found, whatever blanks stand around them. -/
theorem wordsOf?_row {words : List String} {before line after : List Char} (h : Legible words)
    (hline : Spaced words line) (hbefore : Indent before) (hafter : Indent after) :
    wordsOf? (before ++ line ++ after) = some words := by
  obtain ⟨first, hfirst, c, hc, hblank, hcomment⟩ := h.opening
  have hhead : line.head? = some c := (hline.head? h.word hfirst).trans hc
  have hlast := List.getLast?_eq_some_getLast (hline.ne_nil h.word).1
  have htrimmed : Text.Trimmed line := by
    refine ⟨fun d hd => ?_, fun d hd => ?_⟩
    · rwa [← Option.some.inj (hhead.symm.trans hd)]
    · exact h.closing _ hlast d ((hline.getLast? h.word hlast).symm.trans hd)
  have hspeaks : isSilent line = false := by
    obtain ⟨tail, rfl⟩ := List.head?_eq_some_iff.mp hhead
    simp [isSilent, hcomment]
  rw [wordsOf?, Text.trim_between (fun c hc => (hbefore c hc).1) (fun c hc => (hafter c hc).1)
    htrimmed, hspeaks, hline.lineWords_eq h.word]
  rfl

theorem wordsOf?_indent {space : List Char} (h : Indent space) (line : List Char) :
    wordsOf? (space ++ line) = wordsOf? line := by
  induction space with
  | nil => rfl
  | cons c space ih =>
      obtain ⟨hc, hspace⟩ := List.forall_mem_cons.mp h
      rw [List.cons_append, wordsOf?_cons hc.1, ih hspace]

theorem wordsOf?_comment (text : List Char) : wordsOf? ('#' :: text) = none := by
  obtain ⟨tail, htrim⟩ := trim_cons (by decide : Text.isBlank '#' = false) text
  rw [wordsOf?, htrim]
  rfl

/-! ## Reading a layout -/

/-- A line has the words of the actions on it. -/
theorem OnLine.words {actions : List Action} {line : List Char} (h : OnLine actions line)
    (hlegible : ∀ action ∈ actions, Legible action.words) :
    (∀ c ∈ line, Text.isLineEnd c = false) ∧
      (wordsOf? line).toList = actions.map Action.words := by
  cases h with
  | blank indent =>
      refine ⟨fun c hc => (indent c hc).2, ?_⟩
      rw [← List.append_nil line, wordsOf?_indent indent, wordsOf?_nil]
      rfl
  | comment indent inside =>
      refine ⟨?_, by rw [wordsOf?_indent indent, wordsOf?_comment]; rfl⟩
      simp only [List.forall_mem_append, List.forall_mem_cons]
      exact ⟨fun c hc => (indent c hc).2, by decide, inside⟩
  | @row action before row after indent spaced trail =>
      have hrow := hlegible action (by simp)
      refine ⟨?_, by rw [wordsOf?_row hrow spaced indent trail]; rfl⟩
      simp only [List.forall_mem_append]
      exact ⟨⟨fun c hc => (indent c hc).2, spaced.inside hrow.word⟩, fun c hc => (trail c hc).2⟩

/-- A text has the words of the actions that are laid out in it. -/
theorem Lays.words {actions : List Action} {text : List Char} (h : Lays actions text)
    (hlegible : ∀ action ∈ actions, Legible action.words) :
    plainRows text = actions.map Action.words := by
  induction h with
  | last h =>
      obtain ⟨hinside, hwords⟩ := h.words hlegible
      rw [plainRows_eq, List.splitOnP_eq_singleton hinside, ← hwords]
      cases hline : wordsOf? _ <;> simp [hline]
  | @next actions later line text c h ends _ ih =>
      obtain ⟨hactions, hlater⟩ := List.forall_mem_append.mp hlegible
      obtain ⟨hinside, hwords⟩ := h.words hactions
      have hc : Text.isLineEnd c = true := by simpa [Text.isLineEnd] using ends
      rw [List.map_append, ← ih hlater, ← hwords, plainRows_eq, plainRows_eq,
        List.splitOnP_append_cons_of_forall_mem hinside c hc, List.filterMap_cons]
      cases wordsOf? line <;> rfl

theorem CanFollow.instructs {action : Action} (h : CanFollow action) :
    Instructs action.words action := by
  cases h with
  | cookies => exact .cookies _
  | save _ permitted => exact .save _ permitted

theorem says_of_words {actions : List Action} {rows : List Row}
    (h : ∀ action ∈ actions, CanFollow action)
    (hrows : rows.map Row.strings = actions.map Action.words) :
    ∃ found, List.Forall₂ (Says Instructs) rows found ∧
      found.map Directive.action = actions := by
  induction actions generalizing rows with
  | nil =>
      obtain rfl := List.map_eq_nil_iff.mp hrows
      exact ⟨[], .nil, rfl⟩
  | cons action actions ih =>
      obtain ⟨row, rest, rfl, hrow, hrest⟩ := List.map_eq_cons_iff.mp hrows
      obtain ⟨haction, hactions⟩ := List.forall_mem_cons.mp h
      obtain ⟨found, hsays, hfound⟩ := ih hactions hrest
      refine ⟨⟨some row.line, action⟩ :: found, .cons ⟨rfl, ?_⟩ hsays,
        by rw [List.map_cons, hfound]⟩
      rw [hrow]
      exact haction.instructs

/-- Rows with the words of actions that can be written are read as these. -/
theorem reads_of_words {actions : List Action} {rows : List Row} (h : Writable actions)
    (hrows : rows.map Row.strings = actions.map Action.words) :
    ∃ found, Reads rows found ∧ found.map Directive.action = actions := by
  obtain ⟨valid, follow⟩ := h
  obtain ⟨row, rest, rfl, hrow, hrest⟩ := List.map_eq_cons_iff.mp hrows
  obtain ⟨found, hsays, hfound⟩ := says_of_words follow hrest
  refine ⟨⟨some row.line, .archiveName _⟩ :: found, .script ⟨rfl, ?_⟩ hsays,
    by rw [List.map_cons, hfound]⟩
  rw [hrow]
  exact .intro valid

/-- A layout of actions that can be written is read as these. -/
theorem Lays.parse {actions : List Action} {text : String} (h : Lays actions text.toList)
    (hactions : Writable actions) :
    ∃ found, parse text = .ok found ∧ found.map Directive.action = actions := by
  obtain ⟨found, hreads, hfound⟩ := reads_of_words hactions
    ((rows_words _).trans (h.words hactions.legible))
  exact ⟨found, directivesOf_ok.mpr hreads, hfound⟩

/-! ## The layout that is written -/

/-- Words with one space between them are spaced. -/
theorem spaced_render {words : List String} (h : words ≠ []) :
    Spaced words (Text.joinWith [' '] (words.map String.toList)) := by
  induction words with
  | nil => exact absurd rfl h
  | cons word words ih =>
      cases words with
      | nil => exact .last word
      | cons second words => exact .next word (by decide) (by decide) (ih nofun)

theorem words_ne_nil (action : Action) : action.words ≠ [] := by
  cases action <;> exact nofun

theorem onLine_render (action : Action) : OnLine [action] action.render := by
  have hrow := @OnLine.row action [] _ [] nofun (spaced_render (words_ne_nil action)) nofun
  rwa [List.nil_append, List.append_nil] at hrow

theorem lays_render {actions : List Action} (h : actions ≠ []) :
    Lays actions (Text.joinWith ['\n'] (actions.map Action.render)) := by
  induction actions with
  | nil => exact absurd rfl h
  | cons action actions ih =>
      cases actions with
      | nil => exact .last (onLine_render action)
      | cons second actions =>
          have hnext := Lays.next (onLine_render action) (Or.inr rfl) (ih nofun)
          rw [List.map_cons, List.map_cons, Text.joinWith, List.append_assoc]
          exact hnext

/-- A scan inside a row goes on to the end of its line. -/
theorem scan_inside {text : List Char} (h : ∀ c ∈ text, Text.isLineEnd c = false) (line : Nat)
    (before rest : List Char) : scan line (.row before) (text ++ rest) =
      scan line (.row (text.reverse ++ before)) rest := by
  induction text generalizing before with
  | nil => rfl
  | cons c text ih =>
      obtain ⟨hc, htext⟩ := List.forall_mem_cons.mp h
      rw [List.cons_append, scan, if_neg (by simp [hc]), ih htext]
      simp

/-- A line that starts a row: it has no line ends, and neither a blank nor the mark of
a comment at its head. -/
def Starts (line : List Char) : Prop :=
  (∀ c ∈ line, Text.isLineEnd c = false) ∧
    ∃ c ∈ line.head?, Text.isBlank c = false ∧ c ≠ '#'

/-- Lines that are written one after the other are found with their numbers. -/
theorem scan_lines {lines : List (List Char)} (h : ∀ line ∈ lines, Starts line)
    (hne : lines ≠ []) (before : Nat) :
    scan before (.gap 1) (Text.joinWith ['\n'] lines) =
      (List.range' (before + 1) lines.length).zip lines := by
  induction lines generalizing before with
  | nil => exact absurd rfl hne
  | cons line lines ih =>
      obtain ⟨⟨hinside, c, hc, hblank, _⟩, hlines⟩ := List.forall_mem_cons.mp h
      obtain ⟨tail, rfl⟩ := List.head?_eq_some_iff.mp hc
      have htail := (List.forall_mem_cons.mp hinside).2
      rw [List.length_cons, List.range'_succ, List.zip_cons_cons]
      cases lines with
      | nil =>
          rw [Text.joinWith, scan, if_neg (by simp [hblank]), ← List.append_nil tail,
            scan_inside htail, scan]
          simp
      | cons second lines =>
          have hfeed : feed '\n' = 1 := rfl
          rw [Text.joinWith, List.append_assoc, List.cons_append, scan, if_neg (by simp [hblank]),
            scan_inside htail, List.singleton_append, scan, if_pos (by decide), hfeed,
            Nat.max_self, ih hlines (List.cons_ne_nil _ _)]
          simp

/-- A row is found on each line that starts one. -/
theorem filterMap_rowOf? {found : List (Nat × List Char)} (h : ∀ line ∈ found, Starts line.2) :
    (found.filterMap rowOf?).map Row.line = found.map Prod.fst := by
  induction found with
  | nil => rfl
  | cons line found ih =>
      obtain ⟨⟨_, c, hc, hblank, hcomment⟩, hfound⟩ := List.forall_mem_cons.mp h
      obtain ⟨n, text⟩ := line
      obtain ⟨tail, rfl⟩ := List.head?_eq_some_iff.mp hc
      rw [List.filterMap_cons, rowOf?_cons hblank, if_neg hcomment, List.map_cons, ih hfound,
        List.map_cons]

theorem Legible.starts {action : Action} (h : Legible action.words) : Starts action.render := by
  have hspaced := spaced_render (words_ne_nil action)
  obtain ⟨first, hfirst, c, hc, hplain⟩ := h.opening
  exact ⟨hspaced.inside h.word, c, (hspaced.head? h.word hfirst).trans hc, hplain⟩

/-- The rows that are written have the lines counted from one. -/
theorem lines_render {actions : List Action} (h : Writable actions) :
    (rows (Text.joinWith ['\n'] (actions.map Action.render))).map Row.line =
      List.range' 1 actions.length := by
  have hne : actions.map Action.render ≠ [] := by
    obtain ⟨_, _⟩ := h
    exact nofun
  have hstarts : ∀ line ∈ actions.map Action.render, Starts line :=
    List.forall_mem_map.mpr fun action hmem => (h.legible action hmem).starts
  rw [rows_eq_scan, scan_lines hstarts hne, filterMap_rowOf? fun line hmem =>
    hstarts line.2 (List.of_mem_zip hmem).2, List.map_fst_zip (by simp), List.length_map]

/-- Directives are known from their actions and their lines. -/
theorem eq_numbered {found directives : List Directive}
    (hactions : found.map Directive.action = directives.map Directive.action)
    (hlines : found.map Directive.line =
      (List.range' 1 directives.length).map fun n : Nat => some (n : Int)) :
    found = directives.mapIdx fun i directive => ⟨some ↑(i + 1), directive.action⟩ := by
  have hlength : found.length = directives.length := by
    simpa using congrArg List.length hactions
  refine List.ext_getElem (by simpa using hlength) fun i hi hi' => ?_
  have hi'' : i < directives.length := hlength ▸ hi
  have haction : found[i].action = directives[i].action := by
    simpa [hi, hi''] using congrArg (·[i]?) hactions
  have hline : found[i].line = some ↑(i + 1) := by
    simpa [hi, hi'', Nat.add_comm] using congrArg (·[i]?) hlines
  have heta : ∀ d : Directive, d = ⟨d.line, d.action⟩ := fun _ => rfl
  rw [heta found[i], hline, haction, List.getElem_mapIdx]

/-- Directives that can be written are written as a layout of their actions, which is
read as they are, on the lines counted from one.  Every other layout of their actions
is read as these too. -/
theorem parse_render {directives : List Directive}
    (h : Writable (directives.map Directive.action)) :
    Lays (directives.map Directive.action) (render directives).toList ∧
    parse (render directives) =
      .ok (directives.mapIdx fun i directive => ⟨some ↑(i + 1), directive.action⟩) ∧
    ∀ text : String, Lays (directives.map Directive.action) text.toList →
      ∃ found, parse text = .ok found ∧
        found.map Directive.action = directives.map Directive.action := by
  have hrender : (render directives).toList =
      Text.joinWith ['\n'] ((directives.map Directive.action).map Action.render) := by
    rw [render, String.toList_ofList, List.map_map]
    rfl
  have hlays : Lays (directives.map Directive.action) (render directives).toList := by
    rw [hrender]
    refine lays_render fun hnil => ?_
    rw [hnil] at h
    cases h
  refine ⟨hlays, ?_, fun text htext => htext.parse h⟩
  obtain ⟨found, hparse, hfound⟩ := hlays.parse h
  have hrows := lines_render h
  rw [← hrender, List.length_map] at hrows
  have hlines : found.map Directive.line =
      (List.range' 1 directives.length).map fun n : Nat => some (n : Int) := by
    rw [(directivesOf_ok.mp hparse).lines, ← hrows, List.map_map]
    rfl
  rw [hparse, eq_numbered hfound hlines]

/-- Actions with blanks, number signs and verbs for words. -/
def oddActions : List Action :=
  [.archiveName "-q.1_", .cookies "\u00a0#as", .save (.text "as\u2003") "\u3000#/cookies"]

theorem oddActions_writable : Writable oddActions := by
  have hname : NameText (String.ofList "-q.1_".toList) := isArchiveName_iff.mp (by decide)
  rw [String.ofList_toList] at hname
  refine .intro hname ?_
  simp only [List.forall_mem_cons]
  exact ⟨.cookies (by decide) (by decide),
    .save (by simp only [Source.word]; decide) (permitted_iff.mpr (by decide)) (by decide)
      (by decide), nofun⟩

/-- A layout of them with blank lines, a comment and blanks of all kinds. -/
def looseText : String :=
  "\u2028\r\n\u00a0zip-name \t-q.1_\n\t# as\rcookies\t\u00a0#as \n" ++
    "save-text as\u2003  as \u3000#/cookies\u000c"

theorem lays_looseText : Lays oddActions looseText.toList := by
  have hname : Spaced (Action.archiveName "-q.1_").words _ :=
    .next archiveVerb (by decide : [' ', '\t'] ≠ []) (by decide) (.last _)
  have hcookies : Spaced (Action.cookies "\u00a0#as").words _ :=
    .next cookiesVerb (by decide : ['\t'] ≠ []) (by decide) (.last _)
  have hsave : Spaced (Action.save (.text "as\u2003") "\u3000#/cookies").words _ :=
    .next "save-text" (by decide : [' '] ≠ []) (by decide)
      (.next "as\u2003" (by decide : [' ', ' '] ≠ []) (by decide)
        (.next "as" (by decide : [' '] ≠ []) (by decide) (.last _)))
  have hlines : looseText.toList =
      "\u2028".toList ++ '\r' :: ([] ++ '\n' ::
      ("\u00a0".toList ++ (archiveVerb.toList ++ [' ', '\t'] ++ "-q.1_".toList) ++ [] ++ '\n' ::
      (['\t'] ++ '#' :: " as".toList ++ '\r' ::
      ([] ++ (cookiesVerb.toList ++ ['\t'] ++ "\u00a0#as".toList) ++ [' '] ++ '\n' ::
      ([] ++ ("save-text".toList ++ [' '] ++ ("as\u2003".toList ++ [' ', ' '] ++
        ("as".toList ++ [' '] ++ "\u3000#/cookies".toList))) ++ "\u000c".toList))))) := by
    decide +kernel
  rw [hlines]
  exact .next (.blank (by decide)) (Or.inl rfl) <|
    .next (.blank (by decide)) (Or.inr rfl) <|
    .next (.row (by decide) hname (by decide)) (Or.inr rfl) <|
    .next (.comment (by decide) (by decide)) (Or.inl rfl) <|
    .next (.row (by decide) hcookies (by decide)) (Or.inr rfl) <|
    .last (.row (by decide) hsave (by decide))

/-- They are read from what is written, and from the layout. -/
theorem oddActions_parse :
    parse (render (oddActions.map (⟨none, ·⟩))) =
      .ok [⟨some 1, .archiveName "-q.1_"⟩, ⟨some 2, .cookies "\u00a0#as"⟩,
        ⟨some 3, .save (.text "as\u2003") "\u3000#/cookies"⟩] ∧
    ∃ found, parse looseText = .ok found ∧ found.map Directive.action = oddActions := by
  have hactions : (oddActions.map (⟨none, ·⟩)).map Directive.action = oddActions := rfl
  obtain ⟨_, hparse, hlayouts⟩ :=
    parse_render (by rw [hactions]; exact oddActions_writable)
  rw [hactions] at hlayouts
  exact ⟨hparse, hlayouts looseText lays_looseText⟩

end Dossier.Script
