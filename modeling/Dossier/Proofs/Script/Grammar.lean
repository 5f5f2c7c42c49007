import Dossier.Proofs.Script.Shape
import Mathlib.Data.List.Forall2

/-!
# The grammar of scripts

A script can be read line by line: cut at every carriage return and line feed,
trimmed, without silent lines, and split into words.  The rows of a text are found
in another way, by a scan that swallows blanks over several lines, but they have the
same words (`rows_words`).

What the rows may say is a small grammar.  The first names the archive
(`NamesArchive`), and every later one sets cookies or saves a source (`Instructs`).
A text is read as what its rows say, one directive for each, and otherwise refused
at the first row that says nothing (`parse_grammar`).
-/

namespace Dossier

namespace Text

/-- The pieces of a text are those of a list that is split. -/
theorem pieces_eq_splitOnP (isCut : Char → Bool) (cs : List Char) :
    pieces isCut cs = cs.splitOnP isCut := by
  induction cs with
  | nil => rfl
  | cons c cs ih =>
      rw [pieces_cons, ih, List.splitOnP_cons_eq_if_modifyHead]
      obtain ⟨p, ps, hp⟩ := List.exists_cons_of_ne_nil (List.splitOnP_ne_nil isCut cs)
      rw [hp, pieceStep]
      rfl

end Text

namespace Script

/-! ## Reading line by line -/

/-- The words of a row, as strings. -/
def Row.strings (row : Row) : List String := row.words.map String.ofList

/-- The words on a line. -/
def lineWords (line : List Char) : List String :=
  ((line.splitOnP Text.isGap).filter fun word => !word.isEmpty).map String.ofList

/-- The words of a text, read line by line. -/
def plainRows (cs : List Char) : List (List String) :=
  (((cs.splitOnP Text.isLineEnd).map Text.trim).filter fun line => !isSilent line).map lineWords

/-- The words on a line that is not trimmed, unless it is silent then. -/
def wordsOf? (line : List Char) : Option (List String) :=
  if isSilent (Text.trim line) then none else some (lineWords (Text.trim line))

theorem plainRows_eq (cs : List Char) :
    plainRows cs = (cs.splitOnP Text.isLineEnd).filterMap wordsOf? := by
  rw [plainRows, List.filter_map, List.map_map]
  induction cs.splitOnP Text.isLineEnd with
  | nil => rfl
  | cons line rest ih =>
      rw [List.filterMap_cons, List.filter_cons, wordsOf?]
      cases h : isSilent (Text.trim line) <;> simpa [h] using ih

theorem rowOf?_strings (line : Nat × List Char) :
    (rowOf? line).map Row.strings = wordsOf? line.2 := by
  rw [rowOf?, wordsOf?]
  split
  · rfl
  · rw [Option.map_some, Row.strings, Text.words, Text.pieces_eq_splitOnP, lineWords]

theorem wordsOf?_nil : wordsOf? [] = none := by decide

/-- A blank at the head of a line does not matter. -/
theorem wordsOf?_cons {c : Char} (hc : Text.isBlank c = true) (line : List Char) :
    wordsOf? (c :: line) = wordsOf? line := by
  rw [wordsOf?, wordsOf?, Text.trim, Text.trim, Text.trimLeft, Text.trimLeft,
    List.dropWhile_cons_of_pos hc]

/-- A blank at the head of a text does not matter. -/
theorem plainRows_cons {c : Char} (hc : Text.isBlank c = true) (cs : List Char) :
    plainRows (c :: cs) = plainRows cs := by
  rw [plainRows_eq, plainRows_eq, List.splitOnP_cons_eq_if_modifyHead]
  split
  · rw [List.filterMap_cons, wordsOf?_nil]
  · obtain ⟨p, ps, hp⟩ := List.exists_cons_of_ne_nil (List.splitOnP_ne_nil Text.isLineEnd cs)
    rw [hp, List.modifyHead_cons, List.filterMap_cons, List.filterMap_cons, wordsOf?_cons hc]

/-- A scan finds the words that are found line by line: in a gap those of the rest
of the text, and in a row those of the row with the rest. -/
theorem scan_words (cs : List Char) : ∀ (line : Nat),
    (∀ before, (scan line (.row before) cs).filterMap (fun found => wordsOf? found.2) =
      ((cs.splitOnP Text.isLineEnd).modifyHead (before.reverse ++ ·)).filterMap wordsOf?) ∧
    ∀ feeds, (scan line (.gap feeds) cs).filterMap (fun found => wordsOf? found.2) =
      plainRows cs := by
  induction cs with
  | nil =>
      refine fun line => ⟨fun before => ?_, fun feeds => ?_⟩
      · rw [scan, List.splitOnP_nil, List.modifyHead_cons, List.append_nil]
        rfl
      · rw [scan, plainRows_eq]
        rfl
  | cons c rest ih =>
      refine fun line => ⟨fun before => ?_, fun feeds => ?_⟩
      · rw [scan, List.splitOnP_cons_eq_if_modifyHead]
        split
        · rw [List.filterMap_cons, (ih line).2, plainRows_eq, List.modifyHead_cons,
            List.append_nil, List.filterMap_cons]
        · rw [(ih line).1, List.modifyHead_modifyHead, List.reverse_cons]
          congr 2
          funext l
          simp
      · rw [scan]
        split
        · rename_i hblank
          rw [(ih line).2, plainRows_cons hblank]
        · rename_i hblank
          have hend : ¬ Text.isLineEnd c = true := fun h => hblank (Text.isBlank_of_isLineEnd h)
          rw [(ih _).1, plainRows_eq, List.splitOnP_cons_eq_if_modifyHead, if_neg hend]
          rfl

/-- The rows of a text have the words that are found line by line. -/
theorem rows_words (cs : List Char) : (rows cs).map Row.strings = plainRows cs := by
  have htrim : plainRows (Text.trimLeft cs) = plainRows cs := by
    rw [Text.trimLeft]
    induction cs with
    | nil => rfl
    | cons c rest ih =>
        by_cases hc : Text.isBlank c = true
        · rw [List.dropWhile_cons_of_pos hc, ih, plainRows_cons hc]
        · rw [List.dropWhile_cons_of_neg hc]
  rw [rows, List.map_filterMap, ← htrim, plainRows_eq]
  simp only [rowOf?_strings]
  rw [lines, (scan_words _ _).1]
  cases (Text.trimLeft cs).splitOnP Text.isLineEnd <;> rfl

/-! ## The grammar -/

/-- A name that a script may give its archive. -/
def NameText (name : String) : Prop :=
  name ≠ "" ∧ ∀ c ∈ name.toList, c ∈ ['-', '_', '.'] ∨ ('a' ≤ c ∧ c ≤ 'z') ∨
    ('A' ≤ c ∧ c ≤ 'Z') ∨ ('0' ≤ c ∧ c ≤ '9')

/-- What the first row says: the name of the archive. -/
inductive NamesArchive : List String → Action → Prop
  | intro {name : String} (valid : NameText name) :
      NamesArchive ["zip-name", name] (.archiveName name)

/-- A destination that a row may save to. -/
structure Permitted (destination : String) : Prop where
  relative : destination.toList.head? ≠ some '/'
  harmless : ∀ c ∈ destination.toList, Destination.isHostile c = false
  segments : ∀ segment ∈ Destination.segments destination,
    segment ≠ "" ∧ segment ≠ "." ∧ segment ≠ ".."

/-- What a row after the first says: it sets cookies, or saves a source. -/
inductive Instructs : List String → Action → Prop
  | cookies (blob : String) : Instructs ["cookies", blob] (.cookies blob)
  | save (source : Source) {destination : String} (permitted : Permitted destination) :
      Instructs [source.verb, source.word, "as", destination] (.save source destination)

/-- A directive says what its row says, and has the line of the row. -/
def Says (what : List String → Action → Prop) (row : Row) (directive : Directive) : Prop :=
  directive.line = some (row.line : Int) ∧ what row.strings directive.action

/-- A row that says nothing. -/
def Mute (what : List String → Action → Prop) (row : Row) : Prop :=
  ∀ action, ¬ what row.strings action

/-- Rows are read as directives, one for each. -/
inductive Reads : List Row → List Directive → Prop
  | script {row : Row} {rest : List Row} {directive : Directive} {directives : List Directive}
      (first : Says NamesArchive row directive)
      (later : List.Forall₂ (Says Instructs) rest directives) :
      Reads (row :: rest) (directive :: directives)

/-- The first of some rows that says nothing, where one row is to say something of
its own and those after it are to instruct. -/
inductive FirstMute : (List String → Action → Prop) → List Row → Row → Prop
  | here {what : List String → Action → Prop} {row : Row} {rest : List Row}
      (mute : Mute what row) : FirstMute what (row :: rest) row
  | there {what : List String → Action → Prop} {row found : Row} {rest : List Row}
      (fluent : ¬ Mute what row) (later : FirstMute Instructs rest found) :
      FirstMute what (row :: rest) found

/-- The directives have the lines of the rows, one after the other. -/
theorem Reads.lines {rows : List Row} {directives : List Directive} (h : Reads rows directives) :
    directives.map Directive.line = rows.map fun row => some (row.line : Int) := by
  obtain ⟨first, later⟩ := h
  rw [List.map_cons, List.map_cons, first.1]
  congr 1
  induction later with
  | nil => rfl
  | cons hsays _ ih => rw [List.map_cons, List.map_cons, hsays.1, ih]

theorem FirstMute.mem {what : List String → Action → Prop} {rows : List Row} {row : Row}
    (h : FirstMute what rows row) : row ∈ rows := by
  induction h with
  | here _ => exact List.mem_cons_self ..
  | there _ _ ih => exact List.mem_cons_of_mem _ ih

/-! ## Single rows -/

theorem isNameChar_iff {c : Char} : isNameChar c = true ↔
    c ∈ ['-', '_', '.'] ∨ ('a' ≤ c ∧ c ≤ 'z') ∨ ('A' ≤ c ∧ c ≤ 'Z') ∨ ('0' ≤ c ∧ c ≤ '9') := by
  have hdigit : Text.isPlainDigit c = true ↔ '0' ≤ c ∧ c ≤ '9' := by
    rw [Text.isPlainDigit, Bool.and_eq_true, decide_eq_true_iff, decide_eq_true_iff]
    exact Iff.rfl
  simp only [isNameChar, Host.isPlainLetter, Bool.or_eq_true, Bool.and_eq_true, beq_iff_eq,
    decide_eq_true_iff, hdigit, List.mem_cons, List.not_mem_nil, or_false, or_assoc]

theorem isArchiveName_iff {name : List Char} :
    isArchiveName name = true ↔ NameText (String.ofList name) := by
  rw [isArchiveName, Bool.and_eq_true, List.all_eq_true, NameText, String.toList_ofList]
  simp only [isNameChar_iff]
  refine and_congr_left fun _ => ?_
  cases name with
  | nil => simp
  | cons c cs => simp [← String.toList_inj]

theorem permitted_iff {d : String} : Permitted d ↔ Destination.Safe d := by
  have hidle : ∀ segment : String, Destination.isIdle segment = false ↔
      segment ≠ "" ∧ segment ≠ "." ∧ segment ≠ ".." := by
    intro segment
    simp [Destination.isIdle, and_assoc]
  rw [Destination.safe_iff]
  simp only [hidle]
  exact ⟨fun h => ⟨h.harmless, h.relative, h.segments⟩, fun h => ⟨h.2.1, h.1, h.2.2⟩⟩

theorem eq_map_toList {words : List (List Char)} {strings : List String}
    (h : words.map String.ofList = strings) : words = strings.map String.toList := by
  rw [← h, List.map_map]
  exact (List.map_id'' (fun word => String.toList_ofList) words).symm

theorem parseFirst_ok {words : List (List Char)} {action : Action} :
    parseFirst words = .ok action ↔ NamesArchive (words.map String.ofList) action := by
  constructor
  · intro h
    rw [parseFirst.eq_def] at h
    split at h
    · cases h
    · rename_i hverb
      split at h
      · split at h
        · rename_i hname
          cases h
          rw [verbOf, List.headD_cons, Classical.not_not] at hverb
          rw [List.map_cons, hverb]
          exact .intro (isArchiveName_iff.mp hname)
        · cases h
      · cases h
  · intro h
    generalize hwords : words.map String.ofList = strings at h
    obtain rfl := eq_map_toList hwords
    cases h with
    | @intro name valid =>
        have hname : isArchiveName name.toList = true :=
          isArchiveName_iff.mpr (by rwa [String.ofList_toList])
        simp [parseFirst, verbOf, archiveVerb, hname]

theorem ofVerb?_eq_some {verb word : String} {source : Source}
    (h : Source.ofVerb? verb word = some source) : verb = source.verb ∧ word = source.word := by
  rw [Source.ofVerb?] at h
  split at h
  · cases h
    exact ⟨‹_›, rfl⟩
  · split at h
    · cases h
      exact ⟨‹_›, rfl⟩
    · split at h
      · cases h
        exact ⟨‹_›, rfl⟩
      · cases h

theorem verb_mem_saveVerbs (source : Source) : source.verb ∈ saveVerbs := by
  cases source <;> simp [Source.verb, saveVerbs]

theorem instructs_of_parseSave {words : List (List Char)} {action : Action}
    (h : parseSave words = .ok action) : Instructs (words.map String.ofList) action := by
  rw [parseSave.eq_def] at h
  split at h
  · split at h
    · cases h
    · rename_i hlink
      split at h
      · cases h
      · rename_i hsafe
        split at h
        · rename_i source hsource
          cases h
          obtain ⟨hverb, hword⟩ := ofVerb?_eq_some hsource
          simp only [List.map_cons, List.map_nil, hverb, hword, Classical.not_not.mp hlink]
          exact .save source (permitted_iff.mpr hsafe)
        · cases h
  · cases h

theorem parseLater_ok {words : List (List Char)} {action : Action} :
    parseLater words = .ok action ↔ Instructs (words.map String.ofList) action := by
  constructor
  · intro h
    rw [parseLater.eq_def] at h
    split at h
    · cases h
    · split at h
      · rename_i hverb
        split at h
        · cases h
          rw [verbOf, List.headD_cons] at hverb
          rw [List.map_cons, hverb]
          exact .cookies _
        · cases h
      · split at h
        · exact instructs_of_parseSave h
        · cases h
  · intro h
    generalize hwords : words.map String.ofList = strings at h
    obtain rfl := eq_map_toList hwords
    cases h with
    | cookies blob => simp [parseLater, verbOf, archiveVerb, cookiesVerb]
    | @save source destination permitted =>
        have hverb := verb_mem_saveVerbs source
        have hsafe : Destination.fault? destination = none := permitted_iff.mp permitted
        have hother : source.verb ≠ archiveVerb ∧ source.verb ≠ cookiesVerb := by
          cases source <;> simp [Source.verb, archiveVerb, cookiesVerb]
        simp [parseLater, parseSave, verbOf, hverb, hother, hsafe, linkWord, Source.ofVerb?_verb]

/-! ## Scripts -/

/-- The directives of a row and of those after it, given how to read the row. -/
def readRows (read : List (List Char) → Except Defect Action) (row : Row) (rest : List Row) :
    Except Fault (List Directive) :=
  match directiveOf read row with
  | .error fault => .error fault
  | .ok directive => (laterDirectives rest).map (directive :: ·)

theorem laterDirectives_cons (row : Row) (rest : List Row) :
    laterDirectives (row :: rest) = readRows parseLater row rest := rfl

theorem directivesOf_cons (row : Row) (rest : List Row) :
    directivesOf (row :: rest) = readRows parseFirst row rest := rfl

section Reading

variable {read : List (List Char) → Except Defect Action} {what : List String → Action → Prop}
  (hread : ∀ {words action}, read words = .ok action ↔ what (words.map String.ofList) action)
include hread

/-- The directive of a row says what the row says. -/
theorem directiveOf_ok {row : Row} {directive : Directive} :
    directiveOf read row = .ok directive ↔ Says what row directive := by
  obtain ⟨line, action⟩ := directive
  rw [Says, Row.strings, ← hread, directiveOf]
  cases read row.words <;> simp [and_comm, eq_comm]

/-- A row that says nothing is refused, with its line. -/
theorem directiveOf_of_mute {row : Row} (h : Mute what row) :
    ∃ defect, directiveOf read row = .error (.malformed (some row.line) defect) := by
  rw [directiveOf]
  cases hwords : read row.words with
  | ok action => exact absurd (hread.mp hwords) (h action)
  | error defect => exact ⟨defect, rfl⟩

/-- Only a row that says nothing is refused. -/
theorem mute_of_directiveOf {row : Row} {fault : Fault} (h : directiveOf read row = .error fault) :
    Mute what row := by
  intro action hsays
  have hok := (directiveOf_ok hread).mpr (⟨rfl, hsays⟩ : Says what row ⟨some row.line, action⟩)
  rw [hok] at h
  cases h

theorem readRows_ok {row : Row} {rest : List Row} {directives : List Directive} :
    readRows read row rest = .ok directives ↔ ∃ directive later, directives = directive :: later ∧
      Says what row directive ∧ laterDirectives rest = .ok later := by
  constructor
  · intro h
    rw [readRows] at h
    split at h
    · cases h
    · rename_i directive hrow
      cases hrest : laterDirectives rest with
      | error fault => rw [hrest] at h; cases h
      | ok later =>
          rw [hrest] at h
          cases h
          exact ⟨directive, later, rfl, (directiveOf_ok hread).mp hrow, rfl⟩
  · rintro ⟨directive, later, rfl, hsays, hrest⟩
    rw [readRows, (directiveOf_ok hread).mpr hsays, hrest]
    rfl

/-- Rows are refused at the first of them that says nothing. -/
theorem readRows_malformed {row : Row} {rest : List Row} {line : Option Int}
    (hrest : (∃ defect, laterDirectives rest = .error (.malformed line defect)) ↔
      ∃ found, FirstMute Instructs rest found ∧ line = some (found.line : Int)) :
    (∃ defect, readRows read row rest = .error (.malformed line defect)) ↔
      ∃ found, FirstMute what (row :: rest) found ∧ line = some (found.line : Int) := by
  by_cases hmute : Mute what row
  · obtain ⟨defect, hrow⟩ := directiveOf_of_mute hread hmute
    have hread' : readRows read row rest = .error (.malformed (some row.line) defect) := by
      rw [readRows, hrow]
    constructor
    · rintro ⟨_, h⟩
      cases hread'.symm.trans h
      exact ⟨row, .here hmute, rfl⟩
    · rintro ⟨found, hfirst, rfl⟩
      cases hfirst with
      | here _ => exact ⟨defect, hread'⟩
      | there fluent _ => exact absurd hmute fluent
  · cases hrow : directiveOf read row with
    | error fault => exact absurd (mute_of_directiveOf hread hrow) hmute
    | ok directive =>
        have hlater : (∃ defect, readRows read row rest = .error (.malformed line defect)) ↔
            ∃ defect, laterDirectives rest = .error (.malformed line defect) := by
          rw [readRows, hrow]
          cases laterDirectives rest <;> simp [Except.map]
        rw [hlater, hrest]
        constructor
        · rintro ⟨found, hfirst, hline⟩
          exact ⟨found, .there hmute hfirst, hline⟩
        · rintro ⟨found, hfirst, hline⟩
          cases hfirst with
          | here mute => exact absurd mute hmute
          | there _ later => exact ⟨found, later, hline⟩

end Reading

theorem laterDirectives_ok {rows : List Row} {directives : List Directive} :
    laterDirectives rows = .ok directives ↔ List.Forall₂ (Says Instructs) rows directives := by
  induction rows generalizing directives with
  | nil => simp [laterDirectives, eq_comm]
  | cons row rest ih =>
      rw [laterDirectives_cons, readRows_ok parseLater_ok, List.forall₂_cons_left_iff]
      simp only [ih]
      grind

theorem laterDirectives_malformed {rows : List Row} {line : Option Int} :
    (∃ defect, laterDirectives rows = .error (.malformed line defect)) ↔
      ∃ found, FirstMute Instructs rows found ∧ line = some (found.line : Int) := by
  induction rows with
  | nil => exact iff_of_false (by rintro ⟨_, ⟨⟩⟩) (by rintro ⟨_, ⟨⟩, _⟩)
  | cons row rest ih => exact readRows_malformed parseLater_ok ih

theorem directivesOf_ok {rows : List Row} {directives : List Directive} :
    directivesOf rows = .ok directives ↔ Reads rows directives := by
  cases rows with
  | nil => exact ⟨nofun, nofun⟩
  | cons row rest =>
      rw [directivesOf_cons, readRows_ok parseFirst_ok]
      constructor
      · rintro ⟨directive, later, rfl, hsays, hrest⟩
        exact .script hsays (laterDirectives_ok.mp hrest)
      · rintro ⟨first, later⟩
        exact ⟨_, _, rfl, first, laterDirectives_ok.mpr later⟩

theorem directivesOf_malformed {rows : List Row} {line : Option Int} :
    (∃ defect, directivesOf rows = .error (.malformed line defect)) ↔
      ∃ found, FirstMute NamesArchive rows found ∧ line = some (found.line : Int) := by
  cases rows with
  | nil => exact iff_of_false (by rintro ⟨_, ⟨⟩⟩) (by rintro ⟨_, ⟨⟩, _⟩)
  | cons row rest => exact readRows_malformed parseFirst_ok laterDirectives_malformed

theorem readRows_ne_empty (read : List (List Char) → Except Defect Action) (row : Row)
    {rest : List Row} (hrest : laterDirectives rest ≠ .error .empty) :
    readRows read row rest ≠ .error .empty := by
  intro h
  rw [readRows, directiveOf] at h
  cases hwords : read row.words with
  | error defect =>
      rw [hwords] at h
      cases h
  | ok action =>
      rw [hwords] at h
      cases hlater : laterDirectives rest with
      | ok later => rw [hlater] at h; cases h
      | error fault =>
          rw [hlater] at h
          cases h
          exact hrest hlater

theorem laterDirectives_ne_empty : ∀ rows : List Row, laterDirectives rows ≠ .error .empty
  | [] => nofun
  | row :: rest => readRows_ne_empty parseLater row (laterDirectives_ne_empty rest)

theorem directivesOf_empty {rows : List Row} : directivesOf rows = .error .empty ↔ rows = [] := by
  cases rows with
  | nil => exact iff_of_true rfl rfl
  | cons row rest =>
      exact iff_of_false (readRows_ne_empty parseFirst row (laterDirectives_ne_empty rest)) nofun

/-- A text is read as what its rows say, and the rows have the words that are found
line by line.  Without rows it is refused as empty, and otherwise at the first row
that says nothing, with the line of that row. -/
theorem parse_grammar (text : String) :
    (rows text.toList).map Row.strings = plainRows text.toList ∧
    (parse text = .error .empty ↔ plainRows text.toList = []) ∧
    (∀ directives, parse text = .ok directives ↔ Reads (rows text.toList) directives) ∧
    ∀ line, (∃ defect, parse text = .error (.malformed line defect)) ↔
      ∃ row, FirstMute NamesArchive (rows text.toList) row ∧ line = some (row.line : Int) := by
  refine ⟨rows_words _, ?_, fun _ => directivesOf_ok, fun _ => directivesOf_malformed⟩
  rw [← rows_words, List.map_eq_nil_iff]
  exact directivesOf_empty

end Script

end Dossier
