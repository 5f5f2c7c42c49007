import Dossier.Cookies
import Dossier.Proofs.Script.Grammar
import Dossier.Proofs.Text.Base64
import Dossier.Proofs.Text.Blank
import Dossier.Proofs.Text.Utf8
import Mathlib.Data.List.TakeWhile

/-!
# The header of cookies

The cookies that are read from a text are *tidy*: their names and values are
trimmed, and have none of the marks that would be read in another way.  So a
header with tidy cookies is read as these again (`parse_header`), and what is
decoded from a blob is sent as it was read (`header_of_decoded`).

The blob of a text holds the cookies of the text (`decode_blob`).  So cookies that
some text holds come back from their header and from the blob of it, and no others do
(`header_roundTrip`).
-/

namespace Dossier

namespace Text

/-- A text is divided at the first occurrence of a character. -/
theorem divide_append {mark : Char} {before : List Char} (h : mark ∉ before) (after : List Char) :
    divide mark (before ++ mark :: after) = (before, true, after) := by
  have hbefore : ∀ c ∈ before, (c != mark) = true := fun c hc => by
    simpa using fun he : c = mark => h (he ▸ hc)
  rw [divide, List.dropWhile_append_of_pos hbefore, List.dropWhile_cons_of_neg (by simp),
    List.takeWhile_append_of_pos hbefore, List.takeWhile_cons_of_neg (by simp), List.append_nil]

/-- The part before the mark does not have it, and both parts have been there. -/
theorem divide_parts (mark : Char) (cs : List Char) :
    mark ∉ (divide mark cs).1 ∧ (divide mark cs).1 ⊆ cs ∧ (divide mark cs).2.2 ⊆ cs := by
  rw [divide]
  split
  · rename_i hnone
    refine ⟨fun hmark => ?_, List.Subset.refl _, List.nil_subset _⟩
    have hkept : cs.takeWhile (· != mark) = cs := by
      simpa [hnone] using List.takeWhile_append_dropWhile (p := (· != mark)) (l := cs)
    have hmem : mark ∈ cs.takeWhile (· != mark) := by rwa [hkept]
    simpa using List.mem_takeWhile_imp hmem
  · rename_i c rest hsome
    refine ⟨fun hmark => by simpa using List.mem_takeWhile_imp hmark,
      (List.takeWhile_sublist _).subset, fun d hd => ?_⟩
    exact (List.dropWhile_sublist _).subset (hsome.symm ▸ List.mem_cons_of_mem c hd)

end Text

namespace Cookies

theorem isEmpty_iff {cookies : Cookies} : cookies.isEmpty = true ↔ cookies.pairs = [] :=
  List.isEmpty_iff

/-! ## Tidy cookies -/

/-- A cookie that is found again in a header. -/
structure Tidy (pair : String × String) : Prop where
  name : Text.Trimmed pair.1.toList
  value : Text.Trimmed pair.2.toList
  undivided : '=' ∉ pair.1.toList
  whole : ';' ∉ pairText pair

/-- A cookie is tidy if it is read from a piece. -/
theorem tidy_of_pair? {piece : List Char} (huncut : ';' ∉ piece) {pair : String × String}
    (h : pair? piece = some pair) : Tidy pair := by
  rw [pair?] at h
  split at h
  · cases h
  · cases h
    obtain ⟨hmark, hname, hvalue⟩ := Text.divide_parts '=' (Text.trim piece)
    have hname' : Text.trim (Text.divide '=' (Text.trim piece)).1 ⊆ piece := fun c hc =>
      Text.mem_of_mem_trim (hname (Text.mem_of_mem_trim hc))
    have hvalue' : Text.trim (Text.divide '=' (Text.trim piece)).2.2 ⊆ piece := fun c hc =>
      Text.mem_of_mem_trim (hvalue (Text.mem_of_mem_trim hc))
    refine ⟨?_, ?_, ?_, ?_⟩
    · rw [String.toList_ofList]
      exact Text.trim_trimmed _
    · rw [String.toList_ofList]
      exact Text.trim_trimmed _
    · rw [String.toList_ofList]
      exact fun hc => hmark (Text.mem_of_mem_trim hc)
    · rw [pairText, String.toList_ofList, String.toList_ofList, List.mem_append, List.mem_cons]
      rintro (hc | hc | hc)
      · exact huncut (hname' hc)
      · cases hc
      · exact huncut (hvalue' hc)

theorem parse_tidy (text : String) : ∀ pair ∈ (parse text).pairs, Tidy pair := by
  intro pair hpair
  obtain ⟨piece, hpiece, hpair⟩ := List.mem_filterMap.mp hpair
  exact tidy_of_pair? (fun hc => by simpa using (Text.mem_of_mem_pieces hpiece hc).2) hpair

theorem trimmed_pairText {pair : String × String} (h : Tidy pair) :
    Text.Trimmed (pairText pair) := by
  have hmark : Text.isBlank '=' = false := by decide
  refine ⟨fun c hc => ?_, fun c hc => ?_⟩
  · cases hname : pair.1.toList with
    | nil =>
        rw [pairText, hname] at hc
        rwa [← Option.some.inj hc]
    | cons d rest =>
        rw [pairText, hname] at hc
        exact h.name.head c (hname ▸ hc)
  · rw [pairText, List.getLast?_append_of_ne_nil _ (List.cons_ne_nil _ _)] at hc
    cases hvalue : pair.2.toList with
    | nil =>
        rw [hvalue] at hc
        rwa [← Option.some.inj hc]
    | cons d rest =>
        rw [hvalue, List.getLast?_cons_cons] at hc
        exact h.value.last c (hvalue ▸ hc)

/-- A tidy cookie is read from what is written of it. -/
theorem pair?_pairText {pair : String × String} (h : Tidy pair) :
    pair? (pairText pair) = some pair := by
  have hdivide := Text.divide_append h.undivided pair.2.toList
  rw [pair?, Text.trim_of_trimmed (trimmed_pairText h)]
  simp [pairText, hdivide, Text.trim_of_trimmed h.name, Text.trim_of_trimmed h.value]

theorem pair?_space (piece : List Char) : pair? (' ' :: piece) = pair? piece := by
  rw [pair?, pair?, Text.trim_cons_of_blank (by decide)]

/-! ## Reading a header -/

/-- The pieces of texts that are joined are these texts, all but the first after a
space. -/
theorem pieces_joined {texts : List (List Char)} (h : ∀ text ∈ texts, ';' ∉ text) :
    (Text.pieces (· == ';') (Text.joinWith [';', ' '] texts)).filterMap pair? =
      texts.filterMap pair? := by
  have hcut : ∀ {text : List Char}, ';' ∉ text → ∀ c ∈ text, (c == ';') = false :=
    fun htext c hc => by simpa using fun he : c = ';' => htext (he ▸ hc)
  induction texts with
  | nil => rfl
  | cons text texts ih =>
      obtain ⟨htext, htexts⟩ := List.forall_mem_cons.mp h
      cases texts with
      | nil => rw [Text.joinWith, Text.pieces_of_uncut (hcut htext)]
      | cons second texts =>
          rw [Text.pieces_eq_splitOnP] at ih ⊢
          rw [Text.joinWith, List.append_assoc, List.cons_append,
            List.splitOnP_append_cons_of_forall_mem (hcut htext) ';' (by decide),
            List.singleton_append, List.splitOnP_cons_eq_if_modifyHead, if_neg (by decide),
            List.filterMap_cons, List.filterMap_cons, ← ih htexts]
          obtain ⟨piece, pieces, hpieces⟩ := List.exists_cons_of_ne_nil
            (List.splitOnP_ne_nil (· == ';') (Text.joinWith [';', ' '] (second :: texts)))
          rw [hpieces, List.modifyHead_cons, List.filterMap_cons, List.filterMap_cons, pair?_space]

/-- Tidy cookies are read from their header. -/
theorem parse_header {cookies : Cookies} (h : ∀ pair ∈ cookies.pairs, Tidy pair) :
    parse cookies.header = cookies := by
  have hpairs : (cookies.pairs.map pairText).filterMap pair? = cookies.pairs := by
    rw [List.filterMap_map]
    exact (List.filterMap_congr fun pair hpair => pair?_pairText (h pair hpair)).trans
      List.filterMap_some
  rw [parse, header, String.toList_ofList, pieces_joined, hpairs]
  exact List.forall_mem_map.mpr fun pair hpair => (h pair hpair).whole

/-- The cookies of a blob are those of the header that is sent for them. -/
theorem header_of_decoded {blob : String} {cookies : Cookies} (h : decode blob = .ok cookies) :
    parse cookies.header = cookies := by
  rw [decode] at h
  split at h
  · cases h
  · split at h
    · cases h
    · cases h
      exact parse_header (parse_tidy _)

/-- Cookies that some text holds are those that are tidy. -/
theorem tidy_iff {cookies : Cookies} :
    (∀ pair ∈ cookies.pairs, Tidy pair) ↔ ∃ text, parse text = cookies := by
  constructor
  · exact fun h => ⟨cookies.header, parse_header h⟩
  · rintro ⟨text, rfl⟩
    exact parse_tidy text

/-! ## Reading a blob -/

/-- The blob of a text holds the cookies of the text. -/
theorem decode_blob (text : String) : decode (encode text) = .ok (parse text) := by
  rw [decode, encode, String.toList_ofList, Base64.decode_encode]
  dsimp only
  rw [Utf8.decode_encode]
  dsimp only
  rw [String.ofList_toList]

/-- The cookies of a text are read again from their header, which is written alike then.  Cookies
come back from the blob of their header just if some text holds them, and these are the tidy
ones: no name has an equals sign, no name and no value has a semicolon, and neither starts or ends
with a blank. -/
theorem header_roundTrip (text : String) (cookies : Cookies) :
    parse (parse text).header = parse text ∧
    (parse (parse text).header).header = (parse text).header ∧
    ((∃ source, parse source = cookies) ↔ decode (encode cookies.header) = .ok cookies) ∧
    ((∃ source, parse source = cookies) ↔ ∀ pair ∈ cookies.pairs, Tidy pair) := by
  have hparse : parse (parse text).header = parse text := parse_header (parse_tidy text)
  refine ⟨hparse, by rw [hparse], ?_, tidy_iff.symm⟩
  rw [decode_blob, Except.ok.injEq]
  constructor
  · rintro ⟨source, rfl⟩
    exact parse_header (parse_tidy source)
  · exact fun h => ⟨cookies.header, h⟩

example : parse (parse " =a =\u3000b ;;é").header = ⟨[("", "a =\u3000b"), ("é", "")]⟩ := by
  decide +kernel

end Cookies

end Dossier
