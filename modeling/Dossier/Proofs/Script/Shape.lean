import Dossier.Script.Parser
import Dossier.Store.Path

/-!
# The shape of a script

A script that is accepted names its archive first and then only sets cookies
and saves to safe destinations (`parse_shape`).

A safe destination is a relative path whose parts are its segments, so that
below a directory it leads exactly where its segments say (`child_of_safe`).
Two destinations with the same segments are the same (`segments_inj`).

`destinations` are those that a script saves to.  If they are `PrefixFree` none
of them lies below another one.
-/

namespace Dossier

/-! ## Cutting and joining -/

namespace Text

theorem pieces_nil (isCut : Char → Bool) : pieces isCut [] = [[]] := rfl

theorem pieces_cons (isCut : Char → Bool) (c : Char) (cs : List Char) :
    pieces isCut (c :: cs) = pieceStep isCut c (pieces isCut cs) := rfl

theorem pieces_ne_nil (isCut : Char → Bool) (cs : List Char) : pieces isCut cs ≠ [] := by
  cases cs with
  | nil => simp [pieces_nil]
  | cons c cs =>
      rw [pieces_cons]
      cases pieces isCut cs <;> rw [pieceStep] <;> split <;> simp

/-- The pieces of a text, joined by the character they were cut at, give the
text back. -/
theorem joinWith_pieces (mark : Char) (cs : List Char) :
    joinWith [mark] (pieces (· == mark) cs) = cs := by
  induction cs with
  | nil => rfl
  | cons c cs ih =>
      rw [pieces_cons]
      cases hp : pieces (· == mark) cs with
      | nil => exact absurd hp (pieces_ne_nil _ cs)
      | cons p ps =>
          rw [hp] at ih
          rw [pieceStep]
          by_cases hc : c = mark
          · subst hc
            simp only [beq_self_eq_true, if_true]
            rw [joinWith, ih]
            rfl
          · have hb : (c == mark) = false := by simpa using hc
            rw [hb, if_neg Bool.false_ne_true]
            cases ps with
            | nil =>
                rw [joinWith] at ih ⊢
                rw [ih]
            | cons q qs =>
                rw [joinWith] at ih ⊢
                simp [← ih]

/-- A text that is not cut is one piece. -/
theorem pieces_of_uncut {isCut : Char → Bool} {cs : List Char}
    (h : ∀ c ∈ cs, isCut c = false) : pieces isCut cs = [cs] := by
  induction cs with
  | nil => rfl
  | cons c cs ih =>
      rw [pieces_cons, ih fun d hd => h d (List.mem_cons_of_mem _ hd), pieceStep,
        if_neg (by simp [h c (List.mem_cons_self ..)])]

/-- The characters of a piece are characters of the text, and no cuts. -/
theorem mem_of_mem_pieces {isCut : Char → Bool} {cs p : List Char} {x : Char}
    (hp : p ∈ pieces isCut cs) (hx : x ∈ p) : x ∈ cs ∧ isCut x = false := by
  induction cs generalizing p with
  | nil =>
      rw [pieces_nil, List.mem_singleton] at hp
      rw [hp] at hx
      cases hx
  | cons c cs ih =>
      have ih : ∀ {p : List Char}, p ∈ pieces isCut cs → x ∈ p → x ∈ c :: cs ∧ isCut x = false :=
        fun hp hx => ⟨List.mem_cons_of_mem _ (ih hp hx).1, (ih hp hx).2⟩
      rw [pieces_cons] at hp
      cases hps : pieces isCut cs with
      | nil => exact absurd hps (pieces_ne_nil isCut cs)
      | cons q qs =>
          rw [hps] at hp ih
          rw [pieceStep] at hp
          split at hp
          · cases List.mem_cons.mp hp with
            | inl he =>
                rw [he] at hx
                cases hx
            | inr hq => exact ih hq hx
          · rename_i hcut
            cases List.mem_cons.mp hp with
            | inl he =>
                rw [he] at hx
                cases List.mem_cons.mp hx with
                | inl hc => exact ⟨hc ▸ List.mem_cons_self .., by simpa [hc] using hcut⟩
                | inr hq => exact ih (List.mem_cons_self ..) hq
            | inr hq => exact ih (List.mem_cons_of_mem _ hq) hx

end Text

namespace Script

/-! ## Safe destinations -/

namespace Destination

/-- Destinations with the same segments are the same. -/
theorem segments_inj {d e : String} (h : segments d = segments e) : d = e := by
  rw [segments, segments, Text.piecesOf, Text.piecesOf] at h
  have hp := (List.map_inj_right fun a b => String.ofList_inj.mp).mp h
  have hd := Text.joinWith_pieces '/' d.toList
  rw [hp, Text.joinWith_pieces] at hd
  exact String.toList_inj.mp hd.symm

theorem segments_ne_nil (d : String) : segments d ≠ [] := by
  rw [segments, Text.piecesOf]
  exact fun h => Text.pieces_ne_nil _ _ (List.map_eq_nil_iff.mp h)

/-- The directory that a destination lies in, as the names that lead to it. -/
def directory (d : String) : List String := (segments d).dropLast

theorem ofString_of_safe {d : String} (h : Safe d) : Path.ofString d = ⟨.relative, segments d⟩ := by
  obtain ⟨_, hhead, hidle⟩ := safe_iff.mp h
  have hanchor : d.toList.takeWhile (· == '/') = [] := by
    cases hd : d.toList with
    | nil => rfl
    | cons c cs =>
        have hc : c ≠ '/' := fun he => hhead (by rw [hd, he]; rfl)
        rw [List.takeWhile_cons_of_neg (by simpa using hc)]
  have hparts : (Text.piecesOf '/' d).filter Path.isPart = segments d := by
    rw [List.filter_eq_self.mpr]
    · rfl
    · intro part hpart
      have hi := hidle part hpart
      simp only [isIdle, Bool.or_eq_false_iff, beq_eq_false_iff_ne] at hi
      simp [Path.isPart, hi.1.1, hi.1.2]
  rw [Path.ofString, hanchor, hparts]
  rfl

/-- Below a directory a safe destination leads where its segments say. -/
theorem child_of_safe {d : String} (h : Safe d) (p : Path) :
    p.child d = ⟨p.anchor, p.parts ++ segments d⟩ := by
  rw [Path.child, ofString_of_safe h, Path.join, if_pos rfl]

/-- No segment of a safe destination is two dots. -/
theorem not_mem_segments {d : String} (h : Safe d) : ".." ∉ segments d := fun hm => by
  simpa [isIdle] using (safe_iff.mp h).2.2 ".." hm

/-- No segment of a safe destination has the character that no path may hold. -/
theorem nul_not_mem {d part : String} (h : Safe d) (hpart : part ∈ segments d) :
    '\x00' ∉ part.toList := by
  intro hnul
  obtain ⟨cs, hcs, rfl⟩ := List.mem_map.mp hpart
  rw [String.toList_ofList] at hnul
  have hmem := (Text.mem_of_mem_pieces hcs hnul).1
  have hhost := (safe_iff.mp h).1 _ hmem
  simp [isHostile] at hhost

end Destination

/-! ## Accepted scripts -/

/-- A directive that may stand after the first: it sets cookies or saves to a
safe destination. -/
def Directive.IsLater (directive : Directive) : Prop :=
  match directive.action with
  | .archiveName _ => False
  | .cookies _ => True
  | .save _ destination => Destination.Safe destination

theorem parseSave_shape {words : List (List Char)} {action : Action}
    (h : parseSave words = .ok action) :
    ∃ source destination, action = .save source destination ∧ Destination.Safe destination := by
  rw [parseSave.eq_def] at h
  split at h
  · rename_i verb word link destination
    split at h
    · cases h
    · split at h
      · cases h
      · rename_i hsafe
        split at h
        · rename_i source _
          cases h
          exact ⟨source, _, rfl, hsafe⟩
        · cases h
  · cases h

theorem parseLater_shape {words : List (List Char)} {action : Action} {line : Option Int}
    (h : parseLater words = .ok action) : Directive.IsLater ⟨line, action⟩ := by
  rw [parseLater.eq_def] at h
  split at h
  · cases h
  · split at h
    · split at h
      · cases h
        trivial
      · cases h
    · split at h
      · obtain ⟨source, destination, rfl, hsafe⟩ := parseSave_shape h
        exact hsafe
      · cases h

theorem parseFirst_shape {words : List (List Char)} {action : Action}
    (h : parseFirst words = .ok action) :
    ∃ name, action = .archiveName name ∧ isArchiveName name.toList = true := by
  rw [parseFirst.eq_def] at h
  split at h
  · cases h
  · split at h
    · rename_i name
      split at h
      · rename_i hname
        cases h
        exact ⟨_, rfl, by simpa using hname⟩
      · cases h
    · cases h

theorem laterDirectives_shape {rows : List Row} {directives : List Directive}
    (h : laterDirectives rows = .ok directives) : ∀ directive ∈ directives, directive.IsLater := by
  induction rows generalizing directives with
  | nil =>
      cases h
      exact nofun
  | cons row rest ih =>
      intro directive hmem
      rw [laterDirectives, directiveOf] at h
      cases hrow : parseLater row.words with
      | error defect => simp [hrow] at h
      | ok action =>
          cases hrest : laterDirectives rest with
          | error fault => simp [hrow, hrest, Except.map] at h
          | ok later =>
              simp only [hrow, hrest, Except.map, Except.ok.injEq] at h
              subst h
              cases List.mem_cons.mp hmem with
              | inl he => exact he ▸ parseLater_shape hrow
              | inr hl => exact ih hrest directive hl

/-- An accepted script names its archive first and then sets cookies and saves to
safe destinations. -/
theorem parse_shape {text : String} {directives : List Directive}
    (h : parse text = .ok directives) :
    ∃ line name rest, directives = ⟨line, .archiveName name⟩ :: rest ∧
      isArchiveName name.toList = true ∧ ∀ directive ∈ rest, directive.IsLater := by
  rw [parse] at h
  cases hrows : rows text.toList with
  | nil =>
      rw [hrows] at h
      cases h
  | cons row rest =>
      rw [hrows, directivesOf, directiveOf] at h
      cases hrow : parseFirst row.words with
      | error defect => simp [hrow] at h
      | ok action =>
          cases hrest : laterDirectives rest with
          | error fault => simp [hrow, hrest, Except.map] at h
          | ok later =>
              simp only [hrow, hrest, Except.map, Except.ok.injEq] at h
              obtain ⟨name, rfl, hname⟩ := parseFirst_shape hrow
              exact ⟨some row.line, name, later, h.symm, hname, laterDirectives_shape hrest⟩

/-- A text is read as the directives that are found in it. -/
theorem parse_of_toOption {text : String} {directives : List Directive}
    (h : (parse text).toOption = some directives) : parse text = .ok directives := by
  cases hparse : parse text with
  | error fault => rw [hparse] at h; cases h
  | ok found => rw [hparse] at h; cases h; rfl

/-! ## What a script saves -/

/-- The name that a script gives its archive. -/
def archiveName : List Directive → String
  | ⟨_, .archiveName name⟩ :: _ => name
  | _ => ""

/-- The destination of an action, if it saves something. -/
def Action.destination? : Action → Option String
  | .save _ destination => some destination
  | _ => none

/-- The destinations that actions save to, in their order. -/
def destinations (actions : List Action) : List String := actions.filterMap Action.destination?

/-- No destination lies below another one.  A destination may occur again. -/
def PrefixFree (ds : List String) : Prop :=
  ∀ d ∈ ds, ∀ e ∈ ds, Destination.segments d <+: Destination.segments e → d = e

instance (ds : List String) : Decidable (PrefixFree ds) :=
  inferInstanceAs (Decidable (∀ d ∈ ds, ∀ e ∈ ds, _ → d = e))

@[simp] theorem destinations_save (source : Source) (destination : String) (rest : List Action) :
    destinations (.save source destination :: rest) = destination :: destinations rest := rfl

@[simp] theorem destinations_cookies (blob : String) (rest : List Action) :
    destinations (.cookies blob :: rest) = destinations rest := rfl

@[simp] theorem destinations_archiveName (name : String) (rest : List Action) :
    destinations (.archiveName name :: rest) = destinations rest := rfl

theorem destinations_append (xs ys : List Action) :
    destinations (xs ++ ys) = destinations xs ++ destinations ys := List.filterMap_append

theorem destinations_cons (action : Action) (rest : List Action) :
    destinations (action :: rest) = destinations [action] ++ destinations rest :=
  destinations_append [action] rest

theorem PrefixFree.of_subset {ds es : List String} (h : PrefixFree es) (hsub : ds ⊆ es) :
    PrefixFree ds := fun d hd e he => h d (hsub hd) e (hsub he)

end Script

end Dossier
