import Dossier.Proofs.CommandLine
import Dossier.Proofs.Run.Sequence
import Dossier.Proofs.Script.Grammar

/-!
# Scripts that are refused

A script is refused before anything is done, save for one thing: that cookies cannot be
decoded is found out when their row is come to.  Then the rows before it are carried out,
none after it is, and the fault names its line (`runFile_refused`).

So a run of directives that were read from a text checks nothing twice.  It finds an archive
named first and only once, a row for each directive, and refuses nothing but cookies.
-/

namespace Dossier

open Script (Directive Source)
open Act (Chained FailsWith Follows)
open State (Tends)

variable {α : Type} {settings : Settings} {given : Provided} {env : Environment}
  {s s' t : State} {p : Path} {directives : List Directive} {fault : Fault}

/-! ## What refuses nothing -/

/-- A fault that refuses nothing. -/
abbrev Fault.IsAccepting (fault : Fault) : Prop := fault.isRefusal = false

theorem Act.FailsWith.accepting {act : Act α} (h : FailsWith Fault.IsLocal act) :
    FailsWith Fault.IsAccepting act := fun env s fault s' hact =>
  (h env s fault s' hact).not_refusal

theorem Act.FailsWith.not_refused {act : Act α} (h : FailsWith Fault.IsAccepting act)
    (hrefusal : fault.isRefusal = true) : ¬ act env s = .error fault s' := by
  intro hact
  rw [h env s fault s' hact] at hrefusal
  cases hrefusal

namespace Saving

theorem unanswered_accepting (url : String) (fault : TransportFault) :
    (unanswered url fault).IsAccepting := by
  cases fault <;> rfl

theorem cutShort_accepting (url : String) (fault : TransportFault) :
    (cutShort url fault).IsAccepting := by
  cases fault <;> rfl

theorem request_accepting (url : String) (cookies : Cookies) (timeout : Timeout) :
    FailsWith Fault.IsAccepting (request url cookies timeout) := by
  have hasked : FailsWith Fault.IsAccepting
      (Act.request (.requested url (cookieHeaders cookies) timeout)) := fun _ _ _ _ h => nomatch h
  exact hasked.bind fun _ => .ofExcept (P := Fault.IsAccepting) (unanswered_accepting url) _

theorem discard_accepting (file : Path) (fault : Fault) (h : fault.IsAccepting) :
    FailsWith Fault.IsAccepting (discard file fault) := by
  unfold discard
  split
  · exact (unlinkIfThere_local file).accepting.bind fun _ => .throw rfl
  · exact (unlinkIfThere_local file).accepting.bind fun _ => .throw rfl
  · exact .throw h

theorem receive_accepting (url : String) (file : Path) (response : Response) :
    FailsWith Fault.IsAccepting (receive url file response) := by
  have hbody : FailsWith Fault.IsAccepting (writeBody url file response) := by
    refine (Disk.covered_local.change file _).accepting.bind fun _ => ?_
    cases response.broken with
    | none => exact .pure _
    | some fault => exact .throw (cutShort_accepting url fault)
  exact (noteStatus_local url response).accepting.bind fun _ =>
    (hbody.rescue (discard_accepting file)).bind fun _ => .pure _

theorem file_accepting (url : String) (file : Path) (cookies : Cookies) (timeout : Timeout) :
    FailsWith Fault.IsAccepting (Saving.file url file cookies timeout) :=
  (Disk.ensureParent_local file).accepting.bind fun _ =>
    (request_accepting url cookies timeout).bind fun response =>
      (receive_accepting url file response).andAlways (.modify _)

end Saving

namespace Run

theorem fetch_accepting (settings : Settings) (source : Source) (file : Path) :
    FailsWith Fault.IsAccepting (fetch settings source file) := by
  refine FailsWith.get.bind fun s => ?_
  cases source with
  | file url => exact Saving.file_accepting url file s.cookies settings.requestTimeout
  | page url => exact (Saving.page_local settings url file s.cookies).accepting
  | text content => exact (Saving.text_local content file).accepting

/-- A row that saves refuses nothing. -/
theorem save_accepting (settings : Settings) (p : Path) (source : Source) (d : String) :
    FailsWith Fault.IsAccepting (save settings p source d) := by
  cases hout : settings.leavesOut source with
  | true =>
      rw [save_of_leftOut hout]
      exact (FailsWith.modify _).bind fun _ => .modify _
  | false =>
      rw [save_of_wanted hout]
      refine (Verdict.reach_local settings p d).accepting.bind fun decision => ?_
      split
      · have hannounce : FailsWith Fault.IsAccepting (announce decision.verdict d) := by
          unfold announce
          split
          · exact .modify _
          · exact .pure _
        exact hannounce.bind fun _ => (fetch_accepting settings source _).bind fun _ =>
          (FailsWith.modify _).bind fun _ => .modify _
      · exact .modify _

/-- Of the rows of a script only those of cookies refuse anything: cookies that cannot be
decoded. -/
theorem row_refused {directive : Directive} (hlater : directive.IsLater)
    (h : row settings p directive env s = .error fault s') (hrefusal : fault.isRefusal = true) :
    ∃ blob cause, directive.action = .cookies blob ∧ Cookies.decode blob = .error cause ∧
      fault = .script (.malformed directive.line (.cookiesBlob cause)) ∧ s' = s := by
  obtain ⟨line, action⟩ := directive
  cases action with
  | archiveName name => exact hlater.elim
  | cookies blob =>
      obtain ⟨cause, hdecode, rfl, rfl⟩ := setCookies_error h
      exact ⟨blob, cause, rfl, hdecode, rfl, rfl⟩
  | save source d => exact absurd h ((save_accepting settings p source d).not_refused hrefusal)

/-! ## Phases that refuse nothing -/

theorem opening_accepting (name : String) :
    FailsWith Fault.IsAccepting (opening settings given name) :=
  (FailsWith.modify _).bind fun _ => (FailsWith.modify _).bind fun _ =>
    (prepare_local name).accepting.bind fun _ =>
      (recordAll_local _).accepting.bind fun _ => .pure _

/-- Draining refuses what a row refuses. -/
theorem draining_refused (h : draining settings given p directives env s = .error fault s')
    (hrefusal : fault.isRefusal = true) :
    ∃ u, rows settings p directives env s = .error fault u := by
  have hfault : ¬ fault.IsLocal := fun hlocal => by simp [hlocal.not_refusal] at hrefusal
  obtain ⟨_, hclosed, _⟩ := (recordAll_local _).error_of_andAlways hfault h
  obtain ⟨_, hcarried, _⟩ := (closing_local given).error_of_andAlways hfault hclosed
  obtain ⟨_, u, hrows, hfail⟩ := Act.rescue_error.mp hcarried
  obtain ⟨rfl, _⟩ := fail_error hfail
  exact ⟨u, hrows⟩

/-! ## Directives of a text -/

/-- A directive that is read from a text has a line. -/
theorem line_of_parse {text : String} (h : Script.parse text = .ok directives)
    {directive : Directive} (hmem : directive ∈ directives) : ∃ n, directive.line = some n := by
  have hlines := (Script.directivesOf_ok.mp h).lines
  obtain ⟨row, _, hrow⟩ := List.mem_map.mp (hlines ▸ List.mem_map_of_mem hmem :
    directive.line ∈ (Script.rows text.toList).map fun row => some (row.line : Int))
  exact ⟨row.line, hrow.symm⟩

/-- A row that is taken care of: it sets cookies or saves something. -/
def Handled (settings : Settings) (p : Path) (directive : Directive) : Prop :=
  (∃ blob, row settings p directive = setCookies directive.line blob) ∨
    ∃ source d, row settings p directive = save settings p source d

theorem handled_of_isLater {directive : Directive} (h : directive.IsLater) (p : Path) :
    Handled settings p directive := by
  obtain ⟨line, action⟩ := directive
  cases action with
  | archiveName name => exact h.elim
  | cookies blob => exact Or.inl ⟨blob, rfl⟩
  | save source d => exact Or.inr ⟨source, d, rfl⟩

/-- Reading a script changes nothing. -/
theorem readScript_keeps (file : Path) : (readScript file).final env s = s := by
  have hchained : Chained fun s s' : State => s' = s := .part fun s => s
  have hread : Follows env (fun s s' => s' = s) (Disk.read file) :=
    .bind hchained (hchained.follows_checkPath file) fun _ => hchained.follows_look file _
  have hall : Follows env (fun s s' => s' = s) (readScript file) :=
    .bind hchained (hread.mapFault _) fun _ => .bind hchained (.ofExcept hchained _ _) fun _ =>
      .ofExcept hchained _ _
  exact hall s

/-! ## Refused scripts -/

/-- A run has come to a row of cookies that cannot be decoded.  It carried out the rows before
it, came to no row after it, and all that it did then was to close what it had opened. -/
inductive RefusesCookies (settings : Settings) (given : Provided) (env : Environment) (s : State)
    (directives : List Directive) (s' : State) : Fault → Prop
  | intro {p : Path} {t u : State} {before after : List Directive} {n : Int} {blob : String}
      {cause : Cookies.BlobFault}
      (opens : Opened settings given env s directives p t)
      (split : directives.tail = before ++ ⟨some n, .cookies blob⟩ :: after)
      (carried : rows settings p before env t = .ok () u)
      (rejects : Cookies.decode blob = .error cause)
      (reaches : (reached settings given env s directives).map Visit.directive =
        before ++ [⟨some n, .cookies blob⟩])
      (store : s'.store = u.store)
      (closes : Tends u s') :
      RefusesCookies settings given env s directives s'
        (.script (.malformed (some n) (.cookiesBlob cause)))

/-- A run of directives that were read from a text refuses nothing but cookies. -/
theorem run_refused {text : String} (hparse : Script.parse text = .ok directives)
    (given : Provided) (h : run settings given directives env s = .error fault s')
    (hrefusal : fault.isRefusal = true) :
    RefusesCookies settings given env s directives s' fault := by
  obtain ⟨line, name, rest, rfl, _, hlater⟩ := Script.parse_shape hparse
  have hline := @line_of_parse _ text hparse
  rw [run_phases] at h
  rcases Act.bind_error.mp h with hopen | ⟨p, t, hopen, h⟩
  · exact absurd hopen ((opening_accepting name).not_refused hrefusal)
  have hopened : Opened settings given env s (⟨line, .archiveName name⟩ :: rest) p t :=
    ⟨line, name, rest, rfl, hopen⟩
  rcases Act.bind_error.mp h with hdrain | ⟨_, _, _, hcomplete⟩
  · obtain ⟨v, hrows⟩ := draining_refused hdrain hrefusal
    obtain ⟨before, directive, after, u, rfl, hbefore, hrow⟩ := rows_error hrows
    obtain ⟨n, hn⟩ := hline (List.mem_cons_of_mem _
      (List.mem_append_right before (List.mem_cons_self ..)))
    obtain ⟨blob, cause, haction, hdecode, rfl, rfl⟩ :=
      row_refused (hlater directive (by simp)) hrow hrefusal
    obtain ⟨dline, action⟩ := directive
    obtain rfl : dline = some n := hn
    obtain rfl : action = .cookies blob := haction
    have hreached := visits_of_fails after hbefore hrow
    have hfinal := Act.final_of_error (rows_of_error hbefore hrow : rows settings p
      (before ++ ⟨some n, .cookies blob⟩ :: after) env t = .error _ v)
    refine .intro hopened rfl hbefore hdecode (hopened.reached ▸ hreached) ?_ ?_
    · rw [← Act.final_of_error hdrain, drain_store, hfinal]
    · rw [← hfinal, ← Act.final_of_error hdrain]
      exact tends_draining _ _ _
  · exact absurd hcomplete ((complete_local p).accepting.not_refused hrefusal)

/-- If a script file is refused, nothing is done at all, unless cookies cannot be decoded.  A
run of directives that were read from a text finds the archive named first and takes care of
each row after that; it never finds that there are no directives, that the archive is not
named or that it is named again, and it refuses nothing but cookies. -/
theorem runFile_refused :
    (∀ settings file env s refusal s', runFile settings file env s = .error (.script refusal) s' →
      (readScript file env s = .error (.script refusal) s ∧ s' = s) ∨
        ∃ directives, readScript file env s = .ok directives s ∧
          RefusesCookies settings {} env s directives s' (.script refusal)) ∧
    ∀ text directives, Script.parse text = .ok directives →
      (∃ line name rest, directives = ⟨line, .archiveName name⟩ :: rest ∧
        ∀ settings p, ∀ directive ∈ rest, Handled settings p directive) ∧
      ∀ settings given env s fault s', run settings given directives env s = .error fault s' →
        (fault.isRefusal = true → RefusesCookies settings given env s directives s' fault) ∧
        fault ≠ .script .empty ∧ ∀ line, fault ≠ .script (.malformed line .archiveMissing) ∧
          fault ≠ .script (.malformed line .archiveRepeated) := by
  constructor
  · intro settings file env s refusal s' h
    rcases Act.bind_error.mp h with hread | ⟨directives, t, hread, hrun⟩
    · have hkept : s' = s := (Act.final_of_error hread).symm.trans (readScript_keeps file)
      exact Or.inl ⟨hkept ▸ hread, hkept⟩
    · obtain ⟨rfl, text, hparse⟩ := readScript_ok hread
      exact Or.inr ⟨directives, hread, run_refused hparse {} hrun rfl⟩
  · intro text directives hparse
    obtain ⟨line, name, rest, hshape, _, hlater⟩ := Script.parse_shape hparse
    refine ⟨⟨line, name, rest, hshape, fun settings p directive hmem =>
      handled_of_isLater (hlater directive hmem) p⟩, fun settings given env s fault s' h => ?_⟩
    have hrefuses : fault.isRefusal = true →
        RefusesCookies settings given env s directives s' fault := run_refused hparse given h
    refine ⟨hrefuses, ?_, fun n => ⟨?_, ?_⟩⟩
    all_goals
      rintro rfl
      cases hrefuses rfl

/-- A script whose cookies cannot be decoded, with a row before them and one after. -/
def badCookiesText : List Char :=
  "zip-name q\nsave-text a as a.txt\n\ncookies !\nsave-text b as b.txt\n".toList

/-- It lies in a file. -/
def badCookiesFile : State :=
  { store := ⟨[(["s.txt"], .file (.plain (Utf8.encode badCookiesText)))]⟩ }

/-- The archive is named first.  The row before the cookies is carried out and the one after
them is not, and the fault has the line of the cookies. -/
theorem badCookiesFile_refused :
    ∃ s' directives, runFile {} ⟨.relative, ["s.txt"]⟩ {} badCookiesFile =
        .error (.script (.malformed (some 4) (.cookiesBlob (.base64 .foreignCharacter)))) s' ∧
      RefusesCookies {} {} {} badCookiesFile directives s'
        (.script (.malformed (some 4) (.cookiesBlob (.base64 .foreignCharacter)))) ∧
      (∃ line name rest, directives = ⟨line, .archiveName name⟩ :: rest) ∧
      s'.store.get? ["output", "q", "a.txt"] = some (.file (.plain [97])) ∧
      s'.store.get? ["output", "q", "b.txt"] = none := by
  obtain ⟨fault, s', hrun, hcheck⟩ := Act.exists_of_breaksIn (by decide +kernel :
    (runFile {} ⟨.relative, ["s.txt"]⟩).BreaksIn {} badCookiesFile (fun fault s' =>
      fault == .script (.malformed (some 4) (.cookiesBlob (.base64 .foreignCharacter))) &&
        s'.store.get? ["output", "q", "a.txt"] == some (.file (.plain [97])) &&
        s'.store.get? ["output", "q", "b.txt"] == none) = true)
  simp only [Bool.and_eq_true, beq_iff_eq] at hcheck
  obtain ⟨⟨rfl, hsaved⟩, hnone⟩ := hcheck
  rcases runFile_refused.1 _ _ _ _ _ _ hrun with ⟨_, rfl⟩ | ⟨directives, hread, hrefuses⟩
  · -- the first row was carried out, so the script was not refused as it was read
    cases hsaved
  · obtain ⟨_, text, hparse⟩ := readScript_ok hread
    obtain ⟨⟨line, name, rest, hshape, _⟩, _⟩ := runFile_refused.2 text directives hparse
    exact ⟨s', directives, hrun, hrefuses, ⟨line, name, rest, hshape⟩, hsaved, hnone⟩

end Run

end Dossier
