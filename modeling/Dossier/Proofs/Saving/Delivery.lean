import Dossier.Proofs.Saving.Download
import Dossier.Proofs.Saving.Leftover
import Dossier.Proofs.Text.Utf8

/-!
# Sizes that are reported

Saving reports a size in one of three ways: a download adds up the chunks that are not empty,
text is measured before it is written, and a page is read back.  Each is the size of the file
that is there then (`saved_reported`), along whatever path it is reached.  The file has replaced
what was there, and no other file is changed: all else that saving does to a tree is to make
directories on the way to its file.
-/

namespace Dossier

/-- Whenever printing does not fail, the browser has written a file. -/
def Environment.Prints (env : Environment) : Prop :=
  ∀ trace file format, (env.react (trace ++ [.printed file format])).failure = none →
    ∃ data, (env.react (trace ++ [.printed file format])).output = some data

namespace Saving

open Store (Paves)

variable {env : Environment} {s s' t u : State} {file : Path} {data : Bytes} {n : Nat}

/-- A file of so many bytes is there, and no other file has changed. -/
structure Delivered (env : Environment) (file : Path) (data : Bytes) (n : Nat) (s s' : State) :
    Prop where
  /-- So many bytes there are. -/
  size : data.length = n
  /-- The path leads to a file that holds them and nothing else. -/
  there : s'.store.stat env.here file = .ok (file.location env.here, .file (.plain data))
  /-- Elsewhere there are the files that there were. -/
  others : ∀ m, m ≠ file.location env.here → ∀ c,
    s'.store.get? m = some (.file c) ↔ s.store.get? m = some (.file c)

/-- Making directories on the way of a path changes no files. -/
theorem file_iff_of_paves {p : Path} {here : Location} {s t : Store} (h : Paves here p s t)
    (m : Location) (c : Content) : t.get? m = some (.file c) ↔ s.get? m = some (.file c) := by
  constructor
  · intro hfile
    refine Classical.byContradiction fun hne => ?_
    have hmade := (h.made m fun heq => hne (heq ▸ hfile)).2.2
    cases hfile.symm.trans hmade
  · exact h.kept

/-- A file is delivered if it is written once the directories above it are made. -/
theorem delivered_of_write {made : Store} (hpaves : Paves env.here file.parent s.store made)
    (hwrite : made.write env.here file (.plain data) = .ok s'.store) :
    Delivered env file data data.length s s' := by
  obtain ⟨hput, hne, _, _, hstat⟩ := Store.write_ok hpaves.tree hwrite
  refine ⟨rfl, hstat, fun m hm c => ?_⟩
  rw [hput, Store.get?_put made _ m _ hne, if_neg hm]
  exact file_iff_of_paves hpaves m c

/-! ## Text -/

theorem text_delivered (hs : s.store.Tree) {content : String}
    (h : Saving.text content file env s = .ok n s') :
    Delivered env file (textBytes content) n s s' := by
  obtain ⟨_, t, hparent, h⟩ := Act.bind_ok.mp h
  obtain ⟨_, u, hwrite, h⟩ := Act.bind_ok.mp h
  obtain ⟨rfl, rfl⟩ := Act.pure_ok.mp h
  obtain ⟨_, left, hleft, rfl⟩ := Disk.change_ok.mp (Disk.during_ok.mp hwrite)
  exact delivered_of_write (ensureParent_paves hs hparent).1 hleft

/-- A text with spaces has as many characters and no underscore. -/
theorem spaced_facts (content : String) :
    (spaced content).toList = content.toList.map (fun c => if c = '_' then ' ' else c) ∧
      (spaced content).toList.length = content.length ∧ '_' ∉ (spaced content).toList := by
  have heq : (spaced content).toList = content.toList.map (fun c => if c = '_' then ' ' else c) := by
    simp [spaced]
  refine ⟨heq, ?_, ?_⟩
  · rw [heq, List.length_map, String.length_toList]
  · rw [heq]
    intro hmark
    obtain ⟨c, _, hc⟩ := List.mem_map.mp hmark
    split at hc
    · cases hc
    · exact absurd hc ‹_›

/-! ## Downloads -/

theorem file_delivered (hs : s.store.Tree) {url : String} {cookies : Cookies} {timeout : Timeout}
    (h : Saving.file url file cookies timeout env s = .ok n s') :
    ∃ response, answer url cookies timeout env s = .ok response ∧ response.broken = none ∧
      Delivered env file response.body n s s' := by
  obtain ⟨_, t, hparent, h⟩ := Act.bind_ok.mp h
  obtain ⟨response, u, hrequest, h⟩ := Act.bind_ok.mp h
  obtain ⟨v, hreceive, hclosed⟩ := Act.andAlways_ok.mp h
  obtain ⟨w, hkeep, hbroken, rfl, hwrite⟩ := receive_ok hreceive
  obtain ⟨_, left, hleft, rfl⟩ := Disk.change_ok.mp hwrite
  obtain ⟨hpaves, _, htrace⟩ := ensureParent_paves hs hparent
  obtain ⟨hanswer, hstore⟩ := answer_of_request hrequest
  have hs' : s'.store = left := (State.holdings_inj ((Act.keeps_record _).ok hclosed)).1
  rw [(State.holdings_inj hkeep).1, hstore, ← hs'] at hleft
  refine ⟨response, ?_, hbroken, delivered_of_write hpaves hleft⟩
  rw [← hanswer, answer, answer, htrace]

/-! ## Pages -/

/-- A reaction that is not a failure has an output. -/
theorem output_of_present (henv : env.Prints) {settings : Settings} {url : String}
    {cookies : Cookies} {reaction : Reaction}
    (h : present settings url file cookies env s = .ok reaction t)
    (hfailure : reaction.failure = none) : ∃ data, reaction.output = some data := by
  obtain ⟨_, _, _, h⟩ := Act.bind_ok.mp h
  obtain ⟨_, _, _, h⟩ := Act.bind_ok.mp h
  obtain ⟨_, _, _, h⟩ := Act.bind_ok.mp h
  obtain rfl := browse_ok h
  exact henv _ _ _ hfailure

/-- A page that is saved was printed, and its size is that of what is there then. -/
theorem printed_of_page (henv : env.Prints) {settings : Settings} {url : String}
    {cookies : Cookies} (h : Saving.page settings url file cookies env s = .ok n s') :
    ∃ t u reaction data, Printed settings url file cookies env s t u reaction data s'.store ∧
      s'.store.sizeAt env.here file = .ok n := by
  rw [page_eq] at h
  obtain ⟨_, t, henter, h⟩ := Act.bind_ok.mp h
  obtain ⟨_, v, hvisited, hread⟩ := Act.bind_ok.mp h
  obtain ⟨w, hvisit, hclosed⟩ := Act.andAlways_ok.mp hvisited
  have hvisit := Act.mapFault_ok.mp hvisit
  rw [visit_eq] at hvisit
  obtain ⟨reaction, u, hpresent, hprint⟩ := Act.bind_ok.mp hvisit
  obtain ⟨_, _, hkept, hsettle⟩ := Act.bind_ok.mp hprint
  obtain ⟨hfailure, rfl⟩ := settle_ok hsettle
  obtain ⟨data, houtput⟩ := output_of_present henv hpresent hfailure
  rw [keepOutput, houtput] at hkept
  obtain ⟨hplain, left, hwrite, rfl⟩ := Disk.change_ok.mp hkept
  obtain ⟨_, hsize, rfl⟩ := Disk.size_ok.mp (Disk.during_ok.mp hread)
  obtain rfl : s'.store = left := (State.holdings_inj ((Browser.keeps_call _).ok hclosed)).1
  exact ⟨t, u, reaction, data, ⟨henter, hpresent, houtput, hplain, hwrite⟩, hsize⟩

theorem page_delivered (hs : s.store.Tree) (henv : env.Prints) {settings : Settings}
    {url : String} {cookies : Cookies}
    (h : Saving.page settings url file cookies env s = .ok n s') :
    ∃ t u reaction data, Printed settings url file cookies env s t u reaction data s'.store ∧
      Delivered env file data n s s' := by
  obtain ⟨t, u, reaction, data, hprinted, hsize⟩ := printed_of_page henv h
  have hdelivered : Delivered env file data data.length s s' := delivered_of_write
    (Store.ensureDirectories_paves hs env.here file.parent).1 hprinted.write_made
  rw [Store.sizeAt, hdelivered.there] at hsize
  obtain rfl := Except.ok.inj hsize
  exact ⟨t, u, reaction, data, hprinted, hdelivered⟩

/-! ## Sizes -/

/-- The sizes that saving reports are those of its files.  A download leaves the chunks of its
response, text its bytes, which are read as the text with spaces, and a page what the browser
has printed, if the browser prints something whenever it does not fail.  Each file has
replaced what was there, and no other file has changed. -/
theorem saved_reported (hs : s.store.Tree) (henv : env.Prints) (file : Path) :
    (∀ url cookies timeout n s', Saving.file url file cookies timeout env s = .ok n s' →
      ∃ response, answer url cookies timeout env s = .ok response ∧ response.broken = none ∧
        Delivered env file response.chunks.flatten n s s') ∧
    (∀ content n s', Saving.text content file env s = .ok n s' →
      ∃ spaces, spaces = content.toList.map (fun c => if c = '_' then ' ' else c) ∧
        Delivered env file (Utf8.encode spaces) n s s' ∧
        Utf8.decode (Utf8.encode spaces) = .ok spaces ∧
        spaces.length = content.length ∧ '_' ∉ spaces) ∧
    (∀ settings url cookies n s', Saving.page settings url file cookies env s = .ok n s' →
      ∃ t u reaction data, Printed settings url file cookies env s t u reaction data s'.store ∧
        Delivered env file data n s s') := by
  refine ⟨fun _ _ _ _ _ h => file_delivered hs h, fun content _ _ h => ?_,
    fun _ _ _ _ _ h => page_delivered hs henv h⟩
  obtain ⟨hspaces, hlength, hmark⟩ := spaced_facts content
  exact ⟨_, hspaces, text_delivered hs h, Utf8.decode_encode _, hlength, hmark⟩

/-! ### A file that is replaced -/

/-- A directory with a file that is longer than what is saved to it. -/
def longerFile : State :=
  { store := ⟨[(["w"], .directory), (["w", "a"], .directory),
      (["w", "a", "f"], .file (.plain [9, 9, 9, 9, 9]))]⟩ }

/-- A network that answers with an error page in three chunks, one of them empty, and a browser
that prints two bytes. -/
def errorPages : Environment where
  here := ["w"]
  reply _ := { outcome := .ok { status := 404, chunks := [[1], [], [2, 3]] } }
  react trace := match trace.getLast? with
    | some (.printed ..) => { output := some [7, 8] }
    | _ => {}

theorem errorPages_prints : errorPages.Prints := fun trace file format _ =>
  ⟨[7, 8], by simp only [errorPages, List.getLast?_concat]⟩

/-- An error page, a text and a printed page replace a longer file, each with a file of the size
that is reported. -/
theorem longerFile_reported :
    (∃ s',
      Saving.file "u" ⟨.relative, ["a", "f"]⟩ {} (.whole 120) errorPages longerFile = .ok 3 s' ∧
      Delivered errorPages ⟨.relative, ["a", "f"]⟩ [1, 2, 3] 3 longerFile s') ∧
    (∃ s', Saving.text "é_" ⟨.relative, ["a", "f"]⟩ errorPages longerFile = .ok 3 s' ∧
      Delivered errorPages ⟨.relative, ["a", "f"]⟩ [0xC3, 0xA9, 0x20] 3 longerFile s') ∧
    ∃ s', Saving.page {} "u" ⟨.relative, ["a", "f"]⟩ {} errorPages longerFile = .ok 2 s' ∧
      ∃ data, Delivered errorPages ⟨.relative, ["a", "f"]⟩ data 2 longerFile s' := by
  obtain ⟨hfile, htext, hpage⟩ := saved_reported (by decide +kernel : longerFile.store.Tree)
    errorPages_prints ⟨.relative, ["a", "f"]⟩
  refine ⟨?_, ?_, ?_⟩
  · obtain ⟨n, s', hsaved, hn⟩ := Act.exists_of_endsIn (by decide +kernel :
      (Saving.file "u" ⟨.relative, ["a", "f"]⟩ {} (.whole 120)).EndsIn errorPages longerFile
        (fun n _ => n == 3) = true)
    obtain rfl := eq_of_beq hn
    obtain ⟨response, hanswer, _, hdelivered⟩ := hfile _ _ _ _ _ hsaved
    obtain rfl := Except.ok.inj hanswer
    exact ⟨s', hsaved, hdelivered⟩
  · obtain ⟨n, s', hsaved, hn⟩ := Act.exists_of_endsIn (by decide +kernel :
      (Saving.text "é_" ⟨.relative, ["a", "f"]⟩).EndsIn errorPages longerFile
        (fun n _ => n == 3) = true)
    obtain rfl := eq_of_beq hn
    obtain ⟨spaces, rfl, hdelivered, _⟩ := htext _ _ _ hsaved
    exact ⟨s', hsaved, hdelivered⟩
  · obtain ⟨n, s', hsaved, hn⟩ := Act.exists_of_endsIn (by decide +kernel :
      (Saving.page {} "u" ⟨.relative, ["a", "f"]⟩ {}).EndsIn errorPages longerFile
        (fun n _ => n == 2) = true)
    obtain rfl := eq_of_beq hn
    obtain ⟨_, _, _, data, _, hdelivered⟩ := hpage _ _ _ _ _ hsaved
    exact ⟨s', hsaved, data, hdelivered⟩

end Saving

end Dossier
