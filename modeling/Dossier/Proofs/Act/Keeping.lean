import Dossier.Proofs.Act.Disk
import Dossier.Run

/-!
# What acts leave alone

A run accounts for its rows in three places: its report, the cookies in force
and its *ledger*, the notes that tell what became of a destination.  Saving
something leaves these accounts alone, whatever comes of it; only the row that
saves it fills them in.  Calls on the network and on the browser leave the
store alone as well.

Both are cases of one fact.  A relation between states is *quiet* if everything
that calls on the network and on the browser do stays within it.  It is *busy*
if changes of the store do so too, and it *admits* a file if making the
directories above that file and writing it do.  What saves to a file follows
every quiet relation that admits it, and so every busy one.
-/

namespace Dossier

/-! ## Accounts -/

/-- A note that tells what became of a destination: that it was there already,
that its directory was cleared, or that it was saved. -/
def Note.isEntry : Note → Bool
  | .alreadyPresent _ | .refetching .. | .saved .. => true
  | _ => false

/-- The report that a note gives. -/
def Note.report? : Note → Option Report
  | .account report => some report
  | _ => none

/-- The notes that tell what became of a destination. -/
def State.ledger (s : State) : List Note := s.notes.filter Note.isEntry

/-- Where a run accounts for its rows. -/
structure Accounts where
  report : Report
  cookies : Cookies
  ledger : List Note

/-- The accounts of a state. -/
def State.accounts (s : State) : Accounts := ⟨s.report, s.cookies, s.ledger⟩

/-- The store and the accounts of a state. -/
def State.holdings (s : State) : Store × Accounts := (s.store, s.accounts)

theorem State.holdings_inj {s t : State} (h : s.holdings = t.holdings) :
    s.store = t.store ∧ s.accounts = t.accounts := ⟨congrArg Prod.fst h, congrArg Prod.snd h⟩

/-! ## Quiet relations -/

namespace Act

/-- A relation that calls on the network and on the browser stay within. -/
structure Quiet (env : Environment) (R : State → State → Prop) : Prop extends Chained R where
  note : ∀ s n, n.isEntry = false → n.report? = none → R s { s with notes := s.notes ++ [n] }
  record : ∀ s e, R s { s with trace := s.trace ++ [e] }
  reply : ∀ s trace, R s { s with clock := s.clock + (env.reply trace).takes }
  react : ∀ s trace, R s { s with clock := s.clock + (env.react trace).takes }
  hold : ∀ s handles, R s { s with handles := handles }

/-- A quiet relation that changes of the store stay within. -/
structure Busy (env : Environment) (R : State → State → Prop) : Prop extends Quiet env R where
  store : ∀ s store, R s { s with store := store }

/-- A quiet relation that making the directories above a file and writing the
file stay within. -/
structure Admits (env : Environment) (R : State → State → Prop) (file : Path) : Prop
    extends Quiet env R where
  parent : Follows env R (Disk.ensureParent file)
  write : ∀ content, Follows env R (Disk.write file content)

/-- Calls leave the store and the accounts alone. -/
theorem Quiet.holdings (env : Environment) : Quiet env fun s s' => s'.holdings = s.holdings where
  toChained := .part State.holdings
  note s n h _ := by simp [State.holdings, State.accounts, State.ledger, h]
  record _ _ := rfl
  reply _ _ := rfl
  react _ _ := rfl
  hold _ _ := rfl

/-- Saving leaves the accounts alone. -/
theorem Busy.accounts (env : Environment) : Busy env fun s s' => s'.accounts = s.accounts where
  toChained := .part State.accounts
  note s n h _ := by simp [State.accounts, State.ledger, h]
  record _ _ := rfl
  reply _ _ := rfl
  react _ _ := rfl
  hold _ _ := rfl
  store _ _ := rfl

/-- A relation that asks for nothing but stores is quiet. -/
theorem Quiet.of_store (env : Environment) {R : State → State → Prop} (hR : Chained R)
    (hstore : ∀ {s s' : State}, s'.store = s.store → R s s') : Quiet env R where
  toChained := hR
  note _ _ _ _ := hstore rfl
  record _ _ := hstore rfl
  reply _ _ := hstore rfl
  react _ _ := hstore rfl
  hold _ _ := hstore rfl

namespace Quiet

variable {env : Environment} {R : State → State → Prop} (hR : Quiet env R)
include hR

/-! ### Notes and events -/

theorem follows_note {n : Note} (h : n.isEntry = false) (h' : n.report? = none) :
    Follows env R (Act.note n) := .modify fun s => hR.note s n h h'

theorem follows_record (e : Event) : Follows env R (Act.record e) :=
  .modify fun s => hR.record s e

theorem follows_request (e : Event) : Follows env R (Act.request e) := by
  intro s
  exact hR.trans (hR.record s e) (hR.reply _ (s.trace ++ [e]))

theorem follows_browse (e : Event) : Follows env R (Act.browse e) := by
  intro s
  exact hR.trans (hR.record s e) (hR.react _ (s.trace ++ [e]))

theorem follows_settle (reaction : Reaction) : Follows env R (Act.settle reaction) := by
  unfold Act.settle
  split
  · exact .throw hR.toChained _
  · exact .pure hR.toChained _

/-! ### The browser -/

theorem follows_call (e : Event) : Follows env R (Browser.call e) :=
  .bind hR.toChained (hR.follows_browse e) hR.follows_settle

theorem follows_hold (change : Handles → Handles) : Follows env R (Browser.hold change) :=
  .modify fun s => hR.hold s _

theorem follows_shutDown (held : Handles) : Follows env R (Browser.shutDown held) :=
  .andAlways hR.toChained (.ite (hR.follows_call _) (.pure hR.toChained _))
    (.ite (hR.follows_call _) (.pure hR.toChained _))

theorem follows_close : Follows env R Browser.close :=
  .bind hR.toChained (.get hR.toChained) fun _ =>
    .bind hR.toChained (hR.follows_hold _) fun _ => (hR.follows_shutDown _).mapFault _

theorem follows_launch (settings : Settings) : Follows env R (Browser.launch settings) :=
  .bind hR.toChained (hR.follows_call _) fun _ => .bind hR.toChained (hR.follows_hold _) fun _ =>
    .bind hR.toChained (hR.follows_call _) fun _ => hR.follows_hold _

theorem follows_abandon (fault : Fault) : Follows env R (Browser.abandon fault) := by
  unfold Browser.abandon
  split
  · exact .bind hR.toChained hR.follows_close fun _ => .throw hR.toChained _
  · exact .throw hR.toChained _

theorem follows_ensureOpen (settings : Settings) : Follows env R (Browser.ensureOpen settings) := by
  have hlaunch : Follows env R ((Browser.launch settings).rescue Browser.abandon) :=
    .rescue hR.toChained (hR.follows_launch settings) hR.follows_abandon
  refine .bind hR.toChained (.get hR.toChained) fun s => .ite (.pure hR.toChained _) ?_
  refine .bind hR.toChained (.environment hR.toChained) fun env => .ite ?_ ?_
  · exact .bind hR.toChained (.throw hR.toChained _) fun _ =>
      .bind hR.toChained (hR.follows_note rfl rfl) fun _ => hlaunch
  · exact .bind hR.toChained (hR.follows_note rfl rfl) fun _ => hlaunch

theorem follows_giveCookies (url : String) (cookies : Cookies) :
    Follows env R (Saving.giveCookies url cookies) :=
  .ite (.pure hR.toChained _) (.bind hR.toChained (.ofExcept hR.toChained _ _) fun _ =>
    hR.follows_call _)

/-! ### Requests -/

theorem follows_noteStatus (url : String) (response : Response) :
    Follows env R (Saving.noteStatus url response) :=
  .ite (.pure hR.toChained _) (hR.follows_note rfl rfl)

theorem follows_fileRequest (url : String) (cookies : Cookies) (timeout : Timeout) :
    Follows env R (Saving.request url cookies timeout) :=
  .bind hR.toChained (hR.follows_request _) fun _ => .ofExcept hR.toChained _ _

end Quiet

/-! ## Calls on the store -/

namespace Chained

variable {env : Environment} {R : State → State → Prop} (hR : Chained R)
include hR

theorem follows_checkPath (p : Path) : Follows env R (Disk.checkPath p) :=
  .ite (.throw hR _) (.pure hR _)

theorem follows_look {α : Type} (p : Path)
    (question : Store → Location → Path → Except Errno α) : Follows env R (Disk.look p question) :=
  .bind hR (.environment hR) fun _ => .bind hR (.get hR) fun _ => .ofExcept hR _ _

theorem follows_size (p : Path) : Follows env R (Disk.size p) :=
  .bind hR (hR.follows_checkPath p) fun _ => hR.follows_look p _

theorem follows_change {p : Path} {call : Store → Location → Path → Except Errno Store}
    (hcall : ∀ s changed, call s.store env.here p = .ok changed → R s { s with store := changed }) :
    Follows env R (Disk.change p call) := by
  refine .of_endings (fun s _ s' h => ?_) fun s _ s' h => ?_
  · obtain ⟨_, changed, hchanged, rfl⟩ := Disk.change_ok.mp h
    exact hcall s changed hchanged
  · exact Disk.change_error h ▸ hR.refl s

theorem follows_changeUntil {p : Path} {call : Store → Location → Path → Store × Option Fault}
    (hcall : ∀ s, R s { s with store := (call s.store env.here p).1 }) :
    Follows env R (Disk.changeUntil p call) := by
  intro s
  rw [Act.final, Disk.changeUntil_eq]
  by_cases h : p.holdsNul = true
  · simp only [if_pos h]
    exact hR.refl s
  · simp only [if_neg h]
    cases (call s.store env.here p).2 <;> exact hcall s

theorem follows_unlinkIfThere {p : Path} (hunlink : Follows env R (Disk.unlink p)) :
    Follows env R (Disk.unlinkIfThere p) := by
  refine .rescue hR hunlink fun f => ?_
  split
  · exact .pure hR _
  · exact .throw hR _

end Chained

/-! ## Busy relations -/

namespace Busy

variable {env : Environment} {R : State → State → Prop} (hR : Busy env R)
include hR

/-! ### The store -/

theorem follows_change (p : Path) (call : Store → Location → Path → Except Errno Store) :
    Follows env R (Disk.change p call) :=
  hR.toChained.follows_change fun s changed _ => hR.store s changed

theorem follows_unlinkIfThere (p : Path) : Follows env R (Disk.unlinkIfThere p) :=
  hR.toChained.follows_unlinkIfThere (hR.follows_change p _)

theorem follows_changeUntil (p : Path)
    (call : Store → Location → Path → Store × Option Fault) :
    Follows env R (Disk.changeUntil p call) :=
  hR.toChained.follows_changeUntil fun s => hR.store s _

theorem follows_ensureParent (file : Path) : Follows env R (Disk.ensureParent file) :=
  (hR.follows_changeUntil _ _).mapFault _

/-- A busy relation admits every file. -/
theorem admits (file : Path) : Admits env R file where
  toQuiet := hR.toQuiet
  parent := hR.follows_ensureParent file
  write _ := hR.follows_change file _

end Busy

/-! ## Saving -/

namespace Admits

variable {env : Environment} {R : State → State → Prop} {file : Path} (hR : Admits env R file)
include hR

theorem follows_text (content : String) : Follows env R (Saving.text content file) :=
  .bind hR.toChained hR.parent fun _ =>
    .bind hR.toChained ((hR.write _).mapFault _) fun _ => .pure hR.toChained _

theorem follows_writeBody (url : String) (response : Response) :
    Follows env R (Saving.writeBody url file response) := by
  refine .bind hR.toChained (hR.write _) fun _ => ?_
  cases response.broken with
  | none => exact .pure hR.toChained _
  | some fault => exact .throw hR.toChained _

theorem follows_keepOutput (reaction : Reaction) :
    Follows env R (Saving.keepOutput file reaction) := by
  unfold Saving.keepOutput
  split
  · exact hR.write _
  · exact .pure hR.toChained _

theorem follows_printFrom (settings : Settings) (url : String) :
    Follows env R (Saving.printFrom settings url file) :=
  .bind hR.toChained (hR.follows_call _) fun _ => .bind hR.toChained (hR.follows_browse _)
    fun reaction => .bind hR.toChained (hR.follows_keepOutput reaction) fun _ =>
      hR.follows_settle reaction

theorem follows_visit (settings : Settings) (url : String) (cookies : Cookies) :
    Follows env R (Saving.visit settings url file cookies) :=
  .bind hR.toChained (hR.follows_giveCookies url cookies) fun _ =>
    .bind hR.toChained (hR.follows_call _) fun _ => hR.follows_printFrom settings url

theorem follows_print (settings : Settings) (url : String) (cookies : Cookies) :
    Follows env R (Saving.print settings url file cookies) :=
  .bind hR.toChained ((hR.follows_call _).mapFault _) fun _ =>
    .andAlways hR.toChained ((hR.follows_visit settings url cookies).mapFault _)
      (hR.follows_call _)

theorem follows_page (settings : Settings) (url : String) (cookies : Cookies) :
    Follows env R (Saving.page settings url file cookies) :=
  .bind hR.toChained (hR.follows_ensureOpen settings) fun _ =>
    .bind hR.toChained hR.parent fun _ =>
      .bind hR.toChained (hR.follows_print settings url cookies) fun _ =>
        (hR.toChained.follows_size file).mapFault _

/-! ### Downloads

A download that fails removes its file, which a relation may or may not allow. -/

variable (hremove : Follows env R (Disk.unlinkIfThere file))
include hremove

theorem follows_discard (fault : Fault) : Follows env R (Saving.discard file fault) := by
  unfold Saving.discard
  split
  · exact .bind hR.toChained hremove fun _ => .throw hR.toChained _
  · exact .bind hR.toChained hremove fun _ => .throw hR.toChained _
  · exact .throw hR.toChained _

theorem follows_receive (url : String) (response : Response) :
    Follows env R (Saving.receive url file response) :=
  .bind hR.toChained (hR.follows_noteStatus url response) fun _ =>
    .bind hR.toChained (.rescue hR.toChained (hR.follows_writeBody url response)
      (hR.follows_discard hremove)) fun _ => .pure hR.toChained _

theorem follows_file (url : String) (cookies : Cookies) (timeout : Timeout) :
    Follows env R (Saving.file url file cookies timeout) :=
  .bind hR.toChained hR.parent fun _ =>
    .bind hR.toChained (hR.follows_fileRequest url cookies timeout) fun response =>
      .andAlways hR.toChained (hR.follows_receive hremove url response) (hR.follows_record _)

/-- Fetching saves to its file, whatever the source is. -/
theorem follows_fetch (settings : Settings) (source : Script.Source) :
    Follows env R (Run.fetch settings source file) := by
  refine .bind hR.toChained (.get hR.toChained) fun s => ?_
  cases source with
  | file url => exact hR.follows_file hremove url s.cookies settings.requestTimeout
  | page url => exact hR.follows_page settings url s.cookies
  | text content => exact hR.follows_text content

end Admits

/-- Fetching follows every busy relation. -/
theorem Busy.follows_fetch {env : Environment} {R : State → State → Prop} (hR : Busy env R)
    (settings : Settings) (source : Script.Source) (file : Path) :
    Follows env R (Run.fetch settings source file) :=
  (hR.admits file).follows_fetch (hR.follows_unlinkIfThere file) settings source

end Act

/-! ## The store and the accounts -/

open Act (Keeps Quiet)

namespace Act

theorem keeps_note {n : Note} (h : n.isEntry = false) : Keeps State.holdings (note n) :=
  fun _ => .modify fun s => by simp [State.holdings, State.accounts, State.ledger, h]

theorem keeps_record (e : Event) : Keeps State.holdings (record e) :=
  fun env => (Quiet.holdings env).follows_record e

theorem keeps_request (e : Event) : Keeps State.holdings (request e) :=
  fun env => (Quiet.holdings env).follows_request e

theorem keeps_browse (e : Event) : Keeps State.holdings (browse e) :=
  fun env => (Quiet.holdings env).follows_browse e

theorem keeps_settle (reaction : Reaction) : Keeps State.holdings (settle reaction) :=
  fun env => (Quiet.holdings env).follows_settle reaction

end Act

namespace Browser

theorem keeps_call (e : Event) : Keeps State.holdings (call e) :=
  fun env => (Quiet.holdings env).follows_call e

theorem keeps_close : Keeps State.holdings close := fun env => (Quiet.holdings env).follows_close

theorem keeps_ensureOpen (settings : Settings) : Keeps State.holdings (ensureOpen settings) :=
  fun env => (Quiet.holdings env).follows_ensureOpen settings

end Browser

namespace Saving

theorem keeps_giveCookies (url : String) (cookies : Cookies) :
    Keeps State.holdings (giveCookies url cookies) :=
  fun env => (Quiet.holdings env).follows_giveCookies url cookies

theorem keeps_noteStatus (url : String) (response : Response) :
    Keeps State.holdings (noteStatus url response) :=
  fun env => (Quiet.holdings env).follows_noteStatus url response

end Saving

end Dossier
