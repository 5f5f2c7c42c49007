import Dossier.Proofs.Act.Faults
import Dossier.Proofs.Saving
import Dossier.Proofs.Store.Containment

/-!
# Acts that stay below a directory

An act is *contained* in a directory if, where that directory is there, all it
does to the store is within it.  What saves to a file below the directory is
contained, however it ends.  It takes nothing, with one exception: a download
that breaks off takes the file it was written to (`Saving.file_leads`).

What may be taken can depend on the fault an act ends with.  So a relation here
has such a fault, or none, as a parameter, and an act *leads* along it.
-/

namespace Dossier

variable {α β : Type} {env : Environment} {s s' t : State} {base l : Location}
  {gone : Location → Prop} {fault : Fault}

/-! ## Relations that depend on a fault -/

namespace Act

/-- An act leads along a relation that depends on the fault it ends with. -/
def Leads (env : Environment) (R : Option Fault → State → State → Prop) (act : Act α) : Prop :=
  ∀ s, match act env s with
    | .ok _ s' => R none s s'
    | .error fault s' => R (some fault) s s'

namespace Leads

variable {R : Option Fault → State → State → Prop}

theorem ok {act : Act α} (h : Leads env R act) {a : α} (hact : act env s = .ok a s') :
    R none s s' := by
  have := h s
  rwa [hact] at this

theorem error {act : Act α} (h : Leads env R act) (hact : act env s = .error fault s') :
    R (some fault) s s' := by
  have := h s
  rwa [hact] at this

theorem of_endings {act : Act α} (hok : ∀ s a s', act env s = .ok a s' → R none s s')
    (herror : ∀ s f s', act env s = .error f s' → R (some f) s s') : Leads env R act := by
  intro s
  cases h : act env s with
  | ok a t => exact hok s a t h
  | error f t => exact herror s f t h

theorem mono {act : Act α} {R' : Option Fault → State → State → Prop} (h : Leads env R' act)
    (hR : ∀ fault? s s', R' fault? s s' → R fault? s s') : Leads env R act :=
  of_endings (fun _ _ _ hact => hR _ _ _ (h.ok hact)) fun _ _ _ hact => hR _ _ _ (h.error hact)

theorem of_follows {act : Act α} {R' : State → State → Prop} (h : Follows env R' act)
    (hR : ∀ fault? s s', R' s s' → R fault? s s') : Leads env R act :=
  of_endings (fun _ _ _ hact => hR _ _ _ (h.ok hact)) fun _ _ _ hact => hR _ _ _ (h.error hact)

theorem bind {act : Act α} {next : α → Act β}
    (hR : ∀ {fault? s t u}, R none s t → R fault? t u → R fault? s u) (hact : Leads env R act)
    (hnext : ∀ a, Leads env R (next a)) : Leads env R (act >>= next) := by
  refine of_endings (fun s b s' h => ?_) fun s f s' h => ?_
  · obtain ⟨a, t, ha, hb⟩ := bind_ok.mp h
    exact hR (hact.ok ha) ((hnext a).ok hb)
  · rcases bind_error.mp h with ha | ⟨a, t, ha, hb⟩
    · exact hact.error ha
    · exact hR (hact.ok ha) ((hnext a).error hb)

end Leads

end Act

/-! ## Contained changes -/

/-- All that differs in the store of a later state is within a directory that was
there. -/
def State.Contained (base : Location) (gone : Location → Prop) (s s' : State) : Prop :=
  s.store.Tree → s.store.get? base = some .directory →
    Store.Within (Store.Below base) gone s.store s'.store

namespace State.Contained

theorem of_store (h : s'.store = s.store) : State.Contained base gone s s' :=
  fun hs _ => h.symm ▸ Store.Within.refl hs

theorem mono {gone' : Location → Prop} (h : State.Contained base gone s s')
    (hgone : ∀ l, gone l → gone' l) : State.Contained base gone' s s' :=
  fun hs hdir => (h hs hdir).mono hgone

theorem chained (base : Location) (gone : Location → Prop) :
    Act.Chained (State.Contained base gone) where
  refl _ := of_store rfl
  trans h h' hs hdir := (h hs hdir).trans (h' (h hs hdir).tree ((h hs hdir).directory.trans hdir))

end State.Contained

open Act (Follows Leads)
open State (Contained)

/-! ## Calls on the store -/

namespace Disk

theorem follows_change {p : Path} {call : Store → Location → Path → Except Errno Store}
    (hcall : ∀ {store changed : Store}, store.Tree → store.get? base = some .directory →
      call store env.here p = .ok changed → Store.Within (Store.Below base) gone store changed) :
    Follows env (Contained base gone) (change p call) :=
  (Contained.chained base gone).follows_change fun _ _ h hs hdir => hcall hs hdir h

theorem follows_changeUntil {p : Path} {call : Store → Location → Path → Store × Option Fault}
    (hcall : ∀ {store : Store}, store.Tree → store.get? base = some .directory →
      Store.Within (Store.Below base) gone store (call store env.here p).1) :
    Follows env (Contained base gone) (changeUntil p call) :=
  (Contained.chained base gone).follows_changeUntil fun _ => hcall

section Below

variable (hl : ".." ∉ l) (hbelow : Store.Below base l)
include hl hbelow

theorem follows_write (content : Content) :
    Follows env (Contained base gone) (write (Location.path l) content) :=
  follows_change fun hs _ h => Store.write_within hs hl hbelow h

theorem follows_unlink (hgone : gone l) :
    Follows env (Contained base gone) (unlink (Location.path l)) :=
  follows_change fun hs _ h => Store.unlink_within hs hl hbelow hgone h

theorem follows_unlinkIfThere (hgone : gone l) :
    Follows env (Contained base gone) (unlinkIfThere (Location.path l)) :=
  (Contained.chained base gone).follows_unlinkIfThere (follows_unlink hl hbelow hgone)

theorem follows_removeTree (hgone : ∀ m, l <+: m → gone m) :
    Follows env (Contained base gone) (removeTree (Location.path l)) :=
  follows_changeUntil fun hs _ => Store.removeTree_within hs hl hbelow.ne_nil
    (fun _ => hbelow.of_prefix) hgone

theorem follows_ensureParent :
    Follows env (Contained base gone) (ensureParent (Location.path l)) := by
  have hl' : ".." ∉ l.dropLast := fun hm => hl (List.dropLast_subset _ hm)
  refine Follows.mapFault (follows_changeUntil fun hs hdir => ?_) _
  exact (Store.ensureDirectories_grows hs hl').within hs hdir
    (Store.prefix_dropLast hbelow.1 hbelow.2.symm)

/-- What saves to a file below a directory is contained in it. -/
theorem admits_contained (env : Environment) (gone : Location → Prop) :
    Act.Admits env (Contained base gone) (Location.path l) where
  toQuiet := .of_store env (Contained.chained base gone) Contained.of_store
  parent := follows_ensureParent hl hbelow
  write := follows_write hl hbelow

end Below

/-- A file that cannot be removed is still there. -/
theorem unlinkIfThere_error {p : Path} (h : unlinkIfThere p env s = .error fault s') :
    s' = s := by
  obtain ⟨f, t, hunlink, hpassed⟩ := Act.rescue_error.mp h
  obtain rfl := change_error hunlink
  split at hpassed
  · cases hpassed
  · exact (Act.throw_error.mp hpassed).2

end Disk

/-! ## Downloads -/

/-- The fault of a download that broke off while it was written to a file. -/
def Fault.IsDownload (url : String) (file : Path) : Fault → Prop
  | .network (.interrupted address _) => address = url
  | .storage (.write path) (.system _) => path = file
  | _ => False

namespace Saving

/-- What is discarded is removed, and its fault is that of a download, or it is
left as it is. -/
theorem discard_error {url : String} {file : Path} {f : Fault}
    (hf : ∀ cause, f = .network cause → f.IsDownload url file)
    (h : discard file f env s = .error fault s') :
    s' = s ∨ fault.IsDownload url file ∧ Disk.unlinkIfThere file env s = .ok () s' := by
  unfold discard at h
  split at h
  · rename_i cause
    rcases Act.bind_error.mp h with hunlink | ⟨_, t, hunlink, hthrow⟩
    · exact Or.inl (Disk.unlinkIfThere_error hunlink)
    · obtain ⟨rfl, rfl⟩ := Act.throw_error.mp hthrow
      exact Or.inr ⟨hf cause rfl, hunlink⟩
  · rcases Act.bind_error.mp h with hunlink | ⟨_, t, hunlink, hthrow⟩
    · exact Or.inl (Disk.unlinkIfThere_error hunlink)
    · obtain ⟨rfl, rfl⟩ := Act.throw_error.mp hthrow
      exact Or.inr ⟨rfl, hunlink⟩
  · exact Or.inl (Act.throw_error.mp h).2

/-- What is taken when a URL is saved to a file: nothing, unless the download
broke off, and then the file. -/
def Takes (url : String) (l : Location) (fault? : Option Fault) (m : Location) : Prop :=
  m = l ∧ ∃ fault, fault? = some fault ∧ fault.IsDownload url (Location.path l)

theorem receive_leads (hl : ".." ∉ l) (hbelow : Store.Below base l) (url : String)
    (response : Response) :
    Leads env (fun fault? => Contained base (Takes url l fault?))
      (receive url (Location.path l) response) := by
  refine .of_endings (fun s n s' h => ?_) fun s fault s' h => ?_
  · obtain ⟨t, hkeep, _, _, hwrite⟩ := receive_ok h
    obtain ⟨hstore, _⟩ := State.holdings_inj hkeep
    exact (Contained.chained _ _).trans (.of_store hstore)
      ((Disk.follows_write hl hbelow _).ok hwrite)
  · have hadmits := Disk.admits_contained hl hbelow env (Takes url l (some fault))
    rcases Act.bind_error.mp h with hnote | ⟨_, t, hnote, hrest⟩
    · exact (hadmits.follows_noteStatus url response).error hnote
    rcases Act.bind_error.mp hrest with hrescue | ⟨_, t', _, hpure⟩
    · obtain ⟨f, t', hwrite, hdiscard⟩ := Act.rescue_error.mp hrescue
      have hbefore := hadmits.trans ((hadmits.follows_noteStatus url response).ok hnote)
        ((hadmits.follows_writeBody url response).error hwrite)
      have hnetwork : ∀ cause, f = .network cause → f.IsDownload url (Location.path l) := by
        rintro cause rfl
        obtain ⟨⟨message, rfl⟩, _⟩ := writeBody_network hwrite
        rfl
      rcases discard_error hnetwork hdiscard with rfl | ⟨hdownload, hunlink⟩
      · exact hbefore
      · exact hadmits.trans hbefore
          ((Disk.follows_unlinkIfThere hl hbelow ⟨rfl, fault, rfl, hdownload⟩).ok hunlink)
    · cases hpure

/-- Saving what is behind a URL takes the file only if the download breaks off. -/
theorem file_leads (hl : ".." ∉ l) (hbelow : Store.Below base l) (url : String)
    (cookies : Cookies) (timeout : Timeout) :
    Leads env (fun fault? => Contained base (Takes url l fault?))
      (Saving.file url (Location.path l) cookies timeout) := by
  have htrans : ∀ {fault? : Option Fault} {s t u : State},
      Contained base (Takes url l none) s t → Contained base (Takes url l fault?) t u →
        Contained base (Takes url l fault?) s u := by
    intro fault? s t u h h'
    refine (Contained.chained _ _).trans (h.mono fun m hm => ?_) h'
    obtain ⟨_, _, hnone, _⟩ := hm
    cases hnone
  have hadmits := Disk.admits_contained hl hbelow env fun _ => False
  have hquiet : ∀ (fault? : Option Fault) (s s' : State), Contained base (fun _ => False) s s' →
      Contained base (Takes url l fault?) s s' := fun _ _ _ h => h.mono fun _ hm => hm.elim
  refine .bind htrans (.of_follows hadmits.parent hquiet) fun _ => .bind htrans
    (.of_follows (hadmits.follows_fileRequest url cookies timeout) hquiet) fun response => ?_
  have hreceive : Leads env _ _ := receive_leads hl hbelow url response
  refine .of_endings (fun s n s' h => ?_) fun s fault s' h => ?_
  · obtain ⟨t, hreceived, hclosed⟩ := Act.andAlways_ok.mp h
    exact htrans (hreceive.ok hreceived)
      (hquiet _ _ _ ((hadmits.follows_record _).ok hclosed))
  · rcases Act.andAlways_error.mp h with ⟨_, _, _, hclosed⟩ | ⟨t, hbroken, hclosed⟩ |
      ⟨_, _, _, hclosed⟩
    · cases hclosed
    · exact (Contained.chained _ _).trans (hreceive.error hbroken)
        (hquiet _ _ _ ((hadmits.follows_record _).ok hclosed))
    · cases hclosed

end Saving

end Dossier
