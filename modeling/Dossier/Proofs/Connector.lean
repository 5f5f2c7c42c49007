import Dossier.Connector
import Mathlib.Data.List.Basic

/-!
# One session at a time

A connector opens sessions one after the other.  It mounts both schemes on each, without retries,
and closes each before it opens the next.  Whatever it is used for and in whatever order, its calls
are those of so many sessions that are closed, and of one more if it holds one
(`uses_oneAtATime`).

A step lemma for asking and one for closing carry this: entering a block makes no call, so every
use is made of these two.
-/

namespace Dossier

/-! ## The calls of sessions -/

/-- The calls of a session from its opening on, as long as it is not closed. -/
def Session.begun (pools connections : Int) : Trace :=
  [.sessionOpened, .mounted "http://" 0 pools connections, .mounted "https://" 0 pools connections]

/-- The calls of a session that is closed. -/
def Session.ended (pools connections : Int) : Trace :=
  begun pools connections ++ [.sessionClosed]

/-- The calls of so many sessions that are closed, one after the other, and of one more if it is
open. -/
def Session.calls (pools connections : Int) (closed : Nat) (isOpen : Bool) : Trace :=
  (List.replicate closed (ended pools connections)).flatten ++
    if isOpen then begun pools connections else []

theorem Session.calls_opened (pools connections : Int) (closed : Nat) :
    calls pools connections closed false ++ begun pools connections =
      calls pools connections closed true := by
  simp [calls]

theorem Session.calls_closed (pools connections : Int) (closed : Nat) :
    calls pools connections closed true ++ [.sessionClosed] =
      calls pools connections (closed + 1) false := by
  simp [calls, ended, List.replicate_succ']

namespace Connector

variable {first c : Connector} {made : Trace} {session : Session}

/-! ## Asking and closing -/

/-- A connector that holds a session hands out that one, and nothing else happens. -/
theorem getSession_of_held (h : c.held = some session) : c.getSession = ⟨c, [], some session⟩ := by
  rw [getSession, h]

theorem getSession_of_not_held (h : c.held = none) :
    c.getSession = ⟨{ c with held := some ⟨c.headers⟩ }, c.opening, some ⟨c.headers⟩⟩ := by
  rw [getSession, h]

theorem close_of_held (h : c.held = some session) :
    c.close = ⟨{ c with held := none }, [.sessionClosed], none⟩ := by
  rw [close, h]

/-- To close a connector that holds no session does nothing. -/
theorem close_of_not_held (h : c.held = none) : c.close = ⟨c, [], none⟩ := by
  rw [close, h]

theorem held_getSession (c : Connector) : c.getSession.connector.held = c.getSession.handedOut := by
  cases h : c.held with
  | none => rw [getSession_of_not_held h]
  | some session => rw [getSession_of_held h, h]

theorem handedOut_getSession (c : Connector) : c.getSession.handedOut.isSome = true := by
  cases h : c.held with
  | none => rw [getSession_of_not_held h]; rfl
  | some session => rw [getSession_of_held h]; rfl

theorem held_close (c : Connector) : c.close.connector.held = none := by
  cases h : c.held with
  | none => rw [close_of_not_held h, h]
  | some session => rw [close_of_held h]

theorem handedOut_close (c : Connector) : c.close.handedOut = none := by
  cases h : c.held with
  | none => rw [close_of_not_held h]
  | some session => rw [close_of_held h]

/-! ## Uses one after the other -/

/-- A connector that has made some calls is used in some ways, one after the other: what it is
then, and the calls it has made. -/
def useAll (c : Connector) (made : Trace) : List Use → Connector × Trace
  | [] => (c, made)
  | use :: rest => (c.use use).connector.useAll (made ++ (c.use use).events) rest

/-- What holds of a connector and the calls it has made, whatever it was used for since it was
without a session. -/
structure Sound (first c : Connector) (made : Trace) : Prop where
  /-- It is what it was at first, but for the session it holds. -/
  settings : c = { first with held := c.held }
  /-- The session it holds has its headers. -/
  headers : ∀ session, c.held = some session → session.headers = first.headers
  /-- Its calls are those of sessions, the last of which is open if it holds one. -/
  calls : ∃ closed, made = Session.calls first.pools first.connections closed c.held.isSome

theorem sound_begin (h : first.held = none) : Sound first first [] where
  settings := rfl
  headers session hheld := by rw [h] at hheld; cases hheld
  calls := ⟨0, by rw [h]; rfl⟩

namespace Sound

theorem opening (h : Sound first c made) :
    c.opening = Session.begun first.pools first.connections := by
  rw [h.settings]
  rfl

theorem getSession (h : Sound first c made) :
    Sound first c.getSession.connector (made ++ c.getSession.events) := by
  cases hheld : c.held with
  | some session => rwa [getSession_of_held hheld, List.append_nil]
  | none =>
      have hheaders : c.headers = first.headers := by rw [h.settings]
      obtain ⟨closed, hcalls⟩ := h.calls
      rw [hheld] at hcalls
      rw [getSession_of_not_held hheld]
      exact {
        settings := by rw [h.settings]
        headers := by
          rintro session ⟨⟩
          exact hheaders
        calls := ⟨closed, by
          rw [h.opening, hcalls]
          exact Session.calls_opened _ _ closed⟩ }

theorem close (h : Sound first c made) :
    Sound first c.close.connector (made ++ c.close.events) := by
  cases hheld : c.held with
  | none => rwa [close_of_not_held hheld, List.append_nil]
  | some session =>
      obtain ⟨closed, hcalls⟩ := h.calls
      rw [hheld] at hcalls
      rw [close_of_held hheld]
      exact {
        settings := by rw [h.settings]
        headers := fun _ hnone => nomatch hnone
        calls := ⟨closed + 1, by
          rw [hcalls]
          exact Session.calls_closed _ _ closed⟩ }

theorem use (h : Sound first c made) (use : Use) :
    Sound first (c.use use).connector (made ++ (c.use use).events) := by
  cases use with
  | session => exact h.getSession
  | close => exact h.close
  | block => exact h.close
  | blockWithSession =>
      rw [Connector.use, ← List.append_assoc]
      exact h.getSession.close

theorem useAll (h : Sound first c made) (uses : List Use) :
    Sound first (c.useAll made uses).1 (c.useAll made uses).2 := by
  induction uses generalizing c made with
  | nil => exact h
  | cons use rest ih => exact ih (h.use use)

/-- A session that is handed out has the headers of the connector. -/
theorem handedOut (h : Sound first c made) (use : Use)
    (hout : (c.use use).handedOut = some session) : session.headers = first.headers := by
  have hget : c.getSession.handedOut = some session → session.headers = first.headers :=
    fun hsession => h.getSession.headers session ((held_getSession c).trans hsession)
  cases use with
  | session => exact hget hout
  | blockWithSession => exact hget hout
  | close => cases c.handedOut_close.symm.trans hout
  | block => cases c.handedOut_close.symm.trans hout

end Sound

/-- What holds of a use of a connector that has made some calls, if it has these headers, pools and
connections. -/
structure OneAtATime (headers : List (String × String)) (pools connections : Int)
    (before : Connector) (made : Trace) (use : Use) : Prop where
  /-- The calls before the use are those of sessions, all closed but the last, which is open just
  if one is held. -/
  past : ∃ closed, made = Session.calls pools connections closed before.held.isSome
  /-- So are they with the calls of the use. -/
  calls : ∃ closed, made ++ (before.use use).events =
    Session.calls pools connections closed (before.use use).connector.held.isSome
  /-- A session is handed out if it is asked for, in a block or not, and only then. -/
  handsOut : (before.use use).handedOut.isSome = true ↔ use = .session ∨ use = .blockWithSession
  /-- It has the headers of the connector, and no others. -/
  headers : ∀ session, (before.use use).handedOut = some session → session.headers = headers
  /-- A session that is asked for is held from then on. -/
  holds : use = .session → (before.use use).connector.held = (before.use use).handedOut
  /-- If one is held already it is that one, no call is made and the connector stays what it is. -/
  again : ∀ session, before.held = some session →
    before.use .session = ⟨before, [], some session⟩
  /-- So it is in a block, before the session is closed. -/
  inBlock : ∀ session, before.held = some session →
    before.use .blockWithSession = ⟨{ before with held := none }, [.sessionClosed], some session⟩
  /-- If none is held, a closing makes no call and leaves the connector what it is. -/
  idle : before.held = none → before.use .close = ⟨before, [], none⟩
  /-- After a block none is held, and after a closing. -/
  left : use ≠ .session → (before.use use).connector.held = none

/-- A connector that is used in any order and as often as one likes has one session at a time. -/
theorem uses_oneAtATime (headers : List (String × String)) (pools connections : Int)
    (earlier : List Use) (use : Use) :
    OneAtATime headers pools connections (useAll ⟨headers, pools, connections, none⟩ [] earlier).1
      (useAll ⟨headers, pools, connections, none⟩ [] earlier).2 use := by
  have hsound := (@sound_begin ⟨headers, pools, connections, none⟩ rfl).useAll earlier
  generalize useAll ⟨headers, pools, connections, none⟩ [] earlier = reached at hsound
  obtain ⟨before, made⟩ := reached
  exact {
    past := hsound.calls
    calls := (hsound.use use).calls
    handsOut := by
      cases use <;> simp [Connector.use, handedOut_getSession, handedOut_close]
    headers := fun session => hsound.handedOut use
    holds := by
      rintro rfl
      exact held_getSession before
    again := fun session hheld => getSession_of_held hheld
    inBlock := by
      intro session hheld
      rw [Connector.use, getSession_of_held hheld, close_of_held hheld]
      rfl
    idle := fun hheld => close_of_not_held hheld
    left := by
      cases use with
      | session => exact fun hne => absurd rfl hne
      | close => exact fun _ => held_close before
      | block => exact fun _ => held_close before
      | blockWithSession => exact fun _ => held_close _ }

end Connector

end Dossier
