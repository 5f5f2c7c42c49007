import Dossier.Event

/-!
# Sessions for requests

A connector holds at most one session.  The session is opened when it is first
asked for, and again when it is asked for after it was closed.  A session sends
the headers of its connector with every request and makes every request once,
without retries.

A connector is used in steps.  Each step gives the connector after it, the events
it causes and the session it hands out, if any.
-/

namespace Dossier

/-- A session: the headers it sends with every request. -/
structure Session where
  headers : List (String × String)
deriving DecidableEq, Repr

/-- The headers that requests have unless others are given. -/
def Session.standardHeaders : List (String × String) :=
  [("User-Agent", "Mozilla/5.0 (Windows NT 10.0; Win64; x64) AppleWebKit/537.36 " ++
      "(KHTML, like Gecko) Chrome/120.0.0.0 Safari/537.36"),
   ("Accept", "*/*"),
   ("Accept-Language", "en-US,en;q=0.9")]

/-- What hands out a session, and the session it holds. -/
structure Connector where
  headers : List (String × String) := Session.standardHeaders
  /-- The number of connection pools. -/
  pools : Int := 4
  /-- The most connections in a pool. -/
  connections : Int := 4
  held : Option Session := none
deriving DecidableEq, Repr

namespace Connector

/-- The events of opening a session. -/
def opening (c : Connector) : Trace :=
  [.sessionOpened, .mounted "http://" 0 c.pools c.connections,
   .mounted "https://" 0 c.pools c.connections]

/-- How a connector is used. -/
inductive Use
  /-- It is asked for its session. -/
  | session
  /-- It is closed. -/
  | close
  /-- A block with it is entered and left. -/
  | block
  /-- A block with it is entered, asks for the session, and is left. -/
  | blockWithSession
deriving DecidableEq, Repr

/-- What comes of using a connector. -/
structure Outcome where
  connector : Connector
  events : Trace := []
  handedOut : Option Session := none

/-- A connector is asked for its session. -/
def getSession (c : Connector) : Outcome :=
  match c.held with
  | some session => ⟨c, [], some session⟩
  | none =>
    let session : Session := ⟨c.headers⟩
    ⟨{ c with held := some session }, c.opening, some session⟩

/-- A connector is closed. -/
def close (c : Connector) : Outcome :=
  match c.held with
  | some _ => ⟨{ c with held := none }, [.sessionClosed], none⟩
  | none => ⟨c, [], none⟩

/-- A connector is used. -/
def use (c : Connector) : Use → Outcome
  | .session => c.getSession
  | .close => c.close
  | .block => c.close
  | .blockWithSession =>
    let first := c.getSession
    let last := first.connector.close
    ⟨last.connector, first.events ++ last.events, first.handedOut⟩

end Connector

end Dossier
