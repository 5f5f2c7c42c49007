import Dossier.Event
import Dossier.Note

/-!
# Acts

An *act* is what a program does: it meets its environment, changes the state,
and ends with a value or with a fault.  What an act has changed stays changed
when it fails; nothing is taken back.

The state holds what later answers can show: the store, the clock, the trace,
the notes, the handles on a browser, and the cookies and the report of the run.

Three combinators deal with faults.  `rescue` hands a fault to a second act,
`mapFault` renames it, and `andAlways` runs a second act however the first one
ends; if both fail, the fault of the second is the one that is seen.
-/

namespace Dossier

/-- What is held of a browser: its driver and the browser itself. -/
structure Handles where
  driver : Bool := false
  browser : Bool := false
deriving DecidableEq, Repr

/-- What a program has to show so far. -/
structure State where
  store : Store := {}
  /-- The reading of the clock, in seconds. -/
  clock : Float := 0
  trace : Trace := []
  notes : List Note := []
  handles : Handles := {}
  /-- The cookies in force. -/
  cookies : Cookies := {}
  report : Report := {}

/-- What a program does. -/
abbrev Act (α : Type) : Type := ReaderT Environment (EStateM Fault State) α

namespace Act

/-! ## Faults -/

/-- An act with a second act for its faults. -/
def rescue {α : Type} (act : Act α) (handler : Fault → Act α) : Act α := fun env s =>
  match act env s with
  | .ok a s => .ok a s
  | .error fault s => handler fault env s

/-- An act with its faults renamed. -/
def mapFault {α : Type} (rename : Fault → Fault) (act : Act α) : Act α := fun env s =>
  match act env s with
  | .ok a s => .ok a s
  | .error fault s => .error (rename fault) s

/-- An act, and a second act however the first one ends. -/
def andAlways {α : Type} (act : Act α) (after : Act Unit) : Act α := fun env s =>
  match act env s with
  | .ok a s =>
    match after env s with
    | .ok _ s => .ok a s
    | .error fault s => .error fault s
  | .error fault s =>
    match after env s with
    | .ok _ s => .error fault s
    | .error later s => .error later s

/-- A value, or the fault there is instead. -/
def ofExcept {ε α : Type} (fault : ε → Fault) : Except ε α → Act α
  | .ok a => pure a
  | .error e => throw (fault e)

/-! ## Notes, events and time -/

/-- The environment of a program. -/
def environment : Act Environment := read

/-- Takes a note. -/
def note (n : Note) : Act Unit := modify fun s => { s with notes := s.notes ++ [n] }

/-- Records an event. -/
def record (e : Event) : Act Unit := modify fun s => { s with trace := s.trace ++ [e] }

/-- Lets so many seconds pass. -/
def wait (seconds : Float) : Act Unit := modify fun s => { s with clock := s.clock + seconds }

/-- Makes a request and waits for the answer. -/
def request (e : Event) : Act (Except TransportFault Response) := do
  record e
  let env ← environment
  let reply := env.reply (← get).trace
  wait reply.takes
  return reply.outcome

/-- Makes a call on the browser and waits for its reaction. -/
def browse (e : Event) : Act Reaction := do
  record e
  let env ← environment
  let reaction := env.react (← get).trace
  wait reaction.takes
  return reaction

/-- Fails as a reaction says. -/
def settle (reaction : Reaction) : Act Unit :=
  match reaction.failure with
  | some message => throw (.browser message)
  | none => pure ()

/-! ## Accounts -/

/-- Changes the report. -/
def account (change : Report → Report) : Act Unit :=
  modify fun s => { s with report := change s.report }

end Act

end Dossier
