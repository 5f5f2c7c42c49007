import Dossier.Cookies
import Dossier.Settings
import Dossier.Store.Calls

/-!
# The trace

What a program does with the network and with a browser leaves a *trace* of
events in the order they happen.  An event is recorded when the call is made,
whether it succeeds or not.  The network and the browser answer a call from the
trace so far, the call itself being its last event, so that an answer may
depend on everything that went before.
-/

namespace Dossier

/-- A call on the network or on a browser. -/
inductive Event
  /-- A session for requests is opened. -/
  | sessionOpened
  /-- Requests to a scheme get so many retries, pools and connections. -/
  | mounted (scheme : String) (retries pools connections : Int)
  /-- The session is closed. -/
  | sessionClosed
  /-- A URL is requested, with further headers; the response is to be
  streamed. -/
  | requested (url : String) (headers : List (String × String)) (timeout : Timeout)
  /-- The response to a request is closed. -/
  | responseClosed (url : String)
  /-- The driver of browsers is started. -/
  | driverStarted
  /-- A browser is launched. -/
  | browserLaunched (headless : Bool)
  /-- A context with cookies of its own is opened in the browser. -/
  | contextOpened
  /-- The context is given cookies. -/
  | cookiesAdded (cookies : List Cookies.BrowserCookie)
  /-- A page is opened in the context. -/
  | pageOpened
  /-- The page visits a URL and waits until the network is idle. -/
  | visited (url : String) (timeout : Int)
  /-- The page is printed to a file, with its background. -/
  | printed (file : Path) (format : String)
  /-- The context is closed. -/
  | contextClosed
  /-- The browser is closed. -/
  | browserClosed
  /-- The driver is stopped. -/
  | driverStopped

/-- The calls on the network and on browsers, in the order they were made. -/
abbrev Trace := List Event

/-! ## Answers of the network -/

/-- How a request or a response can fail. -/
inductive TransportFault
  /-- The connection fails. -/
  | connection (message : String)
  /-- The system fails, for want of space. -/
  | system (message : String)
  /-- Something else is wrong with a value. -/
  | value (message : String)
deriving DecidableEq, Repr

/-- A response: its status, the chunks of its body as they arrive, and the
failure that cuts it short, if any. -/
structure Response where
  status : Int := 200
  chunks : List Bytes := []
  broken : Option TransportFault := none

/-- A response that does not tell of an error. -/
def Response.isFine (r : Response) : Bool := !(decide (400 ≤ r.status) && decide (r.status < 600))

/-- The body of a response, as far as it arrives. -/
def Response.body (r : Response) : Bytes := r.chunks.flatten

/-- What is written of a body, and its size as it is counted, after one more chunk.  An empty
chunk is passed over. -/
def Response.takeChunk (taken : Bytes × Nat) (chunk : Bytes) : Bytes × Nat :=
  if chunk.isEmpty then taken else (taken.1 ++ chunk, taken.2 + chunk.length)

/-- What is written of the body, chunk by chunk, and its size as it is counted. -/
def Response.received (r : Response) : Bytes × Nat := r.chunks.foldl takeChunk ([], 0)

theorem Response.foldl_takeChunk (chunks : List Bytes) (taken : Bytes × Nat) :
    chunks.foldl takeChunk taken =
      (taken.1 ++ chunks.flatten, taken.2 + chunks.flatten.length) := by
  induction chunks generalizing taken with
  | nil => simp
  | cons chunk rest ih =>
      rw [List.foldl_cons, ih, takeChunk, List.flatten_cons, List.length_append]
      split
      · rename_i hempty
        rw [List.isEmpty_iff.mp hempty, List.nil_append, List.length_nil, Nat.zero_add]
      · rw [List.append_assoc, Nat.add_assoc]

/-- However a body is cut into chunks, it is written as a whole and each byte is counted once. -/
theorem Response.received_eq (r : Response) : r.received = (r.body, r.body.length) := by
  rw [received, foldl_takeChunk, List.nil_append, Nat.zero_add]
  rfl

/-- The answer to a request, after so many seconds. -/
structure Reply where
  takes : Float := 0
  outcome : Except TransportFault Response := .ok {}

/-! ## Answers of a browser -/

/-- The answer to a call on a browser: it takes so many seconds, writes a file
if it is asked to print one, and fails with a message or not. -/
structure Reaction where
  takes : Float := 0
  output : Option Bytes := none
  failure : Option String := none

/-! ## The environment -/

/-- The machine that a program runs on: the directory it runs in, and what the
system says of a file that is to be packed, given the path to it. -/
structure Machine where
  here : Location := []
  /-- The year that the file is dated. -/
  year : Path → Int := fun _ => 2000
  /-- Why the file may not be opened to be packed, if there is a reason. -/
  bar? : Path → Option Errno := fun _ => none

/-- What a program meets and cannot change: the machine it runs on, how the
network and the browser answer, and whether there is a browser at all. -/
structure Environment extends Machine where
  reply : Trace → Reply := fun _ => {}
  react : Trace → Reaction := fun _ => {}
  hasBrowser : Bool := true

end Dossier
