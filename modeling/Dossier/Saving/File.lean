import Dossier.Disk

/-!
# Saving a file

A file behind a URL is saved by one request.  The cookies are sent as a header
if there are any.  The body is saved whatever the status of the response, and a
status that tells of an error is only noted.

A download that breaks off is removed, so that nothing is mistaken for a
finished one.  The response is closed however the download ends.
-/

namespace Dossier.Saving

/-- The headers of a request with cookies. -/
def cookieHeaders (cookies : Cookies) : List (String × String) :=
  if cookies.isEmpty then [] else [("Cookie", cookies.header)]

/-! ## The request -/

/-- The fault of a request without a response. -/
def unanswered (url : String) : TransportFault → Fault
  | .connection message => .network (.unreachable url message)
  | .system message => .system (.reported message)
  | .value message => .value message

/-- Requests a URL. -/
def request (url : String) (cookies : Cookies) (timeout : Timeout) : Act Response := do
  let outcome ← Act.request (.requested url (cookieHeaders cookies) timeout)
  Act.ofExcept (unanswered url) outcome

/-! ## The body -/

/-- The fault of a body that is cut short. -/
def cutShort (url : String) : TransportFault → Fault
  | .connection message => .network (.interrupted url message)
  | .system message => .system (.reported message)
  | .value message => .value message

/-- Writes the body of a response to a file, as far as it arrives. -/
def writeBody (url : String) (file : Path) (response : Response) : Act Unit := do
  Disk.write file (.plain response.received.1)
  match response.broken with
  | some fault => throw (cutShort url fault)
  | none => pure ()

theorem writeBody_eq (url : String) (file : Path) (response : Response) :
    writeBody url file response = (do
      Disk.write file (.plain response.body)
      match response.broken with
      | some fault => throw (cutShort url fault)
      | none => pure ()) := by
  rw [writeBody, Response.received_eq]

/-- Removes what is left of a download that failed on the network or in the
system, and passes its fault on. -/
def discard (file : Path) : Fault → Act Unit
  | .network fault => do
    Disk.unlinkIfThere file
    throw (.network fault)
  | .system fault => do
    Disk.unlinkIfThere file
    throw (.storage (.write file) (.system fault))
  | fault => throw fault

/-- Notes a status that tells of an error. -/
def noteStatus (url : String) (response : Response) : Act Unit :=
  if response.isFine then pure () else Act.note (.unexpectedStatus url response.status)

/-- Saves the body of a response. -/
def receive (url : String) (file : Path) (response : Response) : Act Nat := do
  noteStatus url response
  (writeBody url file response).rescue (discard file)
  return response.received.2

/-! ## The download -/

/-- Saves what is behind a URL and gives its size. -/
def file (url : String) (file : Path) (cookies : Cookies)
    (timeout : Timeout := .whole 120) : Act Nat := do
  Disk.ensureParent file
  let response ← request url cookies timeout
  (receive url file response).andAlways (Act.record (.responseClosed url))

end Dossier.Saving
