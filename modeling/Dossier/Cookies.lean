import Dossier.Host
import Dossier.Text.Base64

/-!
# Cookies

The cookies of a run are an ordered list of names and values.  They are read
from the text of a `Cookie` header, `name=value; name=value`, and written as
one.  A script carries that text as base64 of its UTF-8.  A plain request sends
the header, a browser is given one cookie for each pair, on the host of the
page it is about to visit.
-/

namespace Dossier

/-- An ordered list of cookies, as names and values. -/
structure Cookies where
  pairs : List (String × String) := []
deriving DecidableEq, Repr

namespace Cookies

/-! ## The header -/

/-- The cookie in one piece of a header, unless the piece is blank.  A piece
without `=` is a name with an empty value. -/
def pair? (piece : List Char) : Option (String × String) :=
  let content := Text.trim piece
  if content.isEmpty then none
  else
    let (name, _, value) := Text.divide '=' content
    some (String.ofList (Text.trim name), String.ofList (Text.trim value))

/-- The cookies in the text of a header. -/
def parse (text : String) : Cookies :=
  ⟨(Text.pieces (· == ';') text.toList).filterMap pair?⟩

/-- A cookie as a header has it. -/
def pairText (pair : String × String) : List Char := pair.1.toList ++ '=' :: pair.2.toList

/-- The text of the header. -/
def header (cookies : Cookies) : String :=
  String.ofList (Text.joinWith [';', ' '] (cookies.pairs.map pairText))

/-- There is no cookie to send. -/
def isEmpty (cookies : Cookies) : Bool := cookies.pairs.isEmpty

/-! ## The encoded form -/

/-- Why a blob holds no cookies. -/
inductive BlobFault
  /-- It is not base64. -/
  | base64 (fault : Base64.Fault)
  /-- Its bytes are no text. -/
  | text (fault : Utf8.Fault)
deriving DecidableEq, Repr

/-- The cookies in a blob. -/
def decode (blob : String) : Except BlobFault Cookies :=
  match Base64.decode blob.toList with
  | .error fault => .error (.base64 fault)
  | .ok bytes =>
    match Utf8.decode bytes with
    | .error fault => .error (.text fault)
    | .ok text => .ok (parse (String.ofList text))

/-- The blob of a text. -/
def encode (text : String) : String := String.ofList (Base64.encode (Utf8.encode text.toList))

/-- The message about a blob.  A character beyond ASCII is reported bare. -/
def BlobFault.message : BlobFault → String
  | .base64 .notAscii => Base64.Fault.notAscii.message
  | .base64 fault => "cookies data is not base64-encoded UTF-8 text: " ++ fault.message
  | .text fault => "cookies data is not base64-encoded UTF-8 text: " ++ fault.message

/-! ## Browser cookies -/

/-- A cookie as a browser takes it. -/
structure BrowserCookie where
  name : String
  value : String
  domain : String
  path : String
deriving DecidableEq, Repr

/-- The cookies for a page: one for each pair, on the host of the page. -/
def browserCookies (cookies : Cookies) (url : String) : Except Host.Fault (List BrowserCookie) :=
  (Host.ofUrl url).map fun host =>
    cookies.pairs.map fun pair => ⟨pair.1, pair.2, host, "/"⟩

/-! ## Tests -/

example : (parse " a = 1 ;; b ; =c=d ").pairs = [("a", "1"), ("b", ""), ("", "c=d")] := by
  decide +kernel
example : (parse "a=1;b").header = "a=1; b=" := by decide +kernel
example : (decode (encode "a=1")).toOption = some ⟨[("a", "1")]⟩ := by decide +kernel

end Cookies

end Dossier
