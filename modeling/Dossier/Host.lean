import Dossier.Host.Address
import Dossier.Text.Lowercase
import Dossier.Text.Quoted

/-!
# The host of a URL

A browser cookie belongs to a host, so the host is read off the URL that is
about to be visited.  Blanks and control characters before the URL are dropped,
and so are tabs and line ends anywhere.  After the scheme, if there is one, two
slashes open the *authority*, which reaches to the first `/`, `?` or `#`.  Its
last `@` ends the user's name, a bracketed address or the text up to a colon is
the host, and small letters replace capitals up to a zone after `%`.

An authority is refused if its brackets do not enclose exactly one address, or
if one of its characters turns into a delimiter under compatibility
normalisation and so could pass for another host.
-/

namespace Dossier.Host

/-- Why a URL has no host to speak of. -/
inductive Fault
  /-- Brackets that do not pair, or text beside them. -/
  | brackets
  /-- An address of a later version that is malformed. -/
  | futureAddress
  /-- Text in brackets that is no address, as a message shows it. -/
  | noAddress (shown : String)
  /-- An address of version 4 in brackets. -/
  | version4
  /-- An authority with a character that could pass for a delimiter. -/
  | lookalike (authority : String)
deriving DecidableEq, Repr

/-! ## The authority -/

/-- A character dropped at the head of a URL. -/
def isLeadIn (c : Char) : Bool := decide (c.toNat ≤ 0x20)

/-- A character dropped anywhere in a URL. -/
def isDropped (c : Char) : Bool := c == '\t' || c == '\r' || c == '\n'

/-- A URL without the characters that are dropped. -/
def cleaned (url : List Char) : List Char :=
  (url.dropWhile isLeadIn).filter fun c => !isDropped c

/-- A letter of ASCII. -/
def isPlainLetter (c : Char) : Bool :=
  (decide ('a' ≤ c) && decide (c ≤ 'z')) || (decide ('A' ≤ c) && decide (c ≤ 'Z'))

/-- A character of a scheme. -/
def isSchemeChar (c : Char) : Bool :=
  isPlainLetter c || Text.isPlainDigit c || c == '+' || c == '-' || c == '.'

/-- A name before a colon that can be a scheme. -/
def isScheme (cs : List Char) : Bool :=
  match cs with
  | [] => false
  | c :: _ => isPlainLetter c && cs.all isSchemeChar

/-- A URL without its scheme. -/
def afterScheme (url : List Char) : List Char :=
  let (name, found, rest) := Text.divide ':' url
  if found && isScheme name then rest else url

/-- A character that ends the authority. -/
def isAuthorityEnd (c : Char) : Bool := c == '/' || c == '?' || c == '#'

/-- The authority of a URL, empty if there is none. -/
def authority (url : List Char) : List Char :=
  match afterScheme (cleaned url) with
  | '/' :: '/' :: rest => rest.takeWhile fun c => !isAuthorityEnd c
  | _ => []

/-! ## The checks -/

/-- Characters whose compatibility normalisation contains one of `/?#@:`. -/
def lookalikes : List Nat :=
  [0x2047, 0x2048, 0x2049, 0x2100, 0x2101, 0x2105, 0x2106, 0x2A74, 0xFE13, 0xFE16, 0xFE55, 0xFE56,
   0xFE5F, 0xFE6B, 0xFF03, 0xFF0F, 0xFF1A, 0xFF1F, 0xFF20]

/-- The text in brackets is one address of version 6 or later. -/
def checkBracketed (host : List Char) : Except Fault Unit :=
  if host.head? == some 'v' then
    if isFuture host then .ok () else .error .futureAddress
  else if isVersion4 host then .error .version4
  else if isVersion6 host then .ok ()
  else .error (.noAddress (String.ofList (Text.quote host)))

/-- An authority with brackets has one address in them, nothing before them and
only a colon and a number after them. -/
def checkBrackets (authority : List Char) : Except Fault Unit :=
  let opens := authority.contains '['
  let closes := authority.contains ']'
  if opens != closes then .error .brackets
  else if !opens then .ok ()
  else
    let host := (Text.divideLast '@' authority).2
    let (before, found, bracketed) := Text.divide '[' host
    if found then
      let (address, _, tail) := Text.divide ']' bracketed
      if !before.isEmpty then .error .brackets
      else if !tail.isEmpty && tail.head? != some ':' then .error .brackets
      else checkBracketed address
    else checkBracketed (Text.divide ':' host).1

/-- No character of an authority could pass for a delimiter. -/
def checkLookalikes (authority : List Char) : Except Fault Unit :=
  if authority.any fun c => lookalikes.contains c.toNat then
    .error (.lookalike (String.ofList authority))
  else .ok ()

/-! ## The host -/

/-- The host in an authority, as it is written. -/
def written (authority : List Char) : List Char :=
  let host := (Text.divideLast '@' authority).2
  let (_, found, bracketed) := Text.divide '[' host
  if found then (Text.divide ']' bracketed).1 else (Text.divide ':' host).1

/-- A host in small letters, its zone apart. -/
def normal (host : List Char) : List Char :=
  Text.lower (host.takeWhile (· != '%')) ++ host.dropWhile (· != '%')

/-- The host of a URL, empty if it has none. -/
def ofUrl (url : String) : Except Fault String := do
  let authority := authority url.toList
  checkBrackets authority
  checkLookalikes authority
  return String.ofList (normal (written authority))

/-- The message about a URL without a host. -/
def Fault.message : Fault → String
  | .brackets => "Invalid IPv6 URL"
  | .futureAddress => "IPvFuture address is invalid"
  | .noAddress shown => shown ++ " does not appear to be an IPv4 or IPv6 address"
  | .version4 => "An IPv4 address cannot be in brackets"
  | .lookalike authority =>
    "netloc '" ++ authority ++ "' contains invalid characters under NFKC normalization"

end Dossier.Host
