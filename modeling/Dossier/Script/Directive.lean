/-!
# Directives

An instruction script is a list of directives.  The first names the archive.
Each later one either sets the cookies for the rows after it or saves something
to a *destination*, a path inside the archive.  What is saved comes from a
*source*: a file behind a URL, a page behind a URL that is printed to PDF, or
text in the script itself.

A directive remembers the line it stands on, for the error messages about it.
A directive that comes from no text may have no line.
-/

namespace Dossier.Script

/-- Where the contents of a destination come from. -/
inductive Source
  /-- The response to a plain request. -/
  | file (url : String)
  /-- A page, printed to PDF by a browser. -/
  | page (url : String)
  /-- Literal text, with underscores for spaces. -/
  | text (content : String)
deriving DecidableEq, Repr

/-- What a directive asks for. -/
inductive Action
  /-- Names the output directory and the archive. -/
  | archiveName (name : String)
  /-- Sets the cookies, as base64 of their header. -/
  | cookies (blob : String)
  /-- Saves a source to a destination. -/
  | save (source : Source) (destination : String)
deriving DecidableEq, Repr

/-- A directive and the line it stands on, counted from one. -/
structure Directive where
  line : Option Int
  action : Action
deriving DecidableEq, Repr

/-! ## Verbs -/

/-- The verb that names the archive. -/
def archiveVerb : String := "zip-name"

/-- The verb that sets cookies. -/
def cookiesVerb : String := "cookies"

/-- The word between a source and its destination. -/
def linkWord : String := "as"

/-- The verbs that save something, in the order messages list them. -/
def saveVerbs : List String := ["save-file", "save-pdf", "save-text"]

/-- The verb of a source. -/
def Source.verb : Source → String
  | .file _ => "save-file"
  | .page _ => "save-pdf"
  | .text _ => "save-text"

/-- The word that a row gives for a source: its URL or its text. -/
def Source.word : Source → String
  | .file url => url
  | .page url => url
  | .text content => content

/-- The source that a verb makes of a word. -/
def Source.ofVerb? (verb word : String) : Option Source :=
  if verb = "save-file" then some (.file word)
  else if verb = "save-pdf" then some (.page word)
  else if verb = "save-text" then some (.text word)
  else none

theorem Source.ofVerb?_verb (s : Source) : Source.ofVerb? s.verb s.word = some s := by
  cases s <;> simp [ofVerb?, verb, word]

end Dossier.Script
