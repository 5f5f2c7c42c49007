import Dossier.Script.Directive
import Dossier.Text.Blank

/-!
# Writing a script

`render` writes directives as a script, one to a line, with single spaces
between the words.  The lines of the directives are their places in the list,
whatever lines they carried before.
-/

namespace Dossier.Script

/-- The words of the row of an action. -/
def Action.words : Action → List String
  | .archiveName name => [archiveVerb, name]
  | .cookies blob => [cookiesVerb, blob]
  | .save source destination => [source.verb, source.word, linkWord, destination]

/-- The row of an action. -/
def Action.render (action : Action) : List Char :=
  Text.joinWith [' '] (action.words.map String.toList)

/-- The text of a list of directives. -/
def render (directives : List Directive) : String :=
  String.ofList (Text.joinWith ['\n'] (directives.map fun d => d.action.render))

end Dossier.Script
