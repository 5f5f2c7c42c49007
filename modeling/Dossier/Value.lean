import Dossier.Number.Shortest
import Dossier.Text.Quoted

/-!
# Plain data

What settings and reports look like to the log and to other programs: numbers,
texts, lists and records with their fields in order.  `json` writes a value as
one line of JSON in pure ASCII.  `shown` writes it as a message shows it, with
texts between quotes.
-/

namespace Dossier

/-- Plain data. -/
inductive Value
  | null
  | flag (b : Bool)
  | whole (n : Int)
  | real (x : Float)
  | text (s : String)
  | list (items : List Value)
  | record (fields : List (String × Value))

namespace Value

/-- Texts with a comma and a space between any two of them. -/
def commaJoined (parts : List String) : String := ", ".intercalate parts

/-! ## JSON -/

mutual

/-- A value as JSON. -/
def json : Value → String
  | .null => "null"
  | .flag true => "true"
  | .flag false => "false"
  | .whole n => String.ofList (Decimal.ofInt n)
  | .real x => Shortest.textWith Shortest.json x
  | .text s => Text.jsonQuoted s
  | .list items => "[" ++ commaJoined (jsonItems items) ++ "]"
  | .record fields => "\x7b" ++ commaJoined (jsonFields fields) ++ "\x7d"

/-- The items of a list as JSON. -/
def jsonItems : List Value → List String
  | [] => []
  | v :: rest => json v :: jsonItems rest

/-- The fields of a record as JSON. -/
def jsonFields : List (String × Value) → List String
  | [] => []
  | (name, v) :: rest => (Text.jsonQuoted name ++ ": " ++ json v) :: jsonFields rest

end

/-! ## Messages -/

mutual

/-- A value as a message shows it. -/
def shown : Value → String
  | .null => "None"
  | .flag true => "True"
  | .flag false => "False"
  | .whole n => String.ofList (Decimal.ofInt n)
  | .real x => Shortest.text x
  | .text s => Text.quoted s
  | .list items => "[" ++ commaJoined (shownItems items) ++ "]"
  | .record fields => "\x7b" ++ commaJoined (shownFields fields) ++ "\x7d"

/-- The items of a list as a message shows them. -/
def shownItems : List Value → List String
  | [] => []
  | v :: rest => shown v :: shownItems rest

/-- The fields of a record as a message shows them. -/
def shownFields : List (String × Value) → List String
  | [] => []
  | (name, v) :: rest => (Text.quoted name ++ ": " ++ shown v) :: shownFields rest

end

/-- The text of a value: a text itself, and of other data what a message
shows. -/
def asText : Value → String
  | .text s => s
  | v => v.shown

end Value

end Dossier
