import Dossier.CommandLine.Word
import Dossier.Value

/-!
# What a command line asks for

The words of a command line are taken one after the other.  The first run of
plain words names the scripts; plain words of a later run mean nothing.  An
option that takes a value takes the one attached to it or else the next word,
which has to be plain.  Short options without a value can be written as one
word.  Asking for the help text or the version ends the reading at once, and
whatever stands after it does not count.

Two dashes attached to an option as its value stand for no value at all, which
is an empty list.
-/

namespace Dossier.CommandLine

/-- Where in a command line the reading is. -/
inductive Phase
  /-- There was no plain word yet. -/
  | before
  /-- The last word was one of the first run of plain words. -/
  | inside
  /-- The first run of plain words is over. -/
  | after
deriving DecidableEq, Repr

/-- What a command line asks for. -/
structure Request where
  scripts : List String := []
  subject : Option Value := none
  threshold : Option Value := none
  skipPages : Bool := false
  /-- The words that mean nothing. -/
  strange : List String := []
  phase : Phase := .before

/-- Why the reading of a command line ends before its last word. -/
inductive Stop
  | help
  | version
  | misuse (fault : Misuse)
deriving DecidableEq, Repr

namespace Request

/-! ## Single words -/

/-- The first run of plain words is over if it has begun. -/
def leaveRun (r : Request) : Request :=
  if r.phase = .inside then { r with phase := .after } else r

/-- A request with one more plain word. -/
def addPlain (r : Request) (text : String) : Request :=
  if r.phase = .after then { r with strange := r.strange ++ [text] }
  else { r with scripts := r.scripts ++ [text], phase := .inside }

/-- A request after the two dashes, which belong to the first run of plain
words without being one of them. -/
def addDivider (r : Request) : Request :=
  if r.phase = .after then { r with strange := r.strange ++ [dashes] }
  else { r with phase := .inside }

/-- A request with one more word that means nothing. -/
def addStrange (r : Request) (text : String) : Request :=
  { r.leaveRun with strange := r.strange ++ [text] }

/-- The value that a text stands for after an option. -/
def valueOf (text : String) : Value := if text = dashes then .list [] else .text text

/-- A request with an option and its value. -/
def addOption (r : Request) (flag : Flag) (value : String) : Except Stop Request :=
  match flag with
  | .help => .error .help
  | .version => .error .version
  | .subject => .ok { r with subject := some (valueOf value) }
  | .threshold => .ok { r with threshold := some (valueOf value) }
  | .skipPages => .ok { r with skipPages := true }

/-! ## Clusters -/

/-- The options of a word: those without a value in front, then the last one
and the value attached to it. -/
structure Cluster where
  front : List Flag := []
  last : Flag
  attached : Option String := none
deriving DecidableEq, Repr

/-- The options of a word that has something attached to its option. -/
def clusterOf (flag : Flag) (isShort : Bool) : List Char → Except Misuse Cluster
  | [] =>
    if flag.takesValue then .ok ⟨[], flag, some ""⟩ else .error (.valueUnwanted flag "")
  | c :: rest =>
    let value := String.ofList (c :: rest)
    if flag.takesValue then .ok ⟨[], flag, some value⟩
    else if isShort then
      match Flag.ofLetter? c with
      | none => .error (.valueUnwanted flag value)
      | some next =>
        if rest.isEmpty then .ok ⟨[flag], next, none⟩
        else (clusterOf next true rest).map fun cluster =>
          { cluster with front := flag :: cluster.front }
    else .error (.valueUnwanted flag value)

/-- The options of a word. -/
def cluster (flag : Flag) (isShort : Bool) (attached : Option String) : Except Misuse Cluster :=
  match attached with
  | none => .ok ⟨[], flag, none⟩
  | some value => clusterOf flag isShort value.toList

/-- A request with the options of a word, given the value of the last one. -/
def addCluster (r : Request) (c : Cluster) (value : String) : Except Stop Request := do
  let r ← c.front.foldlM (fun r flag => r.addOption flag "") r
  r.addOption c.last value

/-! ## Reading -/

/-- The request that words make of one. -/
def read (r : Request) : List Word → Except Stop Request
  | [] => .ok r
  | .plain text :: rest => read (r.addPlain text) rest
  | .divider :: rest => read r.addDivider rest
  | .strange text :: rest => read (r.addStrange text) rest
  | .option flag isShort attached :: rest =>
    match cluster flag isShort attached with
    | .error misuse => .error (.misuse misuse)
    | .ok c =>
      match c.attached, c.last.takesValue, rest with
      | none, true, .plain value :: rest =>
        match r.leaveRun.addCluster c value with
        | .error stop => .error stop
        | .ok r => read r rest
      | none, true, _ => .error (.misuse (.valueMissing c.last))
      | attached, _, rest =>
        match r.leaveRun.addCluster c (attached.getD "") with
        | .error stop => .error stop
        | .ok r => read r rest

/-- The request of a command line. -/
def ofArguments (arguments : List String) : Except Stop Request :=
  match wordsOf arguments with
  | .error misuse => .error (.misuse misuse)
  | .ok words =>
    match read {} words with
    | .error stop => .error stop
    | .ok r => if r.strange.isEmpty then .ok r else .error (.misuse (.unrecognized r.strange))

/-! ## Tests -/

example : ((ofArguments ["-a", "x", "i", "--", "-r"]).toOption.map Request.scripts) =
    some ["i", "-r"] := by decide +kernel
example : ((ofArguments ["i", "--skip", "j"]).toOption.map Request.scripts) = none := by
  decide +kernel
example : ((ofArguments ["i", "--skip"]).toOption.map Request.skipPages) = some true := by
  decide +kernel

end Request

end Dossier.CommandLine
