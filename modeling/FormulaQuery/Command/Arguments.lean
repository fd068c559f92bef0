/-
  FormulaQuery/Command/Arguments.lean
  ===================================
  **The arguments of the command line.**  Arguments are told apart first: switches,
  which may be shortened as long as they stay unambiguous, and plain words.  Then
  they are taken from left to right.  Behind two hyphens all arguments are plain.
-/
import FormulaQuery.Data.Value
import FormulaQuery.Text.Digit
import FormulaQuery.Text.Join
import FormulaQuery.Text.Printable

namespace FormulaQuery.Command

inductive Switch where
  | help
  | topics
  | dialect
  | config
  | declaration
  | pathToRoot
  | returnFormat
  | noRestrictLength
  | noWildcardMap
  | jsonOut
  | verbose
  deriving DecidableEq, Repr

namespace Switch

def all : List Switch :=
  [help, topics, dialect, config, declaration, pathToRoot, returnFormat, noRestrictLength,
   noWildcardMap, jsonOut, verbose]

def spellings : Switch → List String
  | help => ["-h", "--help"]
  | topics => ["--topics"]
  | dialect => ["--dialect"]
  | config => ["--config"]
  | declaration => ["--namespace"]
  | pathToRoot => ["--path-to-root"]
  | returnFormat => ["--return-format"]
  | noRestrictLength => ["--no-restrict-length"]
  | noWildcardMap => ["--no-qvar-map"]
  | jsonOut => ["--json-out"]
  | verbose => ["--verbose", "-v"]

def label (s : Switch) : String := Text.join "/" s.spellings

def takesValue : Switch → Bool
  | help => false
  | noRestrictLength => false
  | noWildcardMap => false
  | verbose => false
  | _ => true

def table : List (String × Switch) := all.flatMap fun s => s.spellings.map (·, s)

def ofSpelling? (s : String) : Option Switch := table.lookup s

end Switch

def fileLabel : String := "FILE"

inductive UsageError where
  /-- A shortened switch that could be several. -/
  | ambiguous (argument : String) (candidates : List String)
  | missingValue (s : Switch)
  | uncalledValue (s : Switch) (value : String)
  /-- A query document and a topic set at once: what came last, and what came first. -/
  | conflict (last first : String)
  | nothingToDo
  | unrecognized (arguments : List String)
  deriving DecidableEq, Repr

def UsageError.message : UsageError → String
  | ambiguous argument candidates =>
    "ambiguous option: " ++ argument ++ " could match " ++ Text.join ", " candidates
  | missingValue s => "argument " ++ s.label ++ ": expected one argument"
  | uncalledValue s value =>
    "argument " ++ s.label ++ ": ignored explicit argument " ++ Text.inQuotes value
  | conflict last first => "argument " ++ last ++ ": not allowed with argument " ++ first
  | nothingToDo =>
    "one of the arguments " ++ fileLabel ++ " " ++ Switch.topics.label ++ " is required"
  | unrecognized arguments => "unrecognized arguments: " ++ Text.join " " arguments

/-! ### Telling arguments apart -/

inductive Argument where
  | plain (word : String)
  /-- The two hyphens behind which all arguments are plain. -/
  | separator
  /-- A switch as it is spelled in full, with the value attached to it. -/
  | switch (s : Switch) (spelling : String) (value : Option String)
  | unknown (word : String)
  deriving DecidableEq, Repr

/-- The text of an argument in front of its first equals sign, and behind it. -/
def splitValue (cs : List Char) : List Char × Option (List Char) :=
  match cs.dropWhile (· != '=') with
  | '=' :: value => (cs.takeWhile (· != '='), some value)
  | _ => (cs, none)

/-- The switches whose spelling starts like an argument with two hyphens. -/
def longCandidates (cs : List Char) : List (Switch × String × Option String) :=
  let (front, value) := splitValue cs
  (Switch.table.filter fun t => front.isPrefixOf t.1.toList).map fun t =>
    (t.2, t.1, value.map String.ofList)

/-- The switches that an argument with one hyphen may be: its first letter is the
    switch, and the rest its value. -/
def shortCandidates (cs : List Char) : List (Switch × String × Option String) :=
  Switch.table.filterMap fun t =>
    if t.1.toList = cs.take 2 then some (t.2, t.1, some (String.ofList (cs.drop 2)))
    else if cs.isPrefixOf t.1.toList then some (t.2, t.1, none)
    else none

def isNegativeNumber (cs : List Char) : Bool :=
  match cs with
  | '-' :: rest =>
    let rest := withoutEnd rest
    match rest.dropWhile isDigit with
    | [] => !rest.isEmpty
    | '.' :: part => !part.isEmpty && part.all isDigit
    | _ => false
  | _ => false
where
  isDigit (c : Char) : Bool := (Text.digit? c).isSome
  withoutEnd (cs : List Char) : List Char :=
    if cs.getLast? = some '\n' then cs.dropLast else cs

/-- An argument that starts with a hyphen and is not a switch in full. -/
def classifyShortened (word : String) : Except UsageError Argument :=
  let cs := word.toList
  let candidates :=
    if "--".toList.isPrefixOf cs then longCandidates cs else shortCandidates cs
  match candidates with
  | [(s, spelling, value)] => .ok (.switch s spelling value)
  | [] => .ok (if isNegativeNumber cs || cs.contains ' ' then .plain word else .unknown word)
  | _ => .error (.ambiguous word (candidates.map (·.2.1)))

/-- An argument in front of the separator. -/
def classify (word : String) : Except UsageError Argument :=
  if !"-".toList.isPrefixOf word.toList || word = "-" then .ok (.plain word)
  else
    match Switch.ofSpelling? word, splitValue word.toList with
    | some s, _ => .ok (.switch s word none)
    | none, (front, some value) =>
      match Switch.ofSpelling? (String.ofList front) with
      | some s => .ok (.switch s (String.ofList front) (some (String.ofList value)))
      | none => classifyShortened word
    | none, (_, none) => classifyShortened word

def classifyAll : List String → Except UsageError (List Argument)
  | [] => .ok []
  | word :: rest =>
    if word = "--" then .ok (.separator :: rest.map .plain)
    else do
      let a ← classify word
      return a :: (← classifyAll rest)

/-! ### Taking arguments -/

/-- What the arguments ask for. -/
structure Settings where
  query : Option String := none
  topics : Option String := none
  dialect : Option String := none
  config : Option String := none
  declaration : Option Value := none
  pathToRoot : Option Value := none
  returnFormat : Option Value := none
  noRestrictLength : Bool := false
  noWildcardMap : Bool := false
  jsonOut : Option String := none
  verbose : Bool := false
  deriving Repr

inductive Stop where
  | help
  | misuse (e : UsageError)
  deriving DecidableEq, Repr

/-- How far the arguments have been taken. -/
structure Taken where
  settings : Settings := {}
  isFileTaken : Bool := false
  extras : List String := []

def Taken.flag (t : Taken) : Switch → Except Stop Taken
  | .help => .error .help
  | .noRestrictLength => .ok { t with settings := { t.settings with noRestrictLength := true } }
  | .noWildcardMap => .ok { t with settings := { t.settings with noWildcardMap := true } }
  | .verbose => .ok { t with settings := { t.settings with verbose := true } }
  | _ => .ok t

/-- What is given to a switch: a text, or nothing if it is the separator. -/
structure Given where
  text? : Option String

namespace Given

def ofWord (word : String) : Given := ⟨some word⟩

def ofAttached (s : String) : Given := ⟨if s = "--" then none else some s⟩

/-- The text of a path or a name; nothing is an empty text. -/
def text (g : Given) : String := g.text?.getD ""

/-- The value of an option; nothing is an empty list. -/
def value (g : Given) : Value :=
  match g.text? with
  | some s => .text s
  | none => .list []

end Given

def Taken.value (t : Taken) (s : Switch) (g : Given) : Except Stop Taken :=
  match s with
  | .topics =>
    if t.settings.query.isSome then .error (.misuse (.conflict s.label fileLabel))
    else .ok { t with settings := { t.settings with topics := some g.text } }
  | .dialect => .ok { t with settings := { t.settings with dialect := some g.text } }
  | .config => .ok { t with settings := { t.settings with config := some g.text } }
  | .declaration => .ok { t with settings := { t.settings with declaration := some g.value } }
  | .pathToRoot => .ok { t with settings := { t.settings with pathToRoot := some g.value } }
  | .returnFormat => .ok { t with settings := { t.settings with returnFormat := some g.value } }
  | .jsonOut => .ok { t with settings := { t.settings with jsonOut := some g.text } }
  | _ => .ok t

def Taken.file (t : Taken) (path : String) : Except Stop Taken :=
  if t.settings.topics.isSome then .error (.misuse (.conflict fileLabel Switch.topics.label))
  else .ok { t with settings := { t.settings with query := some path }, isFileTaken := true }

def Taken.extra (t : Taken) (words : List String) : Taken :=
  { t with extras := t.extras ++ words }

/-- The switches that a group of letters behind one hyphen stands for; `s` is the
    switch in front of it. -/
def cluster (s : Switch) : List Char → Except UsageError (List Switch)
  | [] => .ok [s]
  | c :: rest =>
    match Switch.ofSpelling? (String.ofList ['-', c]) with
    | some next => do return s :: (← cluster next rest)
    | none => .error (.uncalledValue s (String.ofList (c :: rest)))

def Taken.attached (t : Taken) (s : Switch) (spelling v : String) : Except Stop Taken :=
  if s.takesValue then t.value s (.ofAttached v)
  else if v = "" || "--".toList.isPrefixOf spelling.toList then
    .error (.misuse (.uncalledValue s v))
  else
    -- behind a single hyphen, what looks like a value may be more switches
    match cluster s v.toList with
    | .error e => .error (.misuse e)
    | .ok switches => switches.foldlM Taken.flag t

/-- Takes arguments from left to right: the first plain one is the file, and the
    separator beside it is left out. -/
def Taken.all (t : Taken) : List Argument → Except Stop Taken
  | [] => .ok t
  | .unknown word :: rest => (t.extra [word]).all rest
  | .switch s spelling (some v) :: rest => do (← t.attached s spelling v).all rest
  | .switch s _ none :: .plain word :: rest =>
    if s.takesValue then do (← t.value s (.ofWord word)).all rest
    else do (← t.flag s).all (.plain word :: rest)
  | .switch s _ none :: rest =>
    if s.takesValue then .error (.misuse (.missingValue s)) else do (← t.flag s).all rest
  | .plain word :: .separator :: rest =>
    if t.isFileTaken then (t.extra [word, "--"]).all rest else do (← t.file word).all rest
  | .plain word :: rest =>
    if t.isFileTaken then (t.extra [word]).all rest else do (← t.file word).all rest
  | .separator :: .plain word :: rest =>
    if t.isFileTaken then (t.extra ["--", word]).all rest else do (← t.file word).all rest
  | .separator :: rest =>
    if t.isFileTaken then (t.extra ["--"]).all rest
    else ({ t with isFileTaken := true } : Taken).all rest

def Settings.ofArguments (arguments : List String) : Except Stop Settings := do
  let classified ← (classifyAll arguments).mapError .misuse
  let t ← ({} : Taken).all classified
  if t.settings.query.isNone ∧ t.settings.topics.isNone then throw (.misuse .nothingToDo)
  if t.extras ≠ [] then throw (.misuse (.unrecognized t.extras))
  return t.settings

/-! ### Help -/

def usage : String :=
  "usage: mathml-xquery [-h] [--topics FILE] [--dialect DIALECT]\n" ++
  "                     [--config CONFIG] [--namespace NAMESPACE]\n" ++
  "                     [--path-to-root PATH_TO_ROOT]\n" ++
  "                     [--return-format RETURN_FORMAT] [--no-restrict-length]\n" ++
  "                     [--no-qvar-map] [--json-out JSON_OUT] [--verbose]\n" ++
  "                     [FILE]\n"

def helpText : String :=
  usage ++
  "\nConvert Content MathML queries to XQuery\n" ++
  "\npositional arguments:\n" ++
  "  FILE                  MathML query document\n" ++
  "\noptions:\n" ++
  "  -h, --help            show this help message and exit\n" ++
  "  --topics FILE         NTCIR topic set file\n" ++
  "  --dialect DIALECT     Named preset: db2 (default), basex, plain\n" ++
  "  --config CONFIG       YAML file with query options\n" ++
  "  --namespace NAMESPACE\n" ++
  "                        Namespace declaration\n" ++
  "  --path-to-root PATH_TO_ROOT\n" ++
  "                        Expression bound to $m\n" ++
  "  --return-format RETURN_FORMAT\n" ++
  "                        Return clause body\n" ++
  "  --no-restrict-length  Do not emit exact child count constraints\n" ++
  "  --no-qvar-map         Do not emit the $q qvar map\n" ++
  "  --json-out JSON_OUT   Write topic results to this JSON file\n" ++
  "  --verbose, -v         Debug logging\n" ++
  "\nExamples:\n" ++
  "  # Convert one query document\n" ++
  "  mathml-xquery query.xml\n" ++
  "\n" ++
  "  # Convert an NTCIR topic set for BaseX without length restriction\n" ++
  "  mathml-xquery --topics NTCIR11-Math-topics.xml --dialect basex --no-restrict-length\n" ++
  "        \n"

def usageLine (e : UsageError) : String := "mathml-xquery: error: " ++ e.message ++ "\n"

end FormulaQuery.Command
