/-
  FormulaQuery/Command/Run.lean
  =============================
  **A run of the command.**  A run reads a configuration and a query document or a
  topic set from a disk, and ends with an exit code, the text it prints, the lines
  of its log and at most one file to write.  Most failures are reported and end the
  run with code 1; the others end it with no code at all.  What is printed has to be
  encoded by the output it goes to.
-/
import FormulaQuery.Command.Arguments
import FormulaQuery.Command.Event
import FormulaQuery.Files.Document
import FormulaQuery.Text.Sink
import FormulaQuery.Topics.Json

namespace FormulaQuery.Command

inductive Line where
  | event (e : Event)
  | text (s : String)
  deriving DecidableEq, Repr

/-- The line as it is shown; events that matter little are shown on demand only. -/
def Line.render (time : String) (verbose : Bool) : Line → String
  | event e => if verbose || e.level.isPressing then e.line time else ""
  | text s => s ++ "\n"

inductive Failure where
  | config (e : ConfigError)
  | file (e : FileError)
  | query (e : QueryError)
  | topic (e : TopicError)
  | write (e : WriteError)
  /-- A text cannot be encoded: the file at the path, or what is printed if there is none, ends in
      front of it. -/
  | encode (path : Option FilePath) (front reason : String)
  /-- A topic set is asked for, and its path is empty. -/
  | emptyPath
  deriving DecidableEq, Repr

namespace Failure

def isReported : Failure → Bool
  | config e =>
    match e with
    | .directory => false
    | .unreadable => false
    | .wrongKind => false
    | .outOfRange => false
    | .notAMoment => false
    | .hugeNumber => false
    | .tooLong => false
    | _ => true
  | file e => e != .tooLong
  | query _ => true
  | topic _ => true
  | write e => e == .zero
  | encode _ _ _ => true
  | emptyPath => false

/-- The reason in words: the names of dialects are shown in quotes, and what is wrong
    with a document is left open. -/
def message : Failure → String
  | config e =>
    match e with
    | .unknownDialect _ _ => Text.inQuotes e.message
    | .noDialects _ => Text.inQuotes e.message
    | .unknownWord _ => Text.inQuotes e.message
    | _ => e.message
  | file e =>
    match e with
    | .malformed _ => e.message ++ ": DETAIL"
    | _ => e.message
  | query e => e.message
  | topic e => e.message
  | write e => if e = .zero then "embedded null byte" else "not writable"
  | encode _ _ reason => reason
  | emptyPath => "no path"

/-- The file that a failure leaves. -/
def written : Failure → Option (FilePath × List UInt8)
  | encode (some path) front _ => some (path, Text.encodeUtf8 front)
  | _ => none

/-- The text that is printed before a failure. -/
def printed : Failure → String
  | encode none front _ => front
  | _ => ""

end Failure

/-- A step of a run; the lines stay when a step fails. -/
abbrev Run := EStateM Failure (List Line)

namespace Run

def leave (lines : List Line) : Run Unit := modify (· ++ lines)

def log (events : List Event) : Run Unit := leave (events.map .event)

def ofExcept {ε α : Type} (failure : ε → Failure) : Except ε α → Run α
  | .ok a => pure a
  | .error e => throw (failure e)

end Run

structure Result where
  code : Nat
  output : String := ""
  /-- A file that is written, and its bytes. -/
  written : Option (FilePath × List UInt8) := none
  deriving DecidableEq, Repr

/-! ### Configuration -/

/-- The path of the option file and the set of options chosen from it. -/
def Settings.chooseOptions (s : Settings) (d : Disk) : String × Except ConfigError Value :=
  match s.config with
  | none => packaged
  | some "" => packaged
  | some path =>
    let p := FilePath.ofString path
    (p.render, d.readOptions p s.dialect)
where
  packaged : String × Except ConfigError Value :=
    let name := match s.dialect with
      | none => "db2"
      | some "" => "db2"
      | some name => name
    (Config.packagedPath, Config.chooseOptions Config.packagedPath Config.packagedDialects name)

/-- The options that the command line gives, in the order in which they are assigned. -/
def Settings.overrides (s : Settings) : List (Field × Value) :=
  s.declaration.toList.map (Field.declaration, ·) ++
  s.pathToRoot.toList.map (Field.pathToRoot, ·) ++
  s.returnFormat.toList.map (Field.returnFormat, ·) ++
  (if s.noRestrictLength then [(Field.restrictLength, .bool false)] else []) ++
  (if s.noWildcardMap then [(Field.emitWildcardMap, .bool false)] else [])

def Settings.override (s : Settings) (c : Config) : Except ConfigError Config :=
  s.overrides.foldlM
    (fun c o => (c.set o.1 o.2).mapError fun r => .invalid [⟨o.1.name, r⟩]) c

def Settings.buildConfig (s : Settings) (d : Disk) : Run Config := do
  let (path, chosen) := s.chooseOptions d
  let options ← Run.ofExcept .config chosen
  Run.log [.configLoaded path]
  let c ← Run.ofExcept .config (Config.ofOptions options)
  Run.ofExcept .config (s.override c)

/-! ### Conversion -/

/-- Converts a query document; the query is not printed yet. -/
def convertDocument (d : Disk) (path : String) (config : Config) : Run (Option String) := do
  let p := FilePath.ofString path
  let tree ← Run.ofExcept .file (d.readQueryTree p)
  Run.log [.documentParsed p.render]
  let document ← Run.ofExcept .file (tree.formula.mapError (.ofDocument p))
  Run.log [.ofLocation document]
  Run.log (Event.ofMain document.main? config)
  Run.ofExcept .query (generateQuery (some document) config)

def heading (p : Pattern) : String := "(: " ++ p.num ++ " " ++ p.formulaId ++ " :)"

def printedLines (ps : List Pattern) : List String :=
  ps.flatMap fun p => [heading p, p.query, ""]

def errorLine (e : FormulaError) : Line :=
  .text ("  - " ++ Event.orNone e.num ++ "/" ++ Event.orNone e.formulaId ++ ": " ++ e.message)

/-- Converts a topic set; the queries are printed, or written to a file. -/
def convertTopics (d : Disk) (path : String) (config : Config) (jsonOut : Option String)
    (output : Sink) : Run Result := do
  let tree ← Run.ofExcept .file (d.readTree (FilePath.ofString path))
  Run.log [.topicsLoaded path]
  let reader : TopicReader := { source := { document := tree }, config := config }
  Run.log (Event.ofVisits reader)
  let report ← Run.ofExcept .topic reader.report?
  Run.log [.ofReport report]
  let code := if report.patterns.isEmpty then 1 else 0
  let result : Result ←
    if jsonOut.getD "" = "" then
      match output.print (printedLines report.patterns) with
      | (front, some reason) => throw (.encode none front reason)
      | (printed, none) => pure { code := code, output := printed }
    else do
      let p := FilePath.ofString (jsonOut.getD "")
      match d.refusal p with
      | some e => throw (.write e)
      | none =>
        match Sink.utf8.write (Json.document report.patterns) with
        | (front, some reason) => throw (.encode (some p) front reason)
        | (text, none) =>
          Run.log [.queriesWritten report.patterns.length p.render]
          pure { code := code, written := some (p, Text.encodeUtf8 text) }
  -- a failed delivery leaves these lines out
  Run.leave (report.errors.map errorLine)
  return result

inductive Conversion where
  | topics (r : Result)
  | document (query : Option String)
  deriving DecidableEq, Repr

def Settings.convert (s : Settings) (d : Disk) (output : Sink) : Run Conversion := do
  let config ← s.buildConfig d
  if s.topics.getD "" ≠ "" then
    return .topics (← convertTopics d (s.topics.getD "") config s.jsonOut output)
  else
    match s.query with
    | some path => return .document (← convertDocument d path config)
    | none => throw .emptyPath

structure Finished where
  result : Result
  verbose : Bool := false
  lines : List Line := []
  deriving DecidableEq, Repr

def Finished.shown (time : String) (f : Finished) : String :=
  Text.concat (f.lines.map (Line.render time f.verbose))

/-- Does what the settings ask for, and reports a failure.  The query of a document is printed at
    the end, where a failure is not reported any more. -/
def Settings.run (s : Settings) (d : Disk) (output : Sink) : Except Failure Finished :=
  match (s.convert d output).run [] with
  | .error f lines =>
    if f.isReported then
      .ok
        { result := { code := 1, output := f.printed, written := f.written }
          verbose := s.verbose
          lines :=
            lines ++ [.event (.conversionFailed f.message), .text ("Error: " ++ f.message)] }
    else .error f
  | .ok (.topics r) lines => .ok { result := r, verbose := s.verbose, lines := lines }
  | .ok (.document none) lines =>
    .ok
      { result := { code := 1 }
        verbose := s.verbose
        lines := lines ++ [.text "Error: no MathML found in query document"] }
  | .ok (.document (some query)) lines =>
    match output.print [query] with
    | (front, some reason) => .error (.encode none front reason)
    | (printed, none) =>
      .ok { result := { code := 0, output := printed }, verbose := s.verbose, lines := lines }

/-- What a run shows: the exit code, the text printed, and the text beside it. -/
structure Shown where
  code : Nat
  output : String
  messages : String
  written : Option (FilePath × List UInt8) := none
  deriving DecidableEq, Repr

/-- Runs the command with arguments on a disk; `time` stands in front of the lines of
    the log, and `output` is what the queries are printed to. -/
def run (time : String) (d : Disk) (arguments : List String) (output : Sink := .unlimited) :
    Except Failure Shown :=
  match Settings.ofArguments arguments with
  | .error .help => .ok { code := 0, output := helpText, messages := "" }
  | .error (.misuse e) => .ok { code := 2, output := "", messages := usage ++ usageLine e }
  | .ok s => do
    let f ← s.run d output
    return { code := f.result.code
             output := f.result.output
             messages := f.shown time
             written := f.result.written }

end FormulaQuery.Command
