/-
  FormulaQuery/Command/Event.lean
  ===============================
  **What happens during a run.**  Each step of a run leaves an event in the log.  An
  event has a level, and a part of the program that it comes from.
-/
import FormulaQuery.Topics.Reader

namespace FormulaQuery.Command

inductive Level where
  | debug
  | info
  | warning
  | error
  deriving DecidableEq, Repr

def Level.label : Level → String
  | debug => "DEBUG"
  | info => "INFO"
  | warning => "WARNING"
  | error => "ERROR"

/-- Whether an event of the level is shown even if little is asked for. -/
def Level.isPressing : Level → Bool
  | debug => false
  | info => false
  | warning => true
  | error => true

inductive Event where
  | configLoaded (path : String)
  | documentParsed (path : String)
  | mainLocated (convention : Convention)
  | mainMissing
  | wildcardMet (o : Occurrence)
  | mainCompiled (qualifiedName : String) (wildcards : Nat)
  | topicsLoaded (path : String)
  | formulaSkipped (num formulaId : String)
  | formulaFailed (num formulaId : Option String) (reason : String)
  | topicsCompiled (compiled : Nat) (total : Int) (status : Status)
  | queriesWritten (count : Nat) (path : String)
  | conversionFailed (reason : String)
  deriving DecidableEq, Repr

namespace Event

def level : Event → Level
  | configLoaded _ => .debug
  | documentParsed _ => .debug
  | mainLocated _ => .debug
  | mainMissing => .info
  | wildcardMet _ => .debug
  | mainCompiled _ _ => .debug
  | topicsLoaded _ => .info
  | formulaSkipped _ _ => .warning
  | formulaFailed _ _ _ => .warning
  | topicsCompiled _ _ _ => .info
  | queriesWritten _ _ => .info
  | conversionFailed _ => .error

def origin : Event → String
  | configLoaded _ => "mathml_query_generator.models.query_models"
  | documentParsed _ => "mathml_query_generator.core.xml_parser"
  | mainLocated _ => "mathml_query_generator.core.main_element_locator"
  | mainMissing => "mathml_query_generator.core.main_element_locator"
  | wildcardMet _ => "mathml_query_generator.core.query_generator"
  | mainCompiled _ _ => "mathml_query_generator.core.query_generator"
  | topicsLoaded _ => "mathml_query_generator.core.topic_reader"
  | formulaSkipped _ _ => "mathml_query_generator.core.topic_reader"
  | formulaFailed _ _ _ => "mathml_query_generator.core.topic_reader"
  | topicsCompiled _ _ _ => "mathml_query_generator.core.topic_reader"
  | queriesWritten _ _ => "mathml_query_generator.main"
  | conversionFailed _ => "mathml_query_generator.main"

def orNone (s : Option String) : String := s.getD "None"

def message : Event → String
  | configLoaded path => "Loaded query config from " ++ path
  | documentParsed path => "Parsed " ++ path
  | mainLocated convention => "Main element found via " ++ convention.label ++ " convention"
  | mainMissing => "No main element found in document"
  | wildcardMet o => "qvar '" ++ o.name ++ "' at $x" ++ o.path.render
  | mainCompiled qualifiedName wildcards =>
    "Generated constraints for <" ++ qualifiedName ++ "> with " ++ toString wildcards ++ " qvars"
  | topicsLoaded path => "Loaded topics from " ++ path
  | formulaSkipped num formulaId => "No queryable content in " ++ num ++ "/" ++ formulaId
  | formulaFailed num formulaId reason =>
    "Failed to compile " ++ orNone num ++ "/" ++ orNone formulaId ++ ": " ++ reason
  | topicsCompiled compiled total status =>
    "Compiled " ++ toString compiled ++ " of " ++ toString total ++ " formulas (" ++
      status.label ++ ")"
  | queriesWritten count path => "Wrote " ++ toString count ++ " queries to " ++ path
  | conversionFailed reason => "Conversion failed: " ++ reason

def line (time : String) (e : Event) : String :=
  time ++ " - " ++ e.origin ++ " - " ++ e.level.label ++ " - " ++ e.message ++ "\n"

/-! ### Events of a compilation -/

def ofLocation (document : Element) : Event :=
  match document.locate? with
  | some l => mainLocated l.convention
  | none => mainMissing

/-- The events of a compilation: the wildcards met, and its success. -/
def ofCompilation (main : Element) (config : Config) : List Event :=
  let c := main.compile config.restrictLength
  c.occurrences.map wildcardMet ++
    match c.outcome with
    | .ok _ => [mainCompiled main.qualifiedName c.table.length]
    | .error _ => []

/-- The events of compiling a main element that may be missing. -/
def ofMain (main : Option Element) (config : Config) : List Event :=
  match main with
  | some main => ofCompilation main config
  | none => []

/-- The main element that is compiled for a formula, if it comes to that. -/
def compiledMain (v : Visit) : Option Element := do
  let _ ← v.num
  let _ ← v.formula.id
  let math ← v.formula.math
  guard v.formula.unfitName.isNone
  math.firstElement?

def ofVisit (config : Config) (v : Visit) : List Event :=
  ofMain (compiledMain v) config ++
    match v.compile config with
    | .error e => [formulaFailed v.num v.formula.id e.message]
    | .ok none => [formulaSkipped (orNone v.num) (orNone v.formula.id)]
    | .ok (some _) => []

/-- The events of visiting the formulas in front of the first obstacle. -/
def ofVisits (r : TopicReader) : List Event :=
  (r.visits.takeWhile fun v => (v.obstacle? r.config).isNone).flatMap (ofVisit r.config)

def ofReport (report : Report) : Event :=
  topicsCompiled report.compiled report.total report.status

end Event

end FormulaQuery.Command
