/-
  FormulaQuery/Topics/Reader.lean
  ===============================
  **Queries for topic sets.**  Each formula of a topic set is compiled on its own.
  `TopicReader.patterns` stops at the first formula that cannot be compiled,
  `TopicReader.report` goes on and reports it.  Markup that gives no formula tree is
  an obstacle: `TopicReader.report?` is the report of a topic set without one.
-/
import FormulaQuery.Query.Generator
import FormulaQuery.Topics.Report
import FormulaQuery.Topics.Topic

namespace FormulaQuery

inductive TopicError where
  | missingNum
  | missingId (num : String)
  | emptyFormula (formulaId num : String)
  /-- The markup has a name that a formula tree cannot have. -/
  | unfitName (name : String)
  | query (e : QueryError)
  deriving DecidableEq, Repr

def TopicError.message : TopicError → String
  | missingNum => "Topic without num"
  | missingId num => "Formula without id in topic " ++ num
  | emptyFormula formulaId num => "Formula " ++ formulaId ++ " in topic " ++ num ++ " is empty"
  | unfitName name => Xml.unfitNameMessage name
  | query e => e.message

def TopicError.isObstacle : TopicError → Bool
  | unfitName _ => true
  | _ => false

/-- The query of a formula in a topic with this number, none if the expression has no
    content. -/
def Formula.compile (f : Formula) (num : String) (config : Config) :
    Except TopicError (Option Pattern) :=
  match f.id, f.math, f.unfitName with
  | none, _, _ => .error (.missingId num)
  | some formulaId, none, _ => .error (.emptyFormula formulaId num)
  | some _, some _, some name => .error (.unfitName name)
  | some formulaId, some math, none =>
    match ((Generator.ofMain math.firstElement? config).generate).2 with
    | .error e => .error (.query e)
    | .ok none => .ok none
    | .ok (some query) => .ok (some ⟨num, formulaId, query, math⟩)

structure Visit where
  num : Option String
  formula : Formula
  deriving DecidableEq, Repr

def Topic.visits (t : Topic) : List Visit := t.formulas.map (⟨t.num, ·⟩)

def Visit.compile (v : Visit) (config : Config) : Except TopicError (Option Pattern) :=
  match v.num with
  | none => .error .missingNum
  | some num => v.formula.compile num config

def Visit.obstacle? (v : Visit) (config : Config) : Option TopicError :=
  match v.compile config with
  | .error e => if e.isObstacle then some e else none
  | .ok _ => none

def Report.add (config : Config) (r : Report) (v : Visit) : Report :=
  let r := r.setTotal (r.total + 1)
  match v.compile config with
  | .error e => r.addError ⟨v.num, v.formula.id, e.message⟩
  | .ok none => r.addSkipped
  | .ok (some p) => r.addPattern p

/-- A place in a document: the indexes of the child elements that lead to it. -/
structure DocumentPlace where
  document : Xml.Tree
  indexes : List Nat := []

/-- A topic set with the options of its queries.  It is handed over as any place in its
    document. -/
structure TopicReader where
  source : DocumentPlace
  config : Config

namespace TopicReader

/-- The topics of the whole document, wherever in it the place is. -/
def topics (r : TopicReader) : List Topic := r.source.document.topics

def visits (r : TopicReader) : List Visit := r.topics.flatMap Topic.visits

/-- Assigns a value to an option; a refused value changes nothing. -/
def setOption (r : TopicReader) (field : Field) (v : Value) : TopicReader × Option Fault :=
  match r.config.set field v with
  | .ok config => ({ r with config := config }, none)
  | .error refusal => (r, some ⟨field.name, refusal⟩)

def formulaPatterns (config : Config) (num : String) :
    List Formula → Except TopicError (List Pattern)
  | [] => .ok []
  | f :: rest => do
    let p ← f.compile num config
    return p.toList ++ (← formulaPatterns config num rest)

def topicPatterns (config : Config) : List Topic → Except TopicError (List Pattern)
  | [] => .ok []
  | t :: rest =>
    match t.num with
    | none => .error .missingNum
    | some num => do
      let ps ← formulaPatterns config num t.formulas
      return ps ++ (← topicPatterns config rest)

/-- The queries of all formulas, or the reason why the first one has none. -/
def patterns (r : TopicReader) : Except TopicError (List Pattern) :=
  topicPatterns r.config r.topics

def report (r : TopicReader) : Report :=
  (r.visits.foldl (Report.add r.config) {}).updateStatus

def obstacle? (r : TopicReader) : Option TopicError :=
  r.visits.findSome? (Visit.obstacle? · r.config)

/-- The report on all formulas, or the first obstacle. -/
def report? (r : TopicReader) : Except TopicError Report :=
  match r.obstacle? with
  | some e => .error e
  | none => .ok r.report

end TopicReader

end FormulaQuery
