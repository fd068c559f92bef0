/-
  FormulaQuery/Query/Generator.lean
  =================================
  **Generating queries.**  A generator holds a main element, a configuration and
  the wildcard table of its last compilation.  `Generator.generate` compiles the
  main element and writes the query; the table changes once the constraints are
  known, and stays as it was if a wildcard has no name.
-/
import FormulaQuery.Config.Validation
import FormulaQuery.Query.Assembly
import FormulaQuery.Tree.Locate

namespace FormulaQuery

/-- What the compilation of a main element gave: the wildcards met, and the
    outcome. -/
structure Compilation where
  occurrences : List Occurrence
  /-- The constraint and the recorded lengths, or the path of an unnamed wildcard. -/
  outcome : Except UnnamedWildcard (String × List LengthFact)

/-- Compiles a main element in a session of its own. -/
def Element.compile (main : Element) (restrictLength : Bool) : Compilation :=
  match (Session.compileMain main).run { restrictLength := restrictLength } with
  | .ok fixed s => ⟨s.occurrences, .ok (fixed, s.lengths)⟩
  | .error e s => ⟨s.occurrences, .error e⟩

namespace Compilation

def table (c : Compilation) : WildcardTable := WildcardTable.ofOccurrences c.occurrences

def query (c : Compilation) (main : Element) (config : Config) : Except QueryError String :=
  match c.outcome with
  | .error e => .error (.unnamedWildcard e.path)
  | .ok (fixed, lengths) =>
    Clauses.assemble
      { fixed := fixed
        lengths := Text.join "\n and " (lengths.map LengthFact.render)
        equalities := c.table.equalities
        map := if config.emitWildcardMap then c.table.binding else ""
        header := config.resolvedHeader
        footer := config.resolvedFooter }
      main

end Compilation

/-- A main element with the options of its query and the wildcards of its last
    compilation. -/
structure Generator where
  config : Config
  main : Option Element := none
  wildcards : WildcardTable := []
  deriving DecidableEq, Repr

namespace Generator

def ofMain (main : Option Element) (config : Config) : Generator :=
  { config := config, main := main }

def ofDocument (document : Option Element) (config : Config) : Generator :=
  { config := config, main := document.bind Element.main? }

/-- Takes another main element and forgets the wildcards of the last one. -/
def setMain (g : Generator) (main : Option Element) : Generator :=
  { g with main := main, wildcards := [] }

/-- Assigns a value to an option; a refused value changes nothing. -/
def setOption (g : Generator) (field : Field) (v : Value) : Generator × Option Fault :=
  match g.config.set field v with
  | .ok config => ({ g with config := config }, none)
  | .error r => (g, some ⟨field.name, r⟩)

def generate (g : Generator) : Generator × Except QueryError (Option String) :=
  match g.main with
  | none => (g, .ok none)
  | some main =>
    let c := main.compile g.config.restrictLength
    let query := (c.query main g.config).map some
    match c.outcome with
    | .error _ => (g, query)
    | .ok _ => ({ g with wildcards := c.table }, query)

end Generator

def generateQuery (document : Option Element) (config : Config) :
    Except QueryError (Option String) :=
  ((Generator.ofDocument document config).generate).2

end FormulaQuery
