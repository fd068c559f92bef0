/-
  FormulaQuery/Query/Assembly.lean
  ================================
  **The text of a query.**  A query is put together from its clauses: the header,
  the `for` clause with the exact-match constraint, the conditions of the `where`
  clause, the map of wildcards and the text to return.
-/
import FormulaQuery.Query.Session

namespace FormulaQuery

inductive QueryError where
  | unnamedWildcard (path : Path)
  /-- The main element, written like this, has no element child to search for. -/
  | emptyExpression (name : String)
  deriving DecidableEq, Repr

def QueryError.message : QueryError → String
  | unnamedWildcard path =>
    "mws:qvar at $x" ++ path.render ++ " has neither text content nor a name attribute"
  | emptyExpression name => "<" ++ name ++ "> has no element child to query for"

structure Clauses where
  fixed : String
  lengths : String
  equalities : String
  map : String
  header : String
  footer : String
  deriving DecidableEq, Repr

namespace Clauses

/-- The `where` clause, left out if there is nothing to ask. -/
def whereClause (c : Clauses) : String :=
  if c.lengths = "" then
    if c.equalities = "" then "" else "\nwhere\n" ++ c.equalities
  else if c.equalities = "" then "\nwhere\n" ++ c.lengths
  else "\nwhere\n" ++ c.lengths ++ "\n and " ++ c.equalities

def mapClause (c : Clauses) : String := if c.map = "" then "" else "\n" ++ c.map

/-- The query that looks for elements with the given local name. -/
def query (c : Clauses) (name : String) : String :=
  c.header ++ "for $x in $m//*:" ++ name ++ "\n" ++ c.fixed ++ c.whereClause ++ c.mapClause ++
    "\n\nreturn\n" ++ c.footer

/-- The query for a main element; it looks for its first element child. -/
def assemble (c : Clauses) (main : Element) : Except QueryError String :=
  match main.firstElement? with
  | none => .error (.emptyExpression main.qualifiedName)
  | some child => .ok (c.query child.tag.localName)

end Clauses

end FormulaQuery
