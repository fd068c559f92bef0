/-
  FormulaQuery/Query/Wildcard.lean
  ================================
  **Wildcards.**  An element written `mws:qvar` matches any subtree.  Wildcards
  of the same name have to match equal subtrees, so their occurrences are kept
  in a table: names in the order of their first occurrence, and under each name
  the paths of its occurrences in the order in which they were met.

  `WildcardTable.equalities` and `WildcardTable.binding` are the two clauses that a
  query takes from the table.
-/
import FormulaQuery.Query.Path

namespace FormulaQuery

open Text (join)

/-- A wildcard met in a formula: its name and the path of the node it stands for. -/
structure Occurrence where
  name : String
  path : Path
  deriving DecidableEq, Repr

abbrev WildcardTable := List (String × List Path)

namespace WildcardTable

/-- Adds a path under a name; a new name goes to the end. -/
def add : WildcardTable → Occurrence → WildcardTable
  | [], o => [(o.name, [o.path])]
  | (name, paths) :: rest, o =>
    if name = o.name then (name, paths ++ [o.path]) :: rest
    else (name, paths) :: add rest o

def ofOccurrences (os : List Occurrence) : WildcardTable := os.foldl add []

def node (p : Path) : String := "$x" ++ p.render

/-- The equalities between the first occurrence of a name and each later one. -/
def pairs : List Path → List String
  | [] => []
  | first :: others => others.map fun other => node first ++ " = " ++ node other

/-- The equalities of the names that occur more than once, one text for each name. -/
def groups (t : WildcardTable) : List String :=
  (t.map fun entry => pairs entry.2).filterMap fun ps =>
    if ps.isEmpty then none else some (join " and " ps)

def equalities (t : WildcardTable) : String := join "\n and " (groups t)

def identifiers : List Path → List String
  | [] => []
  | first :: others =>
    ("data(" ++ node first ++ "/@xml:id)") ::
      others.map fun other => "data(" ++ node other ++ "/@xml-id)"

def mapEntry (entry : String × List Path) : String :=
  "\"" ++ entry.1 ++ "\" : (" ++ join "," (identifiers entry.2) ++ ")"

/-- The clause that binds `$q` to the identifiers of the matched nodes; without
    wildcards there is none. -/
def binding (t : WildcardTable) : String :=
  if t.isEmpty then "" else "let $q := map \x7b" ++ join "," (t.map mapEntry) ++ "\x7d"

end WildcardTable

end FormulaQuery
