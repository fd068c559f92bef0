/-
  FormulaQuery/Config/Options.lean
  ================================
  **Query options.**  Options decide the text around the constraints: what opens
  the query, what it returns, and which of the optional clauses it has.
-/

namespace FormulaQuery

structure Config where
  declaration : String :=
    "declare default element namespace \"http://www.w3.org/1998/Math/MathML\";"
  /-- The expression bound to `$m`. -/
  pathToRoot : String := "db2-fn:xmlcolumn(\"math.math_mathml\")"
  returnFormat : String := "data($m/*[1]/@alttext)"
  /-- A header in place of the declaration and the path to the root. -/
  header : Option String := none
  /-- A footer in place of the return format. -/
  footer : Option String := none
  /-- Whether the numbers of children have to be equal. -/
  restrictLength : Bool := true
  /-- Whether `$q` is bound to the identifiers of the matched nodes. -/
  emitWildcardMap : Bool := true
  deriving DecidableEq, Repr, Inhabited

namespace Config

/-- The text in front of the query. -/
def resolvedHeader (c : Config) : String :=
  match c.header with
  | some header => header
  | none =>
    (if c.declaration = "" then "" else c.declaration ++ "\n") ++
      "for $m in " ++ c.pathToRoot ++ " return\n"

def resolvedFooter (c : Config) : String := c.footer.getD c.returnFormat

end Config

inductive Field where
  | declaration
  | pathToRoot
  | returnFormat
  | header
  | footer
  | restrictLength
  | emitWildcardMap
  deriving DecidableEq, Repr

namespace Field

def all : List Field :=
  [declaration, pathToRoot, returnFormat, header, footer, restrictLength, emitWildcardMap]

/-- The name of an option in an option file. -/
def name : Field → String
  | declaration => "namespace"
  | pathToRoot => "path_to_root"
  | returnFormat => "return_format"
  | header => "header"
  | footer => "footer"
  | restrictLength => "restrict_length"
  | emitWildcardMap => "emit_wildcard_map"

def ofName? (s : String) : Option Field := all.find? fun f => f.name == s

end Field

end FormulaQuery
