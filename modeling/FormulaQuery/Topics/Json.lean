/-
  FormulaQuery/Topics/Json.lean
  =============================
  **Queries as a JSON document.**  The queries of a topic set are written as a list
  of objects, each name and each bracket on a line of its own, indented by two
  spaces.  Only the characters that must be escaped are.  The document is written in
  pieces, so that the pieces in front of one that cannot be encoded are there.
-/
import FormulaQuery.Text.Encoding
import FormulaQuery.Topics.Report

namespace FormulaQuery.Json

def escapeChar (c : Char) : List Char :=
  if c.toNat = 34 || c.toNat = 92 then [Char.ofNat 92, c]
  else if c = '\n' then [Char.ofNat 92, 'n']
  else if c = '\r' then [Char.ofNat 92, 'r']
  else if c = '\t' then [Char.ofNat 92, 't']
  else if c.toNat = 8 then [Char.ofNat 92, 'b']
  else if c.toNat = 12 then [Char.ofNat 92, 'f']
  else if c.toNat < 0x20 then Char.ofNat 92 :: 'u' :: Text.hex 4 c.toNat
  else [c]

def quoted (s : String) : String :=
  "\"" ++ String.ofList (s.toList.flatMap escapeChar) ++ "\""

def member (name value : String) : List String := ["    " ++ quoted name ++ ": ", quoted value]

def record (p : Pattern) : List String :=
  ["  \x7b\n"] ++ member "num" p.num ++ [",\n"] ++ member "formula_id" p.formulaId ++ [",\n"] ++
    member "xquery" p.query ++ ["\n  \x7d"]

/-- The pieces of the document for queries. -/
def document (ps : List Pattern) : List String :=
  if ps.isEmpty then ["[]"]
  else ["[\n"] ++ [",\n"].intercalate (ps.map record) ++ ["\n]"]

end FormulaQuery.Json
