/-
  FormulaQuery/Text/Quoted.lean
  =============================
  **String literals of the query language.**  A literal stands between
  apostrophes, and an apostrophe inside it is written twice.
-/

namespace FormulaQuery.Text

def apostrophe : Char := Char.ofNat 39

/-- Writes every apostrophe twice and every other character once. -/
def doubleApostrophes : List Char → List Char
  | [] => []
  | c :: rest =>
    if c = apostrophe then apostrophe :: apostrophe :: doubleApostrophes rest
    else c :: doubleApostrophes rest

def quote (s : String) : String :=
  String.ofList (apostrophe :: (doubleApostrophes s.toList ++ [apostrophe]))

end FormulaQuery.Text
