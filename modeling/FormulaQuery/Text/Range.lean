/-
  FormulaQuery/Text/Range.lean
  ============================
  **Sets of characters.**  A property of characters is a list of closed ranges of
  code points.
-/

namespace FormulaQuery.Text

/-- A set of characters as closed ranges of code points. -/
abbrev Ranges := List (Nat × Nat)

def Ranges.contains (rs : Ranges) (c : Char) : Bool :=
  rs.any fun r => r.1 ≤ c.toNat && c.toNat ≤ r.2

end FormulaQuery.Text
