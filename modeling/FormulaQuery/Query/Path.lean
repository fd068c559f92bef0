/-
  FormulaQuery/Query/Path.lean
  ============================
  **Paths below the result node.**  A query binds each candidate to `$x` and
  speaks about the nodes below it by paths: the indexes of element children,
  counted from 1, each written `/*[k]`.
-/
import FormulaQuery.Text.Join

namespace FormulaQuery

/-- Indexes of element children, counted from 1, from `$x` downwards. -/
abbrev Path := List Nat

namespace Path

def step (index : Nat) : String := "/*[" ++ toString index ++ "]"

def render (p : Path) : String := Text.concat (p.map step)

theorem render_append (p q : Path) : render (p ++ q) = p.render ++ q.render := by
  rw [render, List.map_append, Text.concat_append]
  rfl

end Path

end FormulaQuery
