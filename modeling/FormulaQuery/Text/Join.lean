/-
  FormulaQuery/Text/Join.lean
  ===========================
  **Joining texts with a separator**, and the test for a text inside another.
-/

namespace FormulaQuery.Text

def join (separator : String) : List String → String
  | [] => ""
  | [s] => s
  | s :: t :: rest => s ++ separator ++ join separator (t :: rest)

def concat : List String → String
  | [] => ""
  | s :: rest => s ++ concat rest

theorem concat_append (ss ts : List String) : concat (ss ++ ts) = concat ss ++ concat ts := by
  induction ss with
  | nil => exact String.empty_append.symm
  | cons s ss ih => rw [List.cons_append, concat, ih, concat, String.append_assoc]

def occursIn {α : Type} [BEq α] (part : List α) : List α → Bool
  | [] => part.isEmpty
  | c :: rest => part.isPrefixOf (c :: rest) || occursIn part rest

end FormulaQuery.Text
