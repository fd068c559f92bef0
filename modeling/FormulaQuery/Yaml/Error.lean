/-
  FormulaQuery/Yaml/Error.lean
  ============================
  **Why an option file gives no value.**  Most files are refused because they are not
  written as a document.  A value whose text is not of its kind has a reason of its
  own.
-/

namespace FormulaQuery.Yaml

inductive Error where
  | malformed
  | undecodable (reason : String)
  | badValue (reason : String)
  /-- A text that is no truth value. -/
  | unknownWord (word : String)
  /-- A collection stands where a text is wanted. -/
  | wrongKind
  /-- An empty text stands where a number is wanted. -/
  | emptyText
  | notAMoment
  | hugeNumber
  deriving DecidableEq, Repr

end FormulaQuery.Yaml
