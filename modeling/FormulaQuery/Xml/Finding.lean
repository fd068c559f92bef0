/-
  FormulaQuery/Xml/Finding.lean
  =============================
  **What is found while a document is read.**  Some findings stop the reading at once.
  The others are noted: a flaw, which a document should not have, or a warning.  At
  the end the finding that was noted last decides, so that a flaw with a warning
  behind it is passed over.
-/

namespace FormulaQuery.Xml

/-- How much a finding weighs that does not stop the reading. -/
inductive Weight where
  | warning
  | flaw
  deriving DecidableEq, Repr

/-- The greatest number of findings of a weight that are noted. -/
def maxNoted : Nat := 100

structure Findings where
  warnings : Nat := 0
  flaws : Nat := 0
  endInFlaw : Bool := false
  deriving DecidableEq, Repr

def Findings.note (f : Findings) : Weight → Findings
  | .warning =>
    if f.warnings < maxNoted then
      { f with warnings := f.warnings + 1, endInFlaw := false }
    else f
  | .flaw =>
    if f.flaws < maxNoted then { f with flaws := f.flaws + 1, endInFlaw := true } else f

end FormulaQuery.Xml
