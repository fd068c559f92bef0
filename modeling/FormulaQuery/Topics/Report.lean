/-
  FormulaQuery/Topics/Report.lean
  ===============================
  **Reports on topic sets.**  A report counts the formulas of a topic set and keeps
  the queries of those that compiled and the reasons for those that did not.
-/
import FormulaQuery.Tree.Element

namespace FormulaQuery

structure Pattern where
  num : String
  formulaId : String
  query : String
  math : Element
  deriving DecidableEq, Repr

structure FormulaError where
  num : Option String
  formulaId : Option String
  message : String
  deriving DecidableEq, Repr

inductive Status where
  | success
  | partly
  | failed
  deriving DecidableEq, Repr

def Status.label : Status → String
  | success => "success"
  | partly => "partial"
  | failed => "failed"

structure Report where
  status : Status := .success
  total : Int := 0
  compiled : Nat := 0
  skipped : Nat := 0
  failed : Nat := 0
  patterns : List Pattern := []
  errors : List FormulaError := []
  deriving DecidableEq, Repr

namespace Report

def addPattern (r : Report) (p : Pattern) : Report :=
  { r with patterns := r.patterns ++ [p], compiled := r.compiled + 1 }

def addError (r : Report) (e : FormulaError) : Report :=
  { r with errors := r.errors ++ [e], failed := r.failed + 1 }

/-- Counts a formula without content. -/
def addSkipped (r : Report) : Report := { r with skipped := r.skipped + 1 }

def setTotal (r : Report) (total : Int) : Report := { r with total := total }

/-- The status that the counts call for: a failure of all formulas is told apart from
    a failure of some. -/
def statusOf (failed : Nat) (total : Int) : Status :=
  if failed = 0 then .success else if Int.ofNat failed < total then .partly else .failed

/-- Brings the status in line with the counts. -/
def updateStatus (r : Report) : Report := { r with status := statusOf r.failed r.total }

end Report

end FormulaQuery
