/-
  FormulaQuery/Query/Constraint.lean
  ==================================
  **Exact-match constraints.**  A constraint says of an element which texts and
  which element children it must have.  It is a sequence of conditions, written
  as its first condition followed by the rest, as the content that it came from.

  `Constraint.render` writes the conditions of one level with ` and ` between
  them; the conditions on a child stand in brackets behind the child.
-/
import FormulaQuery.Text.Join
import FormulaQuery.Text.Quoted

namespace FormulaQuery

open Text (join quote)

inductive Constraint where
  | nil
  /-- Some text of the element equals the value. -/
  | text (value : String) (rest : Constraint)
  /-- The element child with this index has this name. -/
  | named (index : Nat) (name : String) (rest : Constraint)
  /-- The element child with this index has this name and satisfies `inner`. -/
  | nested (index : Nat) (name : String) (inner : Constraint) (rest : Constraint)
  deriving DecidableEq, Repr, Inhabited

namespace Constraint

/-- Puts conditions in brackets; where there are none, nothing is written. -/
def bracket (s : String) : String := if s = "" then "" else "[" ++ s ++ "]"

def textIs (value : String) : String := "./text() = " ++ quote value

def nameIs (index : Nat) (name : String) : String :=
  "*[" ++ toString index ++ "]/name() = " ++ quote name

/-- Conditions that all have to hold. -/
def conjunction (conditions : List String) : String := join " and " conditions

/-- The written conditions, one for each text and each child. -/
def conditions : Constraint → List String
  | nil => []
  | text value rest => textIs value :: rest.conditions
  | named index name rest => nameIs index name :: rest.conditions
  | nested index name inner rest =>
    (nameIs index name ++ " and *[" ++ toString index ++ "]" ++
      bracket (conjunction inner.conditions)) :: rest.conditions

def render (c : Constraint) : String := conjunction c.conditions

end Constraint

/-- A condition on the main element.  Its element children are not compared by
    name: the first of them is what the query binds. -/
inductive RootCondition where
  | text (value : String)
  /-- An element child, with the conditions on what is inside. -/
  | child (inner : Constraint)
  deriving DecidableEq, Repr

def RootCondition.render : RootCondition → String
  | text value => Constraint.textIs value
  | child inner => Constraint.bracket inner.render

def RootCondition.renderAll (conditions : List RootCondition) : String :=
  Constraint.conjunction (conditions.map RootCondition.render)

end FormulaQuery
