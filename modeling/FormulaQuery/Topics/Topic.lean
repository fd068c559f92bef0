/-
  FormulaQuery/Topics/Topic.lean
  ==============================
  **Topic sets.**  A topic set is a document with topics anywhere in it.  A topic has
  a number and queries, and a query has formulas, each with an identifier and the
  markup of one expression.
-/
import FormulaQuery.Text.Strip
import FormulaQuery.Xml.Markup

namespace FormulaQuery

structure Formula where
  id : Option String
  math : Option Element
  /-- The first name in the markup that a formula tree cannot have. -/
  unfitName : Option String := none
  deriving DecidableEq, Repr

structure Topic where
  num : Option String
  formulas : List Formula
  deriving DecidableEq, Repr

def topicNamespace : String := "http://ntcir-math.nii.ac.jp/"

namespace Xml.Tree

/-- Whether an element is part of a topic set and has this name. -/
def isTopicPart (t : Tree) (localName : String) : Bool := t.isNamed topicNamespace localName

def topicParts (t : Tree) (localName : String) : List Tree :=
  t.content.children.filter (isTopicPart · localName)

/-- The number of a topic: the text of the first element for it, without white space
    around; a blank one counts as none. -/
def topicNum (t : Tree) : Option String :=
  match t.topicParts "num" with
  | [] => none
  | n :: _ =>
    let num := Text.strip n.content.stringValue
    if num = "" then none else some num

def formulaTrees (t : Tree) : List Tree :=
  (t.topicParts "query").flatMap fun q => q.topicParts "formula"

def toFormula (t : Tree) : Formula :=
  let math := t.content.children.head?
  { id := t.attribute? "id", math := math.map toElement, unfitName := math.bind unfitName? }

def toTopic (t : Tree) : Topic :=
  { num := t.topicNum, formulas := t.formulaTrees.map toFormula }

/-- The topics of a document, in document order; a topic may lie inside another. -/
def topics (t : Tree) : List Topic :=
  (t.elements.filter (isTopicPart · "topic")).map toTopic

end Xml.Tree

end FormulaQuery
