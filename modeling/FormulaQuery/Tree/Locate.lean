/-
  FormulaQuery/Tree/Locate.lean
  =============================
  **Finding the formula of a document.**  Documents embed the formula to search
  for in one of four ways.  The conventions are tried in a fixed order, and the
  first element in document order that follows the first convention anyone
  follows is the main element.
-/
import FormulaQuery.Tree.Element

namespace FormulaQuery

/-- The ways to mark the main element, in the order of their precedence. -/
inductive Convention where
  /-- A wrapper written `mws:expr`. -/
  | expression
  /-- An unprefixed `annotation-xml` whose encoding is `MathML-Content`. -/
  | contentAnnotation
  /-- An element with the local name `semantics`. -/
  | semantics
  /-- An element with the local name `math`. -/
  | math
  deriving DecidableEq, Repr

namespace Convention

def all : List Convention := [expression, contentAnnotation, semantics, math]

def label : Convention → String
  | expression => "mws:expr"
  | contentAnnotation => "annotation-xml"
  | semantics => "semantics"
  | math => "math"

def marks : Convention → Tag → Bool
  | expression, t => t.qualifiedName == "mws:expr"
  | contentAnnotation, t =>
    t.qualifiedName == "annotation-xml" && t.attribute? "encoding" == some "MathML-Content"
  | semantics, t => t.localName == "semantics"
  | math, t => t.localName == "math"

end Convention

/-- A main element, where it stands, and the convention that marked it. -/
structure Located where
  convention : Convention
  position : Position
  element : Element
  deriving DecidableEq, Repr

/-- The first element of a document that follows one convention. -/
def Element.marked? (document : Element) (c : Convention) : Option Located :=
  (document.positions.find? fun p => c.marks p.2.tag).map fun p => ⟨c, p.1, p.2⟩

def Element.locate? (document : Element) : Option Located :=
  Convention.all.findSome? document.marked?

def Element.main? (document : Element) : Option Element :=
  document.locate?.map Located.element

end FormulaQuery
