/-
  FormulaQuery/Tree/Element.lean
  ==============================
  **Formula trees.**  A document is an element: a tag and the content below it.
  Content is a sequence of texts and elements, written as its first node
  followed by the rest, so that a function on content is one recursion that
  goes down to the children and on to the next sibling.

  `Content.texts` and `Content.elements` are the two views of content that the
  rest of the library reads: its text leaves and its elements, both in document
  order.
-/
import FormulaQuery.Text.Join

namespace FormulaQuery

/-- What a start tag says: the name as written, its namespace and the attributes
    under their qualified names. -/
structure Tag where
  localName : String
  qualifier : Option String := none
  namespaceUri : Option String := none
  attributes : List (String × String) := []
  deriving DecidableEq, Repr, Inhabited

/-- The name as written, `mws:qvar` or `apply`.  An empty qualifier counts as none. -/
def Tag.qualifiedName (t : Tag) : String :=
  match t.qualifier with
  | none => t.localName
  | some q => if q = "" then t.localName else q ++ ":" ++ t.localName

def Tag.attribute? (t : Tag) (name : String) : Option String := t.attributes.lookup name

/-- Attributes with one more value: it replaces an earlier one of the same name at its
    place. -/
def Tag.putAttribute : List (String × String) → String × String → List (String × String)
  | [], a => [a]
  | b :: rest, a => if b.1 = a.1 then a :: rest else b :: putAttribute rest a

/-- What stands inside an element: texts and elements, in document order. -/
inductive Content where
  | nil
  | text (value : String) (rest : Content)
  | element (tag : Tag) (children : Content) (rest : Content)
  deriving DecidableEq, Repr, Inhabited

structure Element where
  tag : Tag
  content : Content
  deriving DecidableEq, Repr, Inhabited

/-- The way from an element to a node below it: indexes into the content, texts
    counted, from 0. -/
abbrev Position := List Nat

namespace Content

def isEmpty : Content → Bool
  | nil => true
  | text _ _ => false
  | element _ _ _ => false

def firstElement? : Content → Option Element
  | nil => none
  | text _ rest => rest.firstElement?
  | element tag children _ => some ⟨tag, children⟩

/-- The text leaves at any depth, in document order. -/
def texts : Content → List String
  | nil => []
  | text value rest => value :: rest.texts
  | element _ children rest => children.texts ++ rest.texts

def elements : Content → List Element
  | nil => []
  | text _ rest => rest.elements
  | element tag children rest => ⟨tag, children⟩ :: (children.elements ++ rest.elements)

/-- The elements at any depth with their positions, in document order.  The
    first node has the index `index`. -/
def positions : Content → Nat → List (Position × Element)
  | nil, _ => []
  | text _ rest, index => rest.positions (index + 1)
  | element tag children rest, index =>
    ([index], ⟨tag, children⟩) ::
      ((children.positions 0).map (fun p => (index :: p.1, p.2)) ++ rest.positions (index + 1))

end Content

namespace Element

def qualifiedName (e : Element) : String := e.tag.qualifiedName

def hasChildren (e : Element) : Bool := !e.content.isEmpty

def firstElement? (e : Element) : Option Element := e.content.firstElement?

def attribute? (e : Element) (name : String) : Option String := e.tag.attribute? name

def texts (e : Element) : List String := e.content.texts

def textContent (e : Element) : String := Text.concat e.texts

def elements (e : Element) : List Element := e :: e.content.elements

def positions (e : Element) : List (Position × Element) := ([], e) :: e.content.positions 0

end Element

end FormulaQuery
