/-
  FormulaQuery/Xml/Reading.lean
  =============================
  **What a reading goes by and keeps track of.**  The document type tells what names
  of entities stand for, and what is declared about attributes.  A record goes from
  the start of a document to its end: what has been found, which identifiers have been
  given, which entities have been read, and how much entities have added to the text
  that is read, which is limited so that a short document stays a small tree.
-/
import FormulaQuery.Xml.Finding
import FormulaQuery.Xml.Markup
import FormulaQuery.Xml.Place
import FormulaQuery.Xml.Scan

namespace FormulaQuery.Xml

/-! ### Document types -/

inductive Entity where
  | internal (text : List Char)
  | external (place : List Char)
  | unparsed (place : List Char)
  deriving Repr

inductive AttributeKind where
  | text
  | identifier
  | name
  | names
  | token
  | tokens
  deriving DecidableEq, Repr

/-- The declaration of an attribute: the element and the attribute as written, its
    type, and the value it has by default. -/
structure AttributeRule where
  element : String
  name : String
  kind : AttributeKind
  default : Option String
  isFit : Bool := true
  deriving Repr

structure Doctype where
  entities : List (String × Entity) := []
  parameters : List (String × Entity) := []
  rules : List AttributeRule := []
  elements : List String := []
  formats : List String := []
  /-- Whether there may be declarations that were not read. -/
  isPartial : Bool := false
  deriving Repr

/-- The declarations of the attributes of an element, told by the text of its name. -/
def Doctype.rulesFor (d : Doctype) (element : QName) : List AttributeRule :=
  d.rules.filter fun r => r.element == element.text

/-- The declarations that give values to attributes of an element, told by the parts of
    its name. -/
def Doctype.defaultsFor (d : Doctype) (element : QName) : List (QName × String) :=
  d.rules.filterMap fun r =>
    if QName.ofString r.element = element then
      r.default.map fun value => (QName.ofString r.name, value)
    else none

/-! ### Settings -/

/-- What becomes of references to entities in content. -/
inductive Replacement where
  /-- They stay as markers. -/
  | never
  /-- They are replaced, and a reference to a text at another place is refused. -/
  | within
  /-- They are replaced, and a text at another place is looked for, but never found. -/
  | everywhere
  deriving DecidableEq, Repr

structure Setting where
  replacement : Replacement
  /-- Whether the document says that all entities are declared in it. -/
  standalone : Bool
  /-- Whether the document has a place of its own, at which others are looked for. -/
  isPlaced : Bool
  /-- The number of bytes of the text that is read: the document or an entity. -/
  extent : Nat

def Setting.resolve (s : Setting) : Bool := s.replacement != .never

def Setting.countsMarkers (s : Setting) : Bool := s.replacement != .within

/-- The greatest number of texts inside each other: the document, and entities in it. -/
def maxNesting : Nat := 20

/-- Whether entities may have added this much where the given characters are left: up to
    a million bytes, or five times what has been read so far. -/
def Setting.allows (s : Setting) (left : List (List Char)) (added : Nat) : Bool :=
  added ≤ 1000000 || added / 5 ≤ s.extent - (left.map byteSize).foldl (· + ·) 0

/-- What is added by a reference beyond the text it stands for. -/
def referenceCost : Nat := 20

/-! ### Records -/

/-- The content of an entity: its nodes, the last one first, the identifiers of the
    elements in it, and its size with all that it leads to. -/
structure EntityContent where
  items : List Item
  identifiers : List String
  size : Nat

structure Record where
  findings : Findings := {}
  /-- What entities have added so far to the text that is read. -/
  added : Nat := 0
  identifiers : List String := []
  contents : List (String × EntityContent) := []
  /-- The entities that are known to be fit for attribute values, with their sizes. -/
  fit : List (String × Nat) := []
  /-- The entities whose texts have been looked for at another place. -/
  sought : List String := []

abbrev Reading := StateT Record Option

namespace Reading

def refuse {α : Type} : Reading α := fun _ => none

def require (condition : Bool) : Reading Unit := if condition then pure () else refuse

def note (w : Weight) : Reading Unit := modify fun r => { r with findings := r.findings.note w }

def noteAll (ws : List Weight) : Reading Unit := ws.forM note

def expect (condition : Bool) : Reading Unit := if condition then pure () else note .flaw

/-- Adds what a reference to an entity of the given size costs where the given
    characters are left. -/
def charge (s : Setting) (left : List (List Char)) (size : Nat) : Reading Unit := do
  let r ← get
  let added := r.added + size + referenceCost
  require (s.allows left added)
  set { r with added := added }

/-- Reads a text of the given size that is not part of the one around it, and gives its
    size with all that entities add to it. -/
def inside {α : Type} (size : Nat) (step : Reading α) : Reading (α × Nat) := do
  let outer := (← get).added
  modify fun r => { r with added := 0 }
  let a ← step
  let inner := (← get).added
  modify fun r => { r with added := outer }
  return (a, size + inner)

/-- Meets a reference to an entity that is not declared.  That is refused if all
    declarations have been read. -/
def undeclared (s : Setting) (d : Doctype) : Reading Unit :=
  if s.standalone || !d.isPartial then refuse
  else note (if s.resolve then .flaw else .warning)

/-- Looks for a text at another place, which is not found; the network is not used.  What
    cannot be a text at all is refused. -/
def seek (place : List Char) : Reading Unit := do
  if String.ofList ((place.take 7).map Char.toLower) == "http://" then note .flaw
  else
    require !(Place.isFolder place || Place.isTooLong place)
    note .warning

end Reading

end FormulaQuery.Xml
