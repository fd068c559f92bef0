/-
  FormulaQuery/Query/Session.lean
  ===============================
  **Compilation of a formula.**  A session walks over the content of an element,
  writes the constraint on it and records on the way what belongs elsewhere in
  the query: the wildcards with their paths, and how many element children each
  element has.  It stops at a wildcard without a name; what it recorded until
  then, and the path on which it stopped, stay in the session.
-/
import FormulaQuery.Text.Trim
import FormulaQuery.Tree.Element
import FormulaQuery.Query.Constraint
import FormulaQuery.Query.Wildcard

namespace FormulaQuery

open Text (trim concat join)

structure LengthFact where
  path : Path
  count : Nat
  deriving DecidableEq, Repr

def LengthFact.render (f : LengthFact) : String :=
  "fn:count($x" ++ f.path.render ++ "/*) = " ++ toString f.count

def Tag.isWildcard (t : Tag) : Bool := t.qualifiedName == "mws:qvar"

/-- Annotations and presentation markup: counted as children, never compared. -/
def Tag.isAnnotation (t : Tag) : Bool :=
  t.localName == "annotation" || t.localName == "annotation-xml"

/-- The name of a wildcard: its trimmed text or, where that is empty, its `name`
    attribute.  An empty name is no name. -/
def wildcardName? (tag : Tag) (content : Content) : Option String :=
  let written := trim (concat content.texts)
  if written = "" then
    match tag.attribute? "name" with
    | some name => if name = "" then none else some name
    | none => none
  else some written

/-- A wildcard at this path has neither text nor a `name` attribute. -/
structure UnnamedWildcard where
  path : Path
  deriving DecidableEq, Repr

/-- What a compilation has recorded, and where it stands. -/
structure Session where
  restrictLength : Bool
  /-- The way from the result node to the element whose content is compiled. -/
  path : Path := []
  /-- The wildcards in the order in which they were met. -/
  occurrences : List Occurrence := []
  /-- The child counts in the order in which the elements were left. -/
  lengths : List LengthFact := []
  deriving DecidableEq, Repr

/-- A part of a compilation: it changes the session, and keeps the changes also
    when it fails. -/
abbrev Compile := EStateM UnnamedWildcard Session

namespace Session

def table (s : Session) : WildcardTable := WildcardTable.ofOccurrences s.occurrences

def lengthCondition (s : Session) : String := join "\n and " (s.lengths.map LengthFact.render)

def enter (index : Nat) : Compile Unit :=
  modify fun s => { s with path := s.path ++ [index] }

def leave : Compile Unit :=
  modify fun s => { s with path := s.path.dropLast }

/-- Notes how many element children the current element has, if lengths matter. -/
def recordLength (count : Nat) : Compile Unit :=
  modify fun s =>
    if s.restrictLength then { s with lengths := s.lengths ++ [LengthFact.mk s.path count] } else s

def recordWildcard (tag : Tag) (content : Content) (index : Nat) : Compile Unit := do
  let s ← get
  let path := s.path ++ [index]
  match wildcardName? tag content with
  | none => throw (UnnamedWildcard.mk path)
  | some name => set { s with occurrences := s.occurrences ++ [Occurrence.mk name path] }

/-- The constraint that the content of an element puts on a candidate; `before`
    element children stand in front of it. -/
def constrain : Content → (before : Nat) → Compile Constraint
  | .nil, before => do
    recordLength before
    return .nil
  | .text value rest, before => do
    return .text (trim value) (← constrain rest before)
  | .element tag children rest, before => do
    if tag.isWildcard then
      recordWildcard tag children (before + 1)
      constrain rest (before + 1)
    else if tag.isAnnotation then
      constrain rest (before + 1)
    else if children.isEmpty then
      return .named (before + 1) tag.localName (← constrain rest (before + 1))
    else
      enter (before + 1)
      let inner ← constrain children 0
      leave
      return .nested (before + 1) tag.localName inner (← constrain rest (before + 1))

/-- The conditions that the content of the main element puts on a candidate.  An
    element child is the candidate itself, so the path does not grow. -/
def constrainRoot : Content → (before : Nat) → Compile (List RootCondition)
  | .nil, _ => return []
  | .text value rest, before => do
    return .text (trim value) :: (← constrainRoot rest before)
  | .element tag children rest, before => do
    if tag.isWildcard then
      recordWildcard tag children (before + 1)
      constrainRoot rest (before + 1)
    else if tag.isAnnotation then
      constrainRoot rest (before + 1)
    else
      let inner ← if children.isEmpty then pure .nil else constrain children 0
      return .child inner :: (← constrainRoot rest (before + 1))

def compileNested (e : Element) : Compile String := do
  return (← constrain e.content 0).render

def compileMain (e : Element) : Compile String := do
  return RootCondition.renderAll (← constrainRoot e.content 0)

end Session

end FormulaQuery
