/-
  FormulaQuery/Xml/Content.lean
  =============================
  **Trees from tokens.**  Tags are matched, names expanded and entities replaced.
  The replacement text of an entity is content of its own: it has to be balanced,
  and may refer to other entities, to a limited depth.  It is read where the entity is
  first referred to; later references repeat its nodes.
-/
import FormulaQuery.Text.Encoding
import FormulaQuery.Xml.Namespace

namespace FormulaQuery.Xml

def maxDepth : Nat := 256

/-! ### Identifiers -/

namespace Reading

/-- Registers the identifier of an element, which no other element may have. -/
def identify (i : GivenIdentifier) : Reading Unit := do
  expect (!i.isReserved || Identifier.isValid i.value)
  let known := (← get).identifiers
  if i.value = "" || known.contains i.value then note .flaw
  else modify fun r => { r with identifiers := i.value :: known }

/-- Registers the identifiers of elements that an entity stands for; some may be
    registered already. -/
def adopt (identifiers : List String) : Reading Unit :=
  modify fun r =>
    { r with identifiers := identifiers.foldl (fun known i => known.insert i) r.identifiers }

/-- The content of an entity that has been read, unless there is nothing in it that
    counts. -/
def content? (s : Setting) (name : String) : Reading (Option EntityContent) := do
  return ((← get).contents.lookup name).filter fun content =>
    content.items.any fun item =>
      match item with
      | .text cs => !cs.isEmpty
      | .marker _ => s.countsMarkers
      | .element _ _ => true

end Reading

/-! ### Elements -/

structure OpenElement where
  name : QName
  tag : StartTag
  outer : Scope
  /-- The nodes in front of it, the last one first. -/
  before : List Item

structure Progress where
  enclosing : List OpenElement := []
  /-- The nodes of the innermost open element so far, the last one first. -/
  items : List Item := []
  scope : Scope
  identifiers : List String := []

structure Position where
  outside : Nat
  /-- How many texts there may be inside it. -/
  room : Nat
  isEntity : Bool

namespace Progress

def push (p : Progress) (item : Item) : Progress := { p with items := item :: p.items }

/-- Opens an element.  The identifiers in an entity are registered when its nodes are
    put into the document. -/
def openElement (s : Setting) (d : Doctype) (place : Position) (p : Progress) (name : QName)
    (written : List WrittenAttribute) (behind : List Char) : Reading Progress := do
  Reading.require (place.outside + p.enclosing.length < maxDepth)
  let start ← readStart s d place.room p.scope name written behind
  if !place.isEntity then start.identifiers.forM Reading.identify
  return { enclosing := ⟨name, start.tag, p.scope, p.items⟩ :: p.enclosing
           items := []
           scope := start.scope
           identifiers := start.identifiers.map GivenIdentifier.value ++ p.identifiers }

def close? (p : Progress) (name : String) : Option Progress :=
  match p.enclosing with
  | [] => none
  | e :: enclosing =>
    if e.name.text = name then
      some { p with
        enclosing := enclosing
        items := .element e.tag (Markup.ofItems p.items) :: e.before
        scope := e.outer }
    else none

end Progress

/-! ### Entities -/

/-- Meets a reference to an entity with a text.  Its nodes are put in, or a marker that
    has their text. -/
def meetContent (s : Setting) (p : Progress) (name : String) (content : EntityContent) :
    Reading Progress := do
  if s.resolve then
    Reading.adopt (content.identifiers.filter (· != ""))
    return { p with
      items := content.items ++ p.items
      identifiers := content.identifiers ++ p.identifiers }
  return p.push (referenceMarker name content)

/-- Meets a reference to an entity with the given characters behind it; `content` gives
    the content of one with a text. -/
def meetEntity (s : Setting) (d : Doctype) (content : String → List Char → Reading EntityContent)
    (p : Progress) (name : String) (behind : List Char) : Reading Progress := do
  match d.entities.lookup name with
  | some (.internal cs) =>
    let read ← content name cs
    Reading.charge s [behind] read.size
    meetContent s p name read
  | some (.external place) =>
    match s.replacement with
    | .never =>
      Reading.charge s [behind] 0
      return p.push (.marker (.reference name ""))
    | .within => Reading.refuse
    | .everywhere =>
      -- it is looked for once, and costs as much as an empty text
      if !(← get).sought.contains name then
        Reading.seek place
        modify fun r => { r with sought := name :: r.sought }
      Reading.charge s [behind] 0
      return p
  | some (.unparsed _) => Reading.refuse
  | none =>
    Reading.undeclared s d
    return if s.resolve then p else p.push (.marker (.reference name ""))

def readToken (s : Setting) (d : Doctype) (place : Position)
    (content : Nat → Scope → String → List Char → Reading EntityContent) (p : Progress) :
    Token → Reading Progress
  | .opening name written isEmpty behind => do
    let q ← p.openElement s d place name written behind
    if isEmpty then liftM (q.close? name.text) else return q
  | .closing name => liftM (p.close? name)
  | .text cs => return p.push (.text cs)
  | .data cs => return p.push (.text cs)
  | .comment cs => return p.push (.marker (.comment (String.ofList cs)))
  | .instruction target cs => do
    Reading.noteAll (instructionFindings target)
    return p.push (.marker (.instruction target (String.ofList cs)))
  | .entity name behind =>
    meetEntity s d (content (place.outside + p.enclosing.length) p.scope) p name behind

/-- Goes on if nothing is left behind what has been read.  What is left does not matter
    if a flaw has been noted. -/
def Reading.finish (left : List Char) : Reading Unit := do
  require (left.isEmpty || 0 < (← get).findings.flaws)

/-- Reads the replacement text of an entity; `inner` gives the content of entities in it. -/
def readText (s : Setting) (d : Doctype) (place : Position)
    (inner : Nat → Scope → String → List Char → Reading EntityContent) (scope : Scope)
    (cs : List Char) : Reading EntityContent := do
  Reading.require (place.outside ≤ maxDepth)
  let (ts, left) ← liftM (Scan.contentTokens cs)
  let (p, size) ← Reading.inside (byteSize cs) do
    let p ← ts.foldlM (readToken s d place inner) { scope := scope.inEntity }
    Reading.require p.enclosing.isEmpty
    Reading.finish left
    return p
  return { items := p.items, identifiers := p.identifiers, size := size }

/-- The content of an entity, which stands inside `outside` elements; entities at most
    `room` deep.  It is read only once, unless there is nothing in it. -/
def readEntity (s : Setting) (d : Doctype) :
    (room : Nat) → (outside : Nat) → Scope → String → List Char → Reading EntityContent
  -- an entity too deep to be read may have been read elsewhere
  | 0, _, _, name, _ => do
    match ← Reading.content? s name with
    | some content => return content
    | none => Reading.refuse
  | room + 1, outside, scope, name, cs => do
    match ← Reading.content? s name with
    | some content => return content
    | none =>
      let place : Position := { outside := outside + 1, room := room, isEntity := true }
      let inner := { s with extent := byteSize cs }
      let content ← readText inner d place (readEntity inner d room) scope cs
      modify fun r => { r with contents := (name, content) :: r.contents }
      return content

def readRoot (s : Setting) (d : Doctype) (ts : List Token) : Reading Tree := do
  let place : Position := { outside := 0, room := maxNesting - 1, isEntity := false }
  let p ← ts.foldlM (readToken s d place (readEntity s d (maxNesting - 1))) { scope := {} }
  Reading.require p.enclosing.isEmpty
  let roots := p.items.filterMap fun item => match item with
    | .element tag content => some (⟨tag, content⟩ : Tree)
    | _ => none
  match roots with
  | [root] => return root
  | _ => Reading.refuse

end FormulaQuery.Xml
