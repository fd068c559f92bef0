/-
  FormulaQuery/Xml/Namespace.lean
  ===============================
  **Names and their namespaces.**  The attributes `xmlns` and `xmlns:p` of a start
  tag declare namespaces; the names of the element and of its other attributes
  are expanded with the declarations in scope.  A name whose prefix is not declared
  is a flaw, and stays as it is written.
-/
import FormulaQuery.Xml.Identifier
import FormulaQuery.Xml.Uri
import FormulaQuery.Xml.Value

namespace FormulaQuery.Xml

structure Scope where
  /-- What names are expanded with: namespaces under prefixes, `none` for names
      without prefix.  The nearest declaration comes first. -/
  visible : List (Option String × String) := []
  /-- The prefixes of the enclosing elements, the nearest first, none twice. -/
  prefixes : List (String × String) := []

/-- The scope inside the replacement text of an entity: names there do not see the
    declarations outside. -/
def Scope.inEntity (s : Scope) : Scope := { s with visible := [] }

/-! ### Declarations -/

def declarationNamespace : String := "http://www.w3.org/2000/xmlns/"

/-- The prefix that an attribute declares a namespace for: `some none` for the
    default namespace, `none` if it declares nothing. -/
def QName.declares? (q : QName) : Option (Option String) :=
  match q.qualifier with
  | none => if q.localName = "xmlns" then some none else none
  | some p => if p = "xmlns" then some (some q.localName) else none

/-- A declaration of a namespace, with what is found about it. -/
structure Judgement where
  findings : List Weight
  /-- Whether the declaration holds. -/
  holds : Bool
  deriving DecidableEq, Repr

def judgeDefault (uri : String) : Judgement :=
  if uri = "" then ⟨[], true⟩
  else
    let form : List Weight :=
      if Uri.isAbsolute uri then [] else if Uri.isRelative uri then [.warning] else [.flaw]
    if uri = xmlNamespace ∨ uri = declarationNamespace then ⟨form ++ [.flaw], false⟩
    else ⟨form, true⟩

/-- Judges the declaration of a namespace for a prefix; the prefix `xml` is in scope
    everywhere. -/
def judgePrefix (p uri : String) : Judgement :=
  if p = "xml" then ⟨if uri = xmlNamespace then [] else [.flaw], false⟩
  else if p = "xmlns" ∨ uri = "" ∨ uri = xmlNamespace ∨ uri = declarationNamespace then
    ⟨[.flaw], false⟩
  else ⟨if Uri.isAbsolute uri || Uri.isRelative uri then [] else [.flaw], true⟩

def judge : Option String → String → Judgement
  | none, uri => judgeDefault uri
  | some p, uri => judgePrefix p uri

namespace Scope

def enter (s : Scope) (declared : List (Option String × String)) : Scope :=
  let own := declared.filterMap fun d => d.1.map fun p => (p, d.2)
  { visible := declared ++ s.visible
    prefixes := own ++ s.prefixes.filter fun d => !(own.map Prod.fst).contains d.1 }

def uri? (s : Scope) (p : String) : Option String :=
  if p = "xml" then some xmlNamespace else s.visible.lookup (some p)

/-- The namespace of elements with a prefix: an empty one is none. -/
def elementUri? (s : Scope) (p : String) : Option String := (s.uri? p).filter (· != "")

def defaultUri (s : Scope) : Option String :=
  match s.visible.lookup none with
  | some uri => if uri = "" then none else some uri
  | none => none

def attributeName? (s : Scope) (q : QName) : Option ExpandedName :=
  match q.qualifier with
  | some p => (s.uri? p).map fun uri => ⟨some uri, q.localName⟩
  | none => some ⟨none, q.localName⟩

end Scope

/-! ### Attributes -/

structure ReadAttribute where
  name : QName
  value : ReadValue
  deriving DecidableEq, Repr

def fitsSpace (value : ReadValue) : Bool :=
  !value.hasReferences && (value.text == "default" || value.text == "preserve")

def readAttribute (s : Setting) (d : Doctype) (room : Nat) (rules : List AttributeRule)
    (w : WrittenAttribute) : Reading ReadAttribute := do
  Reading.expect w.name.isSound
  let squeezes := rules.any fun r => r.name == w.name.text && r.kind != .text
  let value ← s.value d room squeezes w.name.declares?.isSome w
  if w.name = ⟨some "xml", "space"⟩ && !fitsSpace value then Reading.note .warning
  match w.name.declares? with
  | some declared => Reading.noteAll (judge declared value.text).findings
  | none => pure ()
  return ⟨w.name, value⟩

def declarationsOf (attributes : List ReadAttribute) : List (Option String × String) :=
  attributes.filterMap fun a =>
    match a.name.declares? with
    | some declared =>
      if (judge declared a.value.text).holds then some (declared, a.value.text) else none
    | none => none

/-- The declarations that the document type adds to those in the tag, from the values
    that it gives to attributes.  They are taken as they are. -/
def impliedDeclarations (defaults : List (QName × String))
    (declared : List (Option String × String)) : List (Option String × String) :=
  defaults.filterMap fun (q, uri) =>
    match q.declares? with
    | some p =>
      if (p = some "xml" && uri = xmlNamespace) || (declared.map Prod.fst).contains p then none
      else some (p, uri)
    | none => none

/-- An attribute with its expanded name.  If the prefix is not declared, the name stays
    as it is written. -/
structure NamedAttribute where
  name : ExpandedName
  isDeclared : Bool
  source : ReadAttribute

def nameAttribute (scope : Scope) (a : ReadAttribute) : Reading NamedAttribute := do
  match scope.attributeName? a.name with
  | some n => return ⟨n, true, a⟩
  | none =>
    Reading.note .flaw
    return ⟨⟨none, a.name.text⟩, false, a⟩

/-- The attributes without those that repeat the expanded name of an earlier one; a name
    whose prefix is not declared repeats none. -/
def firstOfEach : List NamedAttribute → (seen : List NamedAttribute) → Reading (List NamedAttribute)
  | [], seen => return seen.reverse
  | a :: rest, seen => do
    if a.isDeclared && seen.any fun b => b.isDeclared && b.name == a.name then
      Reading.note .flaw
      firstOfEach rest seen
    else firstOfEach rest (a :: seen)

def chargeDefault (s : Setting) (behind : List Char) (q : QName) (value : String) :
    Reading Unit :=
  Reading.charge s [behind]
    (q.localName.utf8ByteSize + (q.qualifier.getD "").utf8ByteSize + value.utf8ByteSize)

def chargeDeclarations (s : Setting) (behind : List Char) (defaults : List (QName × String)) :
    Reading Unit :=
  defaults.forM fun (q, value) =>
    if q.declares?.isSome then chargeDefault s behind q value else pure ()

/-- Checks the attributes with default values that the tag does not have; `seen` are the
    names of the others. -/
def checkImplied (s : Setting) (scope : Scope) (behind : List Char) :
    List (QName × String) → (seen : List (QName × ExpandedName)) → Reading Unit
  | [], _ => return
  | (q, value) :: rest, seen => do
    if q.declares?.isSome then checkImplied s scope behind rest seen
    else
      let known := scope.attributeName? q
      Reading.expect known.isSome
      let n := known.getD ⟨none, q.localName⟩
      let same := seen.find? fun a => a.2 == n
      if same.any fun a => a.1.qualifier == q.qualifier then checkImplied s scope behind rest seen
      else
        Reading.expect same.isNone
        chargeDefault s behind q value
        checkImplied s scope behind rest (seen ++ [(q, n)])

/-! ### Start tags -/

structure GivenIdentifier where
  value : String
  isReserved : Bool
  deriving DecidableEq, Repr

structure Start where
  tag : StartTag
  scope : Scope
  identifiers : List GivenIdentifier

/-- The identifier that an attribute gives to its element, if it is one.  A value with
    references that stay is none. -/
def NamedAttribute.identifier? (rules : List AttributeRule) (a : NamedAttribute) :
    Option GivenIdentifier :=
  let written := a.source.name
  let isReserved := decide (written = ⟨some "xml", "id"⟩)
  let isDeclared := rules.any fun r => r.name == written.text && r.kind == .identifier
  if (isReserved || isDeclared) && !a.source.value.hasReferences then
    some ⟨a.source.value.text, isReserved⟩
  else none

/-- The values that attributes without prefix have by default. -/
def impliedValues (rules : List AttributeRule) : List (String × String) :=
  rules.filterMap fun r =>
    match r.default with
    | some value =>
      if (QName.ofString r.name).qualifier.isNone && r.isFit then some (r.name, value) else none
    | none => none

/-- Reads the start tag of an element whose parent has the given scope. -/
def readStart (s : Setting) (d : Doctype) (room : Nat) (outer : Scope) (name : QName)
    (written : List WrittenAttribute) (behind : List Char) : Reading Start := do
  let rules := d.rulesFor name
  let defaults := d.defaultsFor name
  Reading.expect name.isSound
  let attributes ← written.mapM (readAttribute s d room rules)
  let declared := declarationsOf attributes
  -- the same declaration twice is refused, while other findings are only noted
  Reading.require (allDistinct (declared.map Prod.fst))
  chargeDeclarations s behind defaults
  let scope := outer.enter (declared ++ impliedDeclarations defaults declared)
  let plain := attributes.filter fun a => a.name.declares?.isNone
  let all ← plain.mapM (nameAttribute scope)
  Reading.require
    (allDistinct ((all.filter NamedAttribute.isDeclared).map fun a => a.source.name))
  -- names that are written differently may still expand to the same one
  let named ← firstOfEach all []
  checkImplied s scope behind defaults
    ((named.filter NamedAttribute.isDeclared).map fun a => (a.source.name, a.name))
  let expanded := named.map fun a => (a.name, a.source.value.text)
  let identifiers := named.filterMap (NamedAttribute.identifier? rules)
  let tag : StartTag :=
    { localName := name.localName
      qualifier := name.qualifier
      attributes := expanded
      scope := scope.prefixes
      implied := impliedValues rules }
  match name.qualifier with
  | none => return ⟨{ tag with namespaceUri := scope.defaultUri }, scope, identifiers⟩
  | some p =>
    match scope.elementUri? p with
    | some uri => return ⟨{ tag with namespaceUri := some uri }, scope, identifiers⟩
    | none =>
      -- the name is kept as a whole, in no namespace
      Reading.note .flaw
      return ⟨{ tag with localName := name.text, qualifier := none }, scope, identifiers⟩

end FormulaQuery.Xml
