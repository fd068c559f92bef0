/-
  FormulaQuery/Xml/Markup.lean
  ============================
  **Document trees.**  A document tree keeps what a formula tree leaves out:
  comments, processing instructions and references to entities (its markers),
  blank texts, the expanded names of attributes and the prefixes in scope.

  `Markup.toContent` drops markers and blank texts and names attributes by the
  prefixes in scope; `Markup.withoutMarkers` is the tree of the same document
  without its markers, with the texts on both sides joined.  A document tree may
  have names that a formula tree cannot have; `Markup.unfitName?` finds them.
-/
import FormulaQuery.Text.Printable
import FormulaQuery.Text.Trim
import FormulaQuery.Tree.Element
import FormulaQuery.Xml.Char

namespace FormulaQuery.Xml

def xmlNamespace : String := "http://www.w3.org/XML/1998/namespace"

structure ExpandedName where
  namespaceUri : Option String
  localName : String
  deriving DecidableEq, Repr

structure StartTag where
  localName : String
  qualifier : Option String := none
  namespaceUri : Option String := none
  attributes : List (ExpandedName × String) := []
  /-- The prefixes in scope with their namespaces: those that the element declares,
      in the order of their declaration, then those of its parent that it does
      not hide, and so on. -/
  scope : List (String × String) := []
  /-- The values that the document type gives to attributes without namespace. -/
  implied : List (String × String) := []
  deriving DecidableEq, Repr, Inhabited

/-- A node that is neither an element nor a text. -/
inductive Marker where
  | comment (value : String)
  | instruction (target value : String)
  /-- A reference to an entity with the text that it stands for. -/
  | reference (name value : String)
  deriving DecidableEq, Repr

inductive Markup where
  | nil
  | text (value : String) (rest : Markup)
  | marker (m : Marker) (rest : Markup)
  | element (tag : StartTag) (children : Markup) (rest : Markup)
  deriving DecidableEq, Repr, Inhabited

structure Tree where
  tag : StartTag
  content : Markup
  deriving DecidableEq, Repr, Inhabited

inductive Item where
  | text (cs : List Char)
  | marker (m : Marker)
  | element (tag : StartTag) (content : Markup)
  deriving Repr

/-! ### Names of attributes -/

/-- The name of an attribute as a formula tree has it: the prefix is the first one
    in scope that stands for the namespace.  An empty namespace is none. -/
def StartTag.attributeName (t : StartTag) (n : ExpandedName) : String :=
  match n.namespaceUri with
  | none => n.localName
  | some uri =>
    if uri = xmlNamespace then "xml:" ++ n.localName
    else if uri = "" then n.localName
    else match t.scope.find? fun d => d.2 == uri && d.1 != "" with
      | some d => d.1 ++ ":" ++ n.localName
      | none => "\x7b" ++ uri ++ "\x7d" ++ n.localName

/-- The tag of the formula tree; of attributes that get the same name the last one has
    its value there. -/
def StartTag.toTag (t : StartTag) : Tag :=
  { localName := t.localName
    qualifier := t.qualifier
    namespaceUri := t.namespaceUri
    attributes :=
      (t.attributes.map fun a => (t.attributeName a.1, a.2)).foldl Tag.putAttribute [] }

/-! ### Unfit names -/

/-- The part of a name behind its namespace.  The namespace is taken to end at the
    first closing brace when both are written as one text with the namespace in
    braces. -/
def ExpandedName.localPart (n : ExpandedName) : String :=
  let brace := Char.ofNat 0x7D
  match n.namespaceUri with
  | none => n.localName
  | some uri =>
    match uri.toList.dropWhile (· != brace) with
    | [] => n.localName
    | _ :: behind => String.ofList behind ++ String.ofList [brace] ++ n.localName

def ExpandedName.unfit? (n : ExpandedName) : Option String :=
  if isNcName n.localPart.toList then none else some n.localPart

/-- The first name in a tag that a formula tree cannot have: that of the element, or
    one of an attribute. -/
def StartTag.unfitName? (t : StartTag) : Option String :=
  (⟨t.namespaceUri, t.localName⟩ :: t.attributes.map Prod.fst).findSome? ExpandedName.unfit?

def unfitNameMessage (name : String) : String := "Invalid tag name " ++ Text.inQuotes name

/-! ### Views -/

namespace Markup

/-- The content of the formula tree: elements and texts that are not blank. -/
def toContent : Markup → Content
  | nil => .nil
  | text value rest => if Text.isBlank value then rest.toContent else .text value rest.toContent
  | marker _ rest => rest.toContent
  | element tag children rest => .element tag.toTag children.toContent rest.toContent

/-- The first name that a formula tree cannot have; the names inside an element come
    before its own. -/
def unfitName? : Markup → Option String
  | nil => none
  | text _ rest => rest.unfitName?
  | marker _ rest => rest.unfitName?
  | element tag children rest => children.unfitName? <|> tag.unfitName? <|> rest.unfitName?

/-- A text in front of content; it joins a text that the content starts with. -/
def consText (value : String) : Markup → Markup
  | text next rest => text (value ++ next) rest
  | m => text value m

/-- The content without markers; texts that stand next to each other are joined. -/
def withoutMarkers : Markup → Markup
  | nil => nil
  | text value rest => consText value rest.withoutMarkers
  | marker _ rest => rest.withoutMarkers
  | element tag children rest => element tag children.withoutMarkers rest.withoutMarkers

/-- Content from its nodes, the last one first; texts next to each other are joined. -/
def ofItems (reversed : List Item) : Markup :=
  reversed.foldl (fun rest item => match item with
    | .text cs => if cs.isEmpty then rest else consText (String.ofList cs) rest
    | .marker m => .marker m rest
    | .element tag content => .element tag content rest) .nil

def children : Markup → List Tree
  | nil => []
  | text _ rest => rest.children
  | marker _ rest => rest.children
  | element tag content rest => ⟨tag, content⟩ :: rest.children

def elements : Markup → List Tree
  | nil => []
  | text _ rest => rest.elements
  | marker _ rest => rest.elements
  | element tag content rest => ⟨tag, content⟩ :: (content.elements ++ rest.elements)

def markerText : Marker → String
  | .reference _ value => value
  | .comment _ => ""
  | .instruction _ _ => ""

/-- All text at any depth; references count with the text that they stand for. -/
def stringValue : Markup → String
  | nil => ""
  | text value rest => value ++ rest.stringValue
  | marker m rest => markerText m ++ rest.stringValue
  | element _ content rest => content.stringValue ++ rest.stringValue

end Markup

namespace Tree

def toElement (t : Tree) : Element := ⟨t.tag.toTag, t.content.toContent⟩

def withoutMarkers (t : Tree) : Tree := ⟨t.tag, t.content.withoutMarkers⟩

def elements (t : Tree) : List Tree := t :: t.content.elements

def isNamed (t : Tree) (uri localName : String) : Bool :=
  t.tag.namespaceUri == some uri && t.tag.localName == localName

def unfitName? (t : Tree) : Option String := t.content.unfitName? <|> t.tag.unfitName?

/-- The value of an attribute without namespace: the one in the tag, or else the one
    that the document type gives. -/
def attribute? (t : Tree) (name : String) : Option String :=
  t.tag.attributes.lookup ⟨none, name⟩ <|> t.tag.implied.lookup name

end Tree

end FormulaQuery.Xml
