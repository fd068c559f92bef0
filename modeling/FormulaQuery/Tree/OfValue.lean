/-
  FormulaQuery/Tree/OfValue.lean
  ==============================
  **Formula trees from plain values.**  A tree can be handed over as a mapping
  with the keys of its parts.  Only the local name of an element and the value of
  a text have to be there; nothing is converted, and keys that mean nothing here
  are passed over.  Elements may stand inside each other to a limited depth.
-/
import FormulaQuery.Data.Value
import FormulaQuery.Tree.Element

namespace FormulaQuery

structure ElementDraft where
  localName : Option String := none
  qualifier : Option String := none
  namespaceUri : Option String := none
  attributes : List (String × String) := []
  content : Content := .nil

/-- The element of a draft; it has to have a local name. -/
def ElementDraft.finish (d : ElementDraft) : Option Element :=
  d.localName.map fun name =>
    ⟨{ localName := name, qualifier := d.qualifier, namespaceUri := d.namespaceUri,
       attributes := d.attributes }, d.content⟩

namespace Value

def optionalText? : Value → Option (Option String)
  | null => some none
  | text s => some (some s)
  | _ => none

def attributes? : List (Value × Value) → Option (List (String × String))
  | [] => some []
  | (.text name, .text value) :: rest => (attributes? rest).map ((name, value) :: ·)
  | _ :: _ => none

def textNode? : Value → Option String
  | mapping entries =>
    let kindFits := match lookup (text "kind") entries with
      | none => true
      | some kind => kind.equals (text "text")
    if kindFits then (lookup (text "value") entries).bind text? else none
  | _ => none

mutual

/-- An element with fewer than `room` elements inside each other in it. -/
def elementWithin? : Value → (room : Nat) → Option Element
  | mapping entries, room + 1 => (elementParts? entries room).bind ElementDraft.finish
  | _, _ => none

def elementParts? : List (Value × Value) → (room : Nat) → Option ElementDraft
  | [], _ => some {}
  | (key, v) :: rest, room =>
    match key with
    | .text "kind" => if v.equals (.text "element") then elementParts? rest room else none
    | .text "local_name" =>
      v.text?.bind fun s => (elementParts? rest room).map fun d => { d with localName := some s }
    | .text "prefix" =>
      v.optionalText?.bind fun s => (elementParts? rest room).map fun d => { d with qualifier := s }
    | .text "namespace" =>
      v.optionalText?.bind fun s =>
        (elementParts? rest room).map fun d => { d with namespaceUri := s }
    | .text "attributes" =>
      match v with
      | .mapping entries =>
        (attributes? entries).bind fun as =>
          (elementParts? rest room).map fun d => { d with attributes := as }
      | _ => none
    | .text "children" =>
      match v with
      | .list items =>
        (content? items room).bind fun c =>
          (elementParts? rest room).map fun d => { d with content := c }
      | _ => none
    | _ => elementParts? rest room

/-- The content of an element: each item is an element or, if it is none, a text. -/
def content? : List Value → (room : Nat) → Option Content
  | [], _ => some .nil
  | v :: rest, room =>
    match v.elementWithin? room with
    | some e => (content? rest room).map (.element e.tag e.content ·)
    | none => v.textNode?.bind fun s => (content? rest room).map (.text s ·)

end

/-- The greatest number of elements inside each other. -/
def maxElementDepth : Nat := 255

def element? (v : Value) : Option Element := v.elementWithin? maxElementDepth

end Value

end FormulaQuery
