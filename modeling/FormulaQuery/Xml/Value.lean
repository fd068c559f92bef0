/-
  FormulaQuery/Xml/Value.lean
  ===========================
  **Attribute values.**  References in a value are replaced; the text of an entity may
  refer to other entities, to a limited depth, and must not hold the start of a tag.
  Where references stay as markers, an entity is checked only once, and an entity that is
  first met in a value has its text as content, as it stands, with its blanks.
-/
import FormulaQuery.Xml.Reading
import FormulaQuery.Xml.Token

namespace FormulaQuery.Xml

/-- A list without the spaces at its ends, and with one space for those next to each
    other. -/
def squeeze {α : Type} (isSpace : α → Bool) (as : List α) : List α :=
  (inside as).dropWhile isSpace
where
  inside : List α → List α
    | [] => []
    | a :: rest =>
      if isSpace a then
        match inside rest with
        | [] => []
        | b :: more => if isSpace b then b :: more else a :: b :: more
      else a :: inside rest

namespace Setting

/-! ### Replaced references -/

/-- The characters of a part of a value, with entities at most `room` deep, where the
    given characters of the document are left. -/
def expandPart (s : Setting) (d : Doctype) (left : List (List Char)) :
    (room : Nat) → ValuePart → Reading (List Char)
  | _, .char c => return [c]
  | room, .entity name _ =>
    match d.entities.lookup name with
    | some (.internal cs) => do
      -- the cost comes first, so that it can be what refuses the document
      Reading.charge s left (byteSize cs)
      match room with
      | 0 => Reading.refuse
      | room + 1 =>
        let parts ← liftM (Scan.valueParts cs)
        return (← parts.mapM (s.expandPart d left room)).flatten
    | some _ => Reading.refuse
    | none => do
      Reading.undeclared s d
      return []

def expand (s : Setting) (d : Doctype) (room : Nat) (behind : List Char)
    (parts : List ValuePart) : Reading (List Char) := do
  return (← parts.mapM fun part => s.expandPart d [part.left, behind] room part).flatten

/-! ### References that stay -/

def checkPart (s : Setting) (d : Doctype) (inner : String → List Char → Reading Nat) :
    ValuePart → Reading Nat
  | .char _ => return 0
  | .entity name _ =>
    match d.entities.lookup name with
    | some (.internal cs) => do return (← inner name cs) + referenceCost
    | some _ => Reading.refuse
    | none => do
      Reading.undeclared s d
      return 0

/-- Checks that an entity is fit for attribute values, with entities at most `room` deep,
    and gives its size with all that it leads to. -/
def check (s : Setting) (d : Doctype) : (room : Nat) → String → List Char → Reading Nat
  | 0, name, _ => do
    match (← get).fit.lookup name with
    | some size => return size
    | none => Reading.refuse
  | room + 1, name, cs => do
    match (← get).fit.lookup name with
    | some size => return size
    | none =>
      let parts ← liftM (Scan.valueParts cs)
      let sizes ← parts.mapM (s.checkPart d (s.check d room))
      let size := byteSize cs + sizes.sum
      modify fun r => { r with fit := (name, size) :: r.fit }
      return size

/-- Whether a part of a value stays in it: a reference to an entity that is not declared
    does not. -/
def keeps (s : Setting) (d : Doctype) (room : Nat) (behind : List Char) :
    ValuePart → Reading Bool
  | .char _ => return true
  | .entity name left =>
    match d.entities.lookup name with
    | some (.internal cs) => do
      Reading.charge s [left, behind] (← s.check d room name cs)
      return true
    | some _ => Reading.refuse
    | none => do
      Reading.undeclared s d
      return false

end Setting

def plainChars (parts : List ValuePart) : List Char :=
  parts.filterMap fun part =>
    match part with
    | .char c => some c
    | .entity _ _ => none

def referenceMarker (name : String) (content : EntityContent) : Item :=
  .marker (.reference name (Markup.ofItems content.items).stringValue)

/-- The nodes of a value, the last one first, with entities at most `fuel` deep.  The
    content of an entity that has not been read is its text, as it stands. -/
def valueItems (d : Doctype) : (fuel : Nat) → List ValuePart → Reading (List Item)
  | 0, _ => return []
  | fuel + 1, parts => do
    let runs := parts.splitBy fun a b => !a.isReference && !b.isReference
    let items ← runs.mapM fun run => do
      match run with
      | .entity name _ :: _ =>
        match (← get).contents.lookup name, d.entities.lookup name with
        | some content, _ => return referenceMarker name content
        | none, some (.internal cs) =>
          let inner ← valueItems d fuel ((Scan.valueParts cs true).getD [])
          let r ← get
          -- what is kept here is found again by references in content
          let content : EntityContent := ⟨inner, [], (r.fit.lookup name).getD 0⟩
          set { r with contents := (name, content) :: r.contents }
          return referenceMarker name content
        | none, _ => return .marker (.reference name "")
      | _ => return .text (plainChars run)
    return items.reverse

/-- A value as it is written down again: references stay, and an ampersand becomes one. -/
def writtenText (parts : List ValuePart) : List Char :=
  parts.flatMap fun part =>
    match part with
    | .char c => if c = '&' then "&#38;".toList else [c]
    | .entity name _ => '&' :: name.toList ++ [';']

/-! ### Values -/

structure ReadValue where
  text : String
  /-- Whether there are references in it that stay. -/
  hasReferences : Bool := false
  deriving DecidableEq, Repr

namespace Setting

/-- The value of an attribute: `squeezes` tells whether its blanks matter little, and
    `replaces` whether its references are replaced in any case. -/
def value (s : Setting) (d : Doctype) (room : Nat) (squeezes replaces : Bool)
    (w : WrittenAttribute) : Reading ReadValue := do
  if s.resolve || replaces then
    let cs ← s.expand d room w.behind w.value
    return { text := String.ofList (if squeezes then squeeze (· == ' ') cs else cs) }
  else
    let kept ← w.value.filterM (s.keeps d room w.behind)
    let kept := if squeezes then squeeze ValuePart.isSpace kept else kept
    let items ← valueItems d (d.entities.length + 1) kept
    return { text := (Markup.ofItems items).stringValue
             hasReferences := kept.any ValuePart.isReference }

def defaultValue (s : Setting) (d : Doctype) (room : Nat) (squeezes : Bool)
    (parts : List ValuePart) (behind : List Char) : Reading String := do
  let cs ←
    if s.resolve then s.expand d room behind parts
    else writtenText <$> parts.filterM (s.keeps d room behind)
  return String.ofList (if squeezes then squeeze (· == ' ') cs else cs)

end Setting

end FormulaQuery.Xml
