/-
  FormulaQuery/Xml/Declaration.lean
  =================================
  **Document type declarations.**  Of the declarations in the internal subset,
  entities and attributes matter for the tree; the others are only checked for
  their form, and for not being declared twice.  The external subset is never read,
  nor is a text at another place.
-/
import FormulaQuery.Xml.Uri
import FormulaQuery.Xml.Value

namespace FormulaQuery.Xml

abbrev Declaring := StateT Doctype (StateT Record Scan)

namespace Declaring

/-- Does a step of reading that needs what has been declared so far. -/
def read {α : Type} (step : Doctype → Reading α) : Declaring α := fun d record rest =>
  (step d record).map fun (a, record) => (((a, d), record), rest)

def refuse {α : Type} : Declaring α := liftM (Scan.refuse : Scan α)

def require (condition : Bool) : Declaring Unit := if condition then pure () else refuse

def note (w : Weight) : Declaring Unit := read fun _ => Reading.note w

def expect (condition : Bool) : Declaring Unit := read fun _ => Reading.expect condition

end Declaring

namespace Scan

def isPublicIdChar (c : Char) : Bool :=
  c.isAlphanum || c == ' ' || c == '\n' || c == '\r' || "-()+,./:=?;!*#@$_%".toList.contains c ||
    c == Char.ofNat 39

def systemId : Scan (List Char) := do
  let place ← quoted
  require (place.all isChar)
  return place

def looksAtQuote : Scan Bool := do
  return (← looksAt "\"") || (← looksAt (String.ofList [Char.ofNat 39]))

/-- The place that an external identifier gives, if there is one; for a notation the
    place may be missing, and is empty then. -/
def externalId (placeRequired : Bool) : Scan (Option (List Char)) := do
  if ← accept "SYSTEM" then
    someBlanks
    return some (← systemId)
  else if ← accept "PUBLIC" then
    someBlanks
    require ((← quoted).all isPublicIdChar)
    if placeRequired then
      someBlanks
      return some (← systemId)
    let apart ← blanks
    if ← looksAtQuote then
      require apart
      return some (← systemId)
    return some []
  else return none

/-- The next part of the replacement text of an entity literal, up to a percent sign:
    character references are replaced, references to entities stay as they are. -/
def entityPart : Scan (Option (List Char)) := fun cs =>
  match cs with
  | [] => some (none, [])
  | '&' :: '#' :: rest =>
    (reference ('#' :: rest)).map fun (r, behind) =>
      match r with
      | .char c => (some [c], behind)
      | .entity n => (some n.toList, behind)
  | '&' :: rest =>
    (do let n ← name; expect ";"; return ('&' :: n.toList) ++ [';'] : Scan (List Char)) rest
      |>.map fun (text, behind) => (some text, behind)
  | '%' :: rest => some (none, '%' :: rest)
  | c :: rest => if isChar c then some (some [c], rest) else none

def parameterName : Scan String := do
  let n ← name
  expect ";"
  return n

/-- The replacement text of an entity literal, up to a reference to a parameter entity,
    whose name is given too. -/
def entityText (literal : List Char) : Option (List Char × Option String) := do
  let (parts, rest) ← many entityPart literal
  match rest with
  | _ :: behind =>
    let (n, _) ← parameterName behind
    return (parts.flatten, some n)
  | [] => return (parts.flatten, none)

def declarationEnd : Scan Unit := do
  let _ ← blanks
  expect ">"

def enumeration (item : Scan String) : Scan Unit := do
  let alternative : Scan Unit := do
    let _ ← blanks
    let _ ← item
    let _ ← blanks
  alternative
  let _ ← many (do
    if ← accept "|" then
      alternative
      return some ()
    return none : Scan (Option Unit))
  expect ")"

def attributeKind : Scan AttributeKind := do
  if ← accept "CDATA" then return .text
  if ← accept "NOTATION" then
    someBlanks
    expect "("
    enumeration name
    return .name
  if ← accept "(" then
    enumeration nameToken
    return .tokens
  if ← accept "IDREFS" then return .names
  if ← accept "IDREF" then return .name
  if ← accept "ID" then return .identifier
  if ← accept "ENTITY" then return .name
  if ← accept "ENTITIES" then return .names
  if ← accept "NMTOKENS" then return .tokens
  expect "NMTOKEN"
  return .token

/-- The default of an attribute, and the characters behind it. -/
def attributeDefault : Scan (Option (List ValuePart × List Char)) := do
  if ← accept "#REQUIRED" then return none
  if ← accept "#IMPLIED" then return none
  if ← accept "#FIXED" then someBlanks
  return some (← writtenValue)

def occurrence : Scan Unit := do
  let _ ← accept "?" <||> accept "*" <||> accept "+"

/-- A content model, behind its opening parenthesis; nested ones at most `fuel` deep. -/
def contentModel : (fuel : Nat) → Scan Unit
  | 0 => refuse
  | fuel + 1 => do
    let particle : Scan Unit := do
      let _ ← blanks
      if ← accept "(" then contentModel fuel
      else
        let _ ← name
        occurrence
      let _ ← blanks
    particle
    let separator := if ← looksAt "|" then "|" else ","
    let _ ← many (do
      if ← accept separator then
        particle
        return some ()
      return none : Scan (Option Unit))
    expect ")"
    occurrence

def maxModelDepth : Nat := 256

def contentSpec : Scan Unit := do
  if ← accept "EMPTY" then return
  if ← accept "ANY" then return
  expect "("
  let _ ← blanks
  if ← accept "#PCDATA" then
    let _ ← blanks
    if ← accept ")" then
      let _ ← accept "*"
    else
      let _ ← many (do
        if ← accept "|" then
          let _ ← blanks
          let _ ← name
          let _ ← blanks
          return some ()
        return none : Scan (Option Unit))
      expect ")*"
  else contentModel maxModelDepth

end Scan

/-! ### Entities -/

/-- Whether a text may be declared for a predefined entity: the character itself, unless
    it starts markup, or a reference to it by number. -/
def fitsPredefined (c : Char) (text : List Char) : Bool :=
  let decimal := toString c.toNat
  let hexadecimal := String.ofList (Nat.toDigits 16 c.toNat)
  let lowered := String.ofList (text.map Char.toLower)
  (text == [c] && c != '<' && c != '&') ||
    text == ("&#" ++ decimal ++ ";").toList ||
    (text.take 3 == "&#x".toList && lowered == "&#x" ++ hexadecimal ++ ";")

namespace Declaring

/-- What a parameter entity is declared as.  Where references to texts at other places
    are refused, parameter entities are not looked up. -/
def parameter? (s : Setting) (n : String) : Declaring (Option Entity) := do
  if s.replacement = .within then return none
  return (← get).parameters.lookup n

/-- A reference to a parameter entity in an entity literal: a declared one must not
    stand there. -/
def literalReference (s : Setting) (n : String) : Declaring Unit := do
  -- the reference is not followed, and it could have led to declarations
  modify fun d => { d with isPartial := true }
  require (← parameter? s n).isNone
  read (Reading.undeclared s)

open Scan in
def entity (s : Setting) (room : Nat) (isParameter : Bool) : Declaring Entity := do
  if ← looksAtQuote then
    require (0 < room)
    let literal ← quoted
    let (text, reference) ← liftM (entityText literal)
    reference.forM (literalReference s)
    return .internal text
  match ← externalId true with
  | none => refuse
  | some place =>
    require !place.contains '#'
    let apart ← blanks
    if !isParameter && (← looksAt "NDATA") then
      require apart
      Scan.expect "NDATA"
      someBlanks
      let _ ← name?
      return .unparsed place
    return .external place

def isSoundPlace : Entity → Bool
  | .internal _ => true
  | .external place => isReference place
  | .unparsed place => isReference place
where
  isReference (place : List Char) : Bool :=
    let s := String.ofList place
    place.isEmpty || Uri.isAbsolute s || Uri.isRelative s

def locate (s : Setting) (e : Entity) : Declaring Unit := do
  if s.isPlaced && !isSoundPlace e then note .warning

/-- Declares an entity; the first declaration for a name holds.  To declare a text where
    the first one has its text at another place counts as a reference to that. -/
def declareEntity (s : Setting) (n : String) (e : Entity) : Declaring Unit := do
  match (← get).entities.lookup n, e with
  | none, _ =>
    modify fun d => { d with entities := d.entities ++ [(n, e)] }
    locate s e
  | some (.internal _), _ => pure ()
  | some _, .internal _ => require (s.replacement != .within)
  | some _, _ => pure ()

def declareParameter (s : Setting) (n : String) (e : Entity) : Declaring Unit := do
  if ((← get).parameters.lookup n).isNone then
    modify fun d => { d with parameters := d.parameters ++ [(n, e)] }
    locate s e

open Scan in
def entityDeclaration (s : Setting) (room : Nat) : Declaring Unit := do
  someBlanks
  let isParameter ← accept "%"
  if isParameter then someBlanks
  let n ← name
  Declaring.expect !n.toList.contains ':'
  someBlanks
  let e ← entity s room isParameter
  declarationEnd
  if isParameter then declareParameter s n e
  else
    match predefined? n, e with
    | none, _ => declareEntity s n e
    -- a predefined entity keeps its meaning
    | some c, .internal text => if !fitsPredefined c text then note .warning
    | some _, _ => note .warning

/-! ### Attributes -/

def isName : List Char → Bool
  | [] => false
  | c :: rest => isNameStart c && rest.all isNameChar

def isNameToken (cs : List Char) : Bool := !cs.isEmpty && cs.all isNameChar

def fitsKind (kind : AttributeKind) (value : String) : Bool :=
  let words := value.toList.splitOn ' '
  match kind with
  | .text => true
  | .identifier => isName value.toList
  | .name => isName value.toList
  | .names => words.all isName
  | .token => isNameToken value.toList
  | .tokens => words.all isNameToken

/-- Declares an attribute, which may have been declared before. -/
def declareAttribute (rule : AttributeRule) : Declaring Unit := do
  Declaring.expect (rule.name != "xml:id" || rule.kind = .identifier)
  Declaring.expect rule.isFit
  let known := (← get).rules.filter fun r => r.element == rule.element
  if known.any fun r => r.name == rule.name then note .warning
  else
    Declaring.expect (rule.kind != .identifier || !known.any fun r => r.kind = .identifier)
    modify fun d => { d with rules := d.rules ++ [rule] }

open Scan in
def nextAttribute (s : Setting) (room : Nat) (element : String) : Declaring (Option Unit) := do
  let apart ← blanks
  if ← looksAt ">" then return none
  require apart
  let n ← name
  someBlanks
  let kind ← attributeKind
  someBlanks
  let written ← attributeDefault
  let value ← read fun d => written.mapM fun (parts, behind) =>
    s.defaultValue d room (kind != .text) parts behind
  require ((← looksAt ">") || (← (get : Scan (List Char))).head?.any isBlank)
  declareAttribute
    { element := element
      name := n
      kind := kind
      default := value
      isFit := (value.map (fitsKind kind)).getD true }
  return some ()

open Scan in
def attributeDeclaration (s : Setting) (room : Nat) : Declaring Unit := do
  someBlanks
  let element ← name
  let _ ← many (nextAttribute s room element)
  Scan.expect ">"

/-! ### Elements and notations -/

open Scan in
def elementDeclaration : Declaring Unit := do
  someBlanks
  let n ← name
  someBlanks
  contentSpec
  declarationEnd
  Declaring.expect !(← get).elements.contains n
  modify fun d => { d with elements := n :: d.elements }

open Scan in
def formatDeclaration : Declaring Unit := do
  someBlanks
  let n ← name
  Declaring.expect !n.toList.contains ':'
  someBlanks
  let place ← externalId false
  require place.isSome
  declarationEnd
  Declaring.expect !(← get).formats.contains n
  modify fun d => { d with formats := n :: d.formats }

/-! ### The internal subset -/

open Scan in
def instruction : Declaring Unit := do
  let (target, _) ← (Scan.instruction : Scan (String × List Char))
  read fun _ => Reading.noteAll (instructionFindings target)

/-- Reads a text of its own, which has to be taken off, and gives what entities add to
    it. -/
def within (cs : List Char) (step : Declaring Unit) : Declaring Nat := do
  let rest ← (get : Scan (List Char))
  let outer ← read fun _ => do return (← get).added
  (set cs : Scan Unit)
  read fun _ => modify fun r => { r with added := 0 }
  step
  require (← Scan.atEnd)
  let added ← read fun _ => do return (← get).added
  (set rest : Scan Unit)
  read fun _ => modify fun r => { r with added := outer }
  return added

/-- A reference to a parameter entity: its text has to be declarations, which `inner`
    reads.  A text at another place is looked for, but never found. -/
def parameterReference (s : Setting) (inner : Setting → Declaring Unit) (n : String) :
    Declaring Unit := do
  modify fun d => { d with isPartial := true }
  match ← parameter? s n with
  | some (.internal text) =>
    let size := byteSize text
    let added ← within text (inner { s with extent := size })
    let behind ← (get : Scan (List Char))
    read fun _ => Reading.charge s [behind] (size + added)
  | some (.external place) => if s.resolve then read fun _ => Reading.seek place
  | some (.unparsed _) => pure ()
  | none => read (Reading.undeclared s)

open Scan in
/-- The next declaration; `inner` reads the text of a parameter entity. -/
def nextDeclaration (s : Setting) (room : Nat) (inner : Setting → Declaring Unit) :
    Declaring (Option Unit) := do
  let _ ← blanks
  if (← atEnd) || (← looksAt "]") then return none
  if ← accept "<!ENTITY" then entityDeclaration s room
  else if ← accept "<!ATTLIST" then attributeDeclaration s room
  else if ← accept "<!ELEMENT" then elementDeclaration
  else if ← accept "<!NOTATION" then formatDeclaration
  else if ← accept "<!--" then let _ ← comment
  else if ← accept "<?" then instruction
  else
    Scan.expect "%"
    parameterReference s inner (← parameterName)
  return some ()

/-- Declarations, with parameter entities at most `room` deep. -/
def declarations : (room : Nat) → Setting → Declaring Unit
  | 0, s => do let _ ← Scan.many (nextDeclaration s 0 fun _ => refuse)
  | room + 1, s => do let _ ← Scan.many (nextDeclaration s (room + 1) (declarations room))

open Scan in
def doctype (s : Setting) : Declaring Unit := do
  someBlanks
  let _ ← name
  let _ ← blanks
  let place ← externalId true
  modify fun d => { d with isPartial := place.isSome }
  let _ ← blanks
  if ← accept "[" then
    declarations (maxNesting - 1) s
    Scan.expect "]"
    let _ ← blanks
  Scan.expect ">"

end Declaring

end FormulaQuery.Xml
