/-
  FormulaQuery/Xml/Token.lean
  ===========================
  **The tokens of content**: tags, texts, references, comments and processing
  instructions, as they follow each other in a document or in the replacement
  text of an entity.  The ends of lines are made equal inside of tokens; what entities
  are declared as keeps them as they are.  Where a token may make entities add to the
  document, it knows the characters that are left behind it.
-/
import FormulaQuery.Text.Encoding
import FormulaQuery.Xml.Finding
import FormulaQuery.Xml.Scan

namespace FormulaQuery.Xml

inductive Reference where
  | char (c : Char)
  | entity (name : String)
  deriving DecidableEq, Repr

inductive ValuePart where
  | char (c : Char)
  /-- A reference, with the characters of the value behind it. -/
  | entity (name : String) (left : List Char)
  deriving Repr

def ValuePart.isSpace : ValuePart → Bool
  | char c => c == ' '
  | entity _ _ => false

def ValuePart.isReference : ValuePart → Bool
  | char _ => false
  | entity _ _ => true

def ValuePart.left : ValuePart → List Char
  | char _ => []
  | entity _ left => left

/-- An attribute as written, with the characters behind it, from the closing quote on. -/
structure WrittenAttribute where
  name : QName
  value : List ValuePart
  behind : List Char
  deriving Repr

inductive Token where
  /-- A start tag, with the characters behind its attributes. -/
  | opening (name : QName) (attributes : List WrittenAttribute) (isEmpty : Bool)
      (behind : List Char)
  | closing (name : String)
  | text (cs : List Char)
  /-- Characters that are content by their form: a character reference or a
      section of character data. -/
  | data (cs : List Char)
  /-- A reference, with the characters behind it. -/
  | entity (name : String) (behind : List Char)
  | comment (cs : List Char)
  | instruction (target : String) (cs : List Char)
  deriving Repr

def predefined? : String → Option Char
  | "lt" => some '<'
  | "gt" => some '>'
  | "amp" => some '&'
  | "apos" => some (Char.ofNat 39)
  | "quot" => some (Char.ofNat 34)
  | _ => none

def charOfCode? (n : Nat) : Option Char :=
  if n ≤ 0x10FFFF then
    let c := Char.ofNat n
    if c.toNat = n && isChar c then some c else none
  else none

namespace Scan

def reference : Scan Reference := do
  if ← accept "#x" then
    let digits ← before ";"
    return .char (← (hexValue? digits).bind charOfCode?)
  else if ← accept "#" then
    let digits ← before ";"
    return .char (← (decimalValue? digits).bind charOfCode?)
  else
    let n ← name
    expect ";"
    match predefined? n with
    | some c => return .char c
    | none => return .entity n

/-- The next part of an attribute value; blanks become spaces, unless they are kept. -/
def valuePart (keepsBlanks : Bool) : Scan (Option ValuePart) := fun cs =>
  match cs with
  | [] => some (none, [])
  | '&' :: rest =>
    (reference rest).map fun (r, behind) =>
      match r with
      | .char c => (some (.char c), behind)
      | .entity n => (some (.entity n behind), behind)
  | '<' :: _ => none
  | c :: rest =>
    if isBlank c && !keepsBlanks then some (some (.char ' '), rest)
    else if isChar c then some (some (.char c), rest) else none

def valueParts (cs : List Char) (keepsBlanks : Bool := false) : Option (List ValuePart) :=
  (many (valuePart keepsBlanks) cs).map Prod.fst

/-- A value between quotes, and the characters behind it, from the closing quote on. -/
def writtenValue : Scan (List ValuePart × List Char) := do
  let literal ← quoted
  let parts ← valueParts (Text.normalizeLines literal)
  return (parts, Char.ofNat 34 :: (← get))

def writtenAttribute : Scan WrittenAttribute := do
  let n ← qName
  let _ ← blanks
  expect "="
  let _ ← blanks
  let (parts, behind) ← writtenValue
  return ⟨n, parts, behind⟩

/-- The next attribute of a start tag; it has to be set off by blanks. -/
def nextAttribute : Scan (Option WrittenAttribute) := do
  let apart ← blanks
  if (← looksAt ">") || (← looksAt "/>") then return none
  require apart
  return some (← writtenAttribute)

/-- The rest of a start tag, behind its bracket; there are at most `fuel` attributes. -/
def opening (fuel : Nat) : Scan Token := do
  let n ← qName
  let attributes ← loop refuse nextAttribute fuel []
  let behind ← get
  if ← accept "/>" then return .opening n attributes true behind
  expect ">"
  return .opening n attributes false behind

def comment : Scan (List Char) := do
  let cs ← before "--"
  expect ">"
  require (cs.all isChar)
  return Text.normalizeLines cs

def isReserved (target : String) : Bool :=
  String.ofList (target.toList.map Char.toLower) == "xml"

def instruction : Scan (String × List Char) := do
  let target ← name
  require !isReserved target
  if ← accept "?>" then return (target, [])
  someBlanks
  let cs ← before "?>"
  require (cs.all isChar)
  return (target, Text.normalizeLines cs)

def holdsDataEnd : List Char → Bool
  | ']' :: ']' :: '>' :: _ => true
  | _ :: rest => holdsDataEnd rest
  | [] => false

def token (fuel : Nat) : Scan (Option Token) := do
  if ← atEnd then return none
  if ← accept "<!--" then return some (.comment (← comment))
  if ← accept "<![CDATA[" then
    let cs ← before "]]>"
    require (cs.all isChar)
    return some (.data (Text.normalizeLines cs))
  if ← accept "<?" then
    let (target, cs) ← instruction
    return some (.instruction target cs)
  if ← accept "</" then
    let n ← nameToken
    let _ ← blanks
    expect ">"
    return some (.closing n)
  if ← accept "<" then return some (← opening fuel)
  if ← accept "&" then
    match ← reference with
    | .char c => return some (.data [c])
    | .entity n => return some (.entity n (← get))
  let cs ← run fun c => c != '<' && c != '&'
  require (cs.all isChar && !holdsDataEnd cs)
  return some (.text (Text.normalizeLines cs))

end Scan

/-- What is found about the name of an instruction: names that start with `xml` are
    reserved but for two, and colons should not be in them. -/
def instructionFindings (target : String) : List Weight :=
  let isKnown := target == "xml-stylesheet" || target == "xml-model"
  let isLike := String.ofList ((target.toList.take 3).map Char.toLower) == "xml"
  (if isLike && !isKnown then [.warning] else []) ++
    (if target.toList.contains ':' then [.flaw] else [])

/-- The number of open elements behind a token, from that in front of it. -/
def Token.depthBehind : Token → (depth : Nat) → Nat
  | opening _ _ isEmpty _, depth => if isEmpty then depth else depth + 1
  | closing _, depth => depth - 1
  | _, depth => depth

namespace Scan

/-- The tokens up to the end of the first element, of which `depth` elements are open;
    those in front are in `seen`, the last one first. -/
def elementLoop (attributes : Nat) : (fuel depth : Nat) → (seen : List Token) → Scan (List Token)
  | 0, _, _ => refuse
  | fuel + 1, depth, seen => do
    match ← token attributes with
    | none => refuse
    | some t =>
      let depth := t.depthBehind depth
      if depth = 0 then return (t :: seen).reverse
      elementLoop attributes fuel depth (t :: seen)

/-- The tokens up to the end, or up to the end tag of an element that was not opened. -/
def contentLoop (attributes : Nat) : (fuel depth : Nat) → (seen : List Token) → Scan (List Token)
  | 0, _, _ => refuse
  | fuel + 1, depth, seen => do
    if depth = 0 && (← looksAt "</") then return seen.reverse
    match ← token attributes with
    | none => return seen.reverse
    | some t => contentLoop attributes fuel (t.depthBehind depth) (t :: seen)

/-- The tokens of an element.  Each of them and each attribute takes a character off. -/
def elementTokens : Scan (List Token) := do
  let fuel := (← get).length + 1
  elementLoop fuel fuel 0 []

def contentTokens : Scan (List Token) := do
  let fuel := (← get).length + 1
  contentLoop fuel fuel 0 []

end Scan

end FormulaQuery.Xml
