/-
  FormulaQuery/Xml/Document.lean
  ==============================
  **Documents from bytes.**  The encoding is told by a byte order mark or, if there
  is none, by the declaration at the start; then come the document type and the
  root element.  Only comments, instructions and blanks may follow, but where a flaw
  has been noted what follows does not matter.  `parseTree` gives the document tree with
  its markers, and `parseFormula` the formula tree of a document read without them.
-/
import FormulaQuery.Xml.Content
import FormulaQuery.Xml.Declaration

namespace FormulaQuery.Xml

structure Header where
  /-- Whether the version is a later one than 1.0, which is worth a warning. -/
  isLater : Bool := false
  encoding : Option String := none
  standalone : Bool := false

namespace Scan

def declaredValue : Scan (List Char) := do
  let _ ← blanks
  expect "="
  let _ ← blanks
  quoted

/-- Whether a version is one that can be read: 1, a point and digits. -/
def isVersion : List Char → Bool
  | '1' :: '.' :: digits => digits.all Char.isDigit
  | _ => false

def isEncodingName : List Char → Bool
  | [] => false
  | c :: rest => c.isAlpha && rest.all fun d => d.isAlphanum || d == '.' || d == '_' || d == '-'

def header : Scan Header := do
  someBlanks
  expect "version"
  let version ← declaredValue
  require (isVersion version)
  let apart ← blanks
  let (encoding, apart) ←
    if ← accept "encoding" then do
      require apart
      let n ← declaredValue
      require (isEncodingName n)
      let apart ← blanks
      pure (some (String.ofList n), apart)
    else pure (none, apart)
  let standalone ←
    if ← accept "standalone" then do
      require apart
      let answer := String.ofList (← declaredValue)
      require (answer == "yes" || answer == "no")
      let _ ← blanks
      pure (answer == "yes")
    else pure false
  expect "?>"
  return ⟨version != "1.0".toList, encoding, standalone⟩

def header? : Scan Header := fun cs =>
  match dropFront? "<?xml".toList cs with
  | some (c :: rest) => if isBlank c then header (c :: rest) else some ({}, cs)
  | _ => some ({}, cs)

end Scan

open Scan in
def miscellany : Declaring Unit := do
  let _ ← many (do
    let apart ← blanks
    if ← accept "<!--" then
      let _ ← comment
      return some ()
    if ← accept "<?" then
      Declaring.instruction
      return some ()
    return if apart then some () else none : Declaring (Option Unit))

open Scan in
def prolog (s : Setting) : Declaring Unit := do
  miscellany
  if ← accept "<!DOCTYPE" then
    Declaring.doctype s
    miscellany

/-! ### Encodings -/

/-- The encoding that the first bytes tell, and the bytes behind a byte order mark. -/
def sniff : List UInt8 → Option (Text.Encoding × List UInt8)
  | 0xEF :: 0xBB :: 0xBF :: rest => some (.utf8, rest)
  | 0xFE :: 0xFF :: rest => some (.utf16 true, rest)
  | 0xFF :: 0xFE :: rest => some (.utf16 false, rest)
  | 0x3C :: 0x00 :: 0x3F :: 0x00 :: rest => some (.utf16 false, 0x3C :: 0x00 :: 0x3F :: 0x00 :: rest)
  | 0x00 :: 0x3C :: 0x00 :: 0x3F :: rest => some (.utf16 true, 0x00 :: 0x3C :: 0x00 :: 0x3F :: rest)
  | _ => none

/-- The encoding that the declaration at the start names; without a name it is UTF-8. -/
def declaredEncoding? (bytes : List UInt8) : Option Text.Encoding := do
  let front := bytes.map fun b => Char.ofNat b.toNat
  let (h, _) ← Scan.header? front
  match h.encoding with
  | none => some .utf8
  | some name => Text.Encoding.ofName? name

/-- The characters of bytes.  Where bytes are no character in UTF-8, and where UTF-16
    ends inside of one, there is one that no document may hold. -/
def decodeWith : Text.Encoding → List UInt8 → Option (List Char)
  | .utf8, bytes => some (Text.utf8Marked noChar bytes)
  | .utf16 bigEndian, bytes => Text.utf16Marked noChar bigEndian bytes
  | encoding, bytes => encoding.decode bytes
where
  noChar : Char := Char.ofNat 0xFFFF

def decode (bytes : List UInt8) : Option (List Char) :=
  match sniff bytes with
  | some (encoding, rest) => decodeWith encoding rest
  | none => do decodeWith (← declaredEncoding? bytes) bytes

/-! ### Documents -/

inductive DocumentError where
  | malformed
  /-- An element or an attribute has a name that a formula tree cannot have. -/
  | unfitName (name : String)
  deriving DecidableEq, Repr

def DocumentError.message : DocumentError → String
  | malformed => "Failed to parse MathML string"
  | unfitName name => unfitNameMessage name

def root (s : Setting) : Declaring Tree := do
  let ts ← Scan.elementTokens
  -- in content, entities are checked anew
  Declaring.read fun d record => readRoot s d ts { record with fit := [] }

def document (s : Setting) : Declaring Tree := do
  prolog s
  let tree ← root s
  miscellany
  let left ← (get : Scan (List Char))
  Declaring.read fun _ => Reading.finish left
  return tree

/-- The document tree of characters.  It is refused if the last finding is a flaw. -/
def parseChars (replacement : Replacement) (isPlaced : Bool) (cs : List Char) : Option Tree := do
  let (h, behind) ← Scan.header? cs
  let s : Setting :=
    { replacement := replacement
      standalone := h.standalone
      isPlaced := isPlaced
      extent := byteSize cs }
  let findings : Findings := if h.isLater then Findings.note {} .warning else {}
  let (((tree, _), record), _) ← document s {} { findings := findings } behind
  if record.findings.endInFlaw then none else some tree

/-- The document tree of bytes; `isPlaced` tells whether they stand in a file. -/
def parseTree (replacement : Replacement) (bytes : List UInt8) (isPlaced : Bool := false) :
    Option Tree :=
  (decode bytes).bind (parseChars replacement isPlaced)

def parsePlain (bytes : List UInt8) (isPlaced : Bool := false) : Option Tree :=
  (parseTree .within bytes isPlaced).map Tree.withoutMarkers

/-- The formula tree of a document tree, if it has no unfit names. -/
def Tree.formula (t : Tree) : Except DocumentError Element :=
  match t.unfitName? with
  | none => .ok t.toElement
  | some name => .error (.unfitName name)

def parseFormula (bytes : List UInt8) : Except DocumentError Element :=
  match parsePlain bytes with
  | some t => t.formula
  | none => .error .malformed

end FormulaQuery.Xml
