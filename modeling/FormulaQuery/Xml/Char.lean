/-
  FormulaQuery/Xml/Char.lean
  ==========================
  **Character classes of XML documents**: what may stand in a document, what
  separates its parts, and what names are made of.
-/

namespace FormulaQuery.Xml

def inRanges (ranges : List (Nat × Nat)) (n : Nat) : Bool :=
  ranges.any fun r => r.1 ≤ n && n ≤ r.2

def isChar (c : Char) : Bool :=
  let n := c.toNat
  if n < 0x20 then n == 0x09 || n == 0x0A || n == 0x0D
  else n ≤ 0xD7FF || inRanges [(0xE000, 0xFFFD), (0x10000, 0x10FFFF)] n

/-- Space, tab and the ends of lines. -/
def isBlank (c : Char) : Bool := c == ' ' || c == '\n' || c == '\t' || c == '\r'

def nameStartRanges : List (Nat × Nat) :=
  [(0xC0, 0xD6), (0xD8, 0xF6), (0xF8, 0x2FF), (0x370, 0x37D), (0x37F, 0x1FFF), (0x200C, 0x200D),
   (0x2070, 0x218F), (0x2C00, 0x2FEF), (0x3001, 0xD7FF), (0xF900, 0xFDCF), (0xFDF0, 0xFFFD),
   (0x10000, 0xEFFFF)]

def isNcNameStart (c : Char) : Bool :=
  c.isAlpha || c == '_' || (0x80 ≤ c.toNat && inRanges nameStartRanges c.toNat)

def isNcNameChar (c : Char) : Bool :=
  isNcNameStart c || c.isDigit || c == '-' || c == '.' ||
    inRanges [(0xB7, 0xB7), (0x300, 0x36F), (0x203F, 0x2040)] c.toNat

def isNameStart (c : Char) : Bool := isNcNameStart c || c == ':'

def isNameChar (c : Char) : Bool := isNcNameChar c || c == ':'

/-- Whether the characters are a name without colon. -/
def isNcName : List Char → Bool
  | [] => false
  | c :: rest => isNcNameStart c && rest.all isNcNameChar

/-- The value of hexadecimal digits, none if another character is among them. -/
def hexValue? (cs : List Char) : Option Nat :=
  cs.foldlM (fun n c =>
    if c.isDigit then some (n * 16 + (c.toNat - '0'.toNat))
    else if 'a' ≤ c ∧ c ≤ 'f' then some (n * 16 + (c.toNat - 'a'.toNat + 10))
    else if 'A' ≤ c ∧ c ≤ 'F' then some (n * 16 + (c.toNat - 'A'.toNat + 10))
    else none) 0

def decimalValue? (cs : List Char) : Option Nat :=
  cs.foldlM (fun n c => if c.isDigit then some (n * 10 + (c.toNat - '0'.toNat)) else none) 0

end FormulaQuery.Xml
