/-
  FormulaQuery/Yaml/Token.lean
  ============================
  **The tokens of option files.**  An option file is written in YAML: blocks are
  told by indentation, collections in brackets by their brackets, and a key by
  the colon behind it.
-/

namespace FormulaQuery.Yaml

inductive Token where
  | versionDirective (major : Nat)
  | tagDirective (handle value : String)
  | otherDirective
  | documentStart
  | documentEnd
  | blockSequenceStart
  | blockMappingStart
  | blockEnd
  | flowSequenceStart
  | flowSequenceEnd
  | flowMappingStart
  | flowMappingEnd
  | flowEntry
  | blockEntry
  | key
  | value
  | alias (name : String)
  | anchor (name : String)
  | tag (handle : Option String) (suffix : String)
  | scalar (content : String) (isPlain : Bool)
  deriving DecidableEq, Repr

/-! ### Characters -/

/-- The character that stands for the end of the file. -/
def endMark : Char := Char.ofNat 0

def isPrintable (c : Char) : Bool :=
  let n := c.toNat
  n == 0x09 || n == 0x0A || n == 0x0D || (0x20 ≤ n && n ≤ 0x7E) || n == 0x85 ||
    (0xA0 ≤ n && n ≤ 0xD7FF) || (0xE000 ≤ n && n ≤ 0xFFFD) || 0x10000 ≤ n

def isBreak (c : Char) : Bool :=
  c == '\n' || c == '\r' || c.toNat == 0x85 || c.toNat == 0x2028 || c.toNat == 0x2029

def endsLine (c : Char) : Bool := c == endMark || isBreak c

/-- The end of the file or of a line, or a space. -/
def isGap (c : Char) : Bool := c == ' ' || endsLine c

/-- The end of the file or of a line, a space or a tab. -/
def isWideGap (c : Char) : Bool := c == '\t' || isGap c

def isWordChar (c : Char) : Bool := c.isAlphanum || c == '-' || c == '_'

end FormulaQuery.Yaml
