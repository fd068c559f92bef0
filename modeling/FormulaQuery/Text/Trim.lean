/-
  FormulaQuery/Text/Trim.lean
  ===========================
  **Trimming of formula text.**  Control characters and the ASCII space around
  a text are layout; every other character, the no-break and the other Unicode
  spaces included, is content.  Trimming removes the layout at both ends and
  nothing else, and a text is blank when nothing but layout is in it.
-/

namespace FormulaQuery.Text

/-- The characters that trimming removes: U+0000 to U+0020. -/
def isLayout (c : Char) : Bool := c.toNat ≤ 0x20

def trimChars (cs : List Char) : List Char :=
  ((cs.dropWhile isLayout).reverse.dropWhile isLayout).reverse

def trim (s : String) : String := String.ofList (trimChars s.toList)

def isBlank (s : String) : Bool := s.toList.all isLayout

end FormulaQuery.Text
