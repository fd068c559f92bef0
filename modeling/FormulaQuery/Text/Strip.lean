/-
  FormulaQuery/Text/Strip.lean
  ============================
  **Stripping of identifiers.**  The number of a topic is stripped of every
  Unicode white space character at its ends, a wider class than the layout of
  formula text: the no-break space and the line separators go too, the
  zero-width space stays.
-/
import FormulaQuery.Text.Range

namespace FormulaQuery.Text

def spaceRanges : Ranges :=
  [(0x09, 0x0D), (0x1C, 0x20), (0x85, 0x85), (0xA0, 0xA0), (0x1680, 0x1680),
   (0x2000, 0x200A), (0x2028, 0x2029), (0x202F, 0x202F), (0x205F, 0x205F),
   (0x3000, 0x3000)]

def isSpace (c : Char) : Bool := spaceRanges.contains c

def strip (s : String) : String :=
  String.ofList ((s.toList.dropWhile isSpace).reverse.dropWhile isSpace).reverse

end FormulaQuery.Text
