/-
  FormulaQuery/Text/Sink.lean
  ===========================
  **Where text is written.**  A file or an output takes a text if it can encode all of
  it.  A text that it does not take ends the writing, and what was written before that
  stays.
-/
import FormulaQuery.Text.Encoding
import FormulaQuery.Text.Join

namespace FormulaQuery

/-- The characters and halves that can be encoded, by their numbers, and what is said of a text
    with others. -/
structure Sink where
  encodes : Nat → Bool
  complaint : String → String
  encodes_lineEnd : encodes 10 = true

namespace Sink

def unlimited : Sink := ⟨fun _ => true, fun _ => "", rfl⟩

def utf8 : Sink := ⟨fun n => !Text.isHalf n, Text.describeHalf, rfl⟩

def takes (k : Sink) (s : String) : Bool := (Text.unitsOf s).all k.encodes

/-- Writes pieces up to one that is not taken: gives the text that is written, and what is said of
    that piece. -/
def write (k : Sink) (pieces : List String) : String × Option String :=
  (Text.concat (pieces.takeWhile k.takes), (pieces.dropWhile k.takes).head?.map k.complaint)

def print (k : Sink) (texts : List String) : String × Option String :=
  k.write (texts.flatMap fun t => [t, "\n"])

end Sink

end FormulaQuery
