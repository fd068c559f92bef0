/-
  FormulaQuery/Text/Half.lean
  ===========================
  **Halves of characters.**  In sixteen-bit units a character beyond the first plane has
  two halves.  An option file may name a half by its number, and then the half is a part
  of the text by itself, whatever stands next to it.

  A text keeps a half as two characters: a sign that means nothing else, and a character
  for the half.  The character that is the sign is kept twice.  So no two texts are kept
  alike: `units` gives the numbers of what a text is made of, and `keep` goes back.
-/

namespace FormulaQuery.Text

def halfSign : Char := Char.ofNat 0xFFFF

def isHalf (n : Nat) : Bool := 0xD800 ≤ n && n ≤ 0xDFFF

def halfShift : Nat := 0x800

/-- The characters that keep a character or a half, by its number. -/
def keep (n : Nat) : List Char :=
  if isHalf n then [halfSign, Char.ofNat (n + halfShift)]
  else if n = halfSign.toNat then [halfSign, halfSign]
  else [Char.ofNat n]

def keepAll (cs : List Char) : String := String.ofList (cs.flatMap fun c => keep c.toNat)

/-- The numbers of the characters and halves that characters keep. -/
def units : List Char → List Nat
  | [] => []
  | [c] => [c.toNat]
  | c :: d :: rest =>
    if c = halfSign then
      (if d = halfSign then d.toNat else d.toNat - halfShift) :: units rest
    else c.toNat :: units (d :: rest)

def unitsOf (s : String) : List Nat := units s.toList

def holdsHalf (s : String) : Bool := (unitsOf s).any isHalf

/-- A text as characters; a half is shown by a character that stands for what is not
    known. -/
def plain (s : String) : String :=
  String.ofList ((unitsOf s).map fun n => if isHalf n then Char.ofNat 0xFFFD else Char.ofNat n)

end FormulaQuery.Text
