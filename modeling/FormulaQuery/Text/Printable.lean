/-
  FormulaQuery/Text/Printable.lean
  ================================
  **Quoted text in messages.**  A text inside a message is put in quotes, with
  the quote, the backslash and every character that would not show on a line
  escaped.
-/
import FormulaQuery.Text.Half
import FormulaQuery.Text.Hidden

namespace FormulaQuery.Text

def hex (width n : Nat) : List Char :=
  ((List.range width).map fun i => (Nat.toDigits 16 (n / Nat.pow 16 i % 16)).headD '0').reverse

/-- The escape of a character by its number, as short as it can be. -/
def escapeCode (n : Nat) : List Char :=
  if n < 0x100 then 'x' :: hex 2 n
  else if n < 0x10000 then 'u' :: hex 4 n
  else 'U' :: hex 8 n

def escapeChar (quoteMark c : Char) : List Char :=
  if c = quoteMark || c = '\\' then ['\\', c]
  else if c = '\n' then ['\\', 'n']
  else if c = '\r' then ['\\', 'r']
  else if c = '\t' then ['\\', 't']
  else if isShown c then [c]
  else '\\' :: escapeCode c.toNat

/-- The quote mark for a text: the double quote if the text holds an apostrophe
    and no double quote, the apostrophe otherwise. -/
def quoteMark (s : String) : Char :=
  if s.toList.contains (Char.ofNat 39) && !s.toList.contains (Char.ofNat 34) then Char.ofNat 34
  else Char.ofNat 39

/-- A character or a half inside quotes, by its number. -/
def escapeUnit (quoteMark : Char) (n : Nat) : List Char :=
  if isHalf n then '\\' :: escapeCode n else escapeChar quoteMark (Char.ofNat n)

def inQuotes (s : String) : String :=
  let mark := quoteMark s
  String.ofList (mark :: ((unitsOf s).flatMap (escapeUnit mark) ++ [mark]))

def escapeByte (quoteMark : Char) (b : UInt8) : List Char :=
  if 0x7F ≤ b.toNat then '\\' :: 'x' :: hex 2 b.toNat
  else escapeChar quoteMark (Char.ofNat b.toNat)

def bytesInQuotes (bytes : List UInt8) : String :=
  let mark := quoteMark (String.ofList (bytes.map fun b => Char.ofNat b.toNat))
  String.ofList ('b' :: mark :: (bytes.flatMap (escapeByte mark) ++ [mark]))

end FormulaQuery.Text
