/-
  FormulaQuery/Yaml/Delivery.lean
  ===============================
  **The characters of an option file.**  A file is decoded and checked in portions,
  and a portion is asked for only when it is needed.  So a fault in a later portion
  does not hide what is wrong with the text in front of it.  Portions are counted in
  characters after the ends of lines have been made equal.
-/
import FormulaQuery.Text.Encoding
import FormulaQuery.Yaml.Error
import FormulaQuery.Yaml.Token

namespace FormulaQuery.Yaml

structure Delivery where
  chars : List Char
  fault : Option Error := none

namespace Delivery

def portion : Nat := 4096

def chunk : Nat := 8192

structure Progress where
  rest : List UInt8
  left : List UInt8 := []
  /-- Whether the characters so far end in a carriage return, which may be the first half
      of an end of line and is held back. -/
  isPending : Bool := false
  stock : Nat := 0
  /-- The number of bytes and the number of characters of the last chunk. -/
  ratio : Nat × Nat := (0, 0)
  delivered : Nat := 0

/-- The number of bytes to decode next, if so many characters are wanted: more than
    usual if the last characters took more than two bytes each. -/
def Progress.size (p : Progress) (wanted : Nat) : Nat := max chunk (wanted * p.ratio.1 / p.ratio.2)

/-- Takes in decoded characters: the number of those that are ready, and whether a
    carriage return is held back. -/
def Progress.ready (p : Progress) (cs : List Char) : Nat × Bool :=
  if cs.isEmpty then (0, p.isPending)
  else
    let all := if p.isPending then '\r' :: cs else cs
    let isPending := cs.getLast? == some '\r'
    ((Text.normalizeLines (if isPending then all.dropLast else all)).length, isPending)

/-- The number of portions that are delivered in front of bytes that are not UTF-8, and
    what is wrong with these; none if there are no such bytes. -/
def faultBehind? : Nat → Progress → Option (Nat × String)
  | 0, _ => none
  | fuel + 1, p =>
    -- a portion goes out as soon as it is complete, before more bytes are decoded
    if portion ≤ p.stock then
      faultBehind? fuel { p with stock := p.stock - portion, delivered := p.delivered + 1 }
    else if p.rest.isEmpty then
      if p.left.isEmpty then none else some (p.delivered, Text.describeEnd p.left)
    else
      let bytes := p.rest.take (p.size (portion - p.stock))
      match Text.utf8Portion (p.left ++ bytes) 0 0 [] with
      | .faulty reason => some (p.delivered, reason)
      | .decoded cs left =>
        let (count, isPending) := p.ready cs
        faultBehind? fuel
          { p with
            rest := p.rest.drop bytes.length
            left := left
            isPending := isPending
            stock := p.stock + count
            ratio := (bytes.length, count) }

/-- The characters in front of the first portion with one that may not stand in a file;
    the first two portions are checked as one. -/
def printable : Nat → (size : Nat) → List Char → List Char × Bool
  | 0, _, cs => ([], cs.isEmpty)
  | fuel + 1, size, cs =>
    if cs.isEmpty then ([], true)
    else
      let front := cs.take size
      if front.all isPrintable then
        let (more, isWhole) := printable fuel portion (cs.drop size)
        (front ++ more, isWhole)
      else ([], false)

def ofChars (cs : List Char) (fault : Option Error) : Delivery :=
  let (chars, isWhole) := printable (cs.length + 1) (2 * portion) cs
  ⟨chars, if isWhole then fault else some .malformed⟩

/-- The delivery of the characters of a file; the first two portions are asked for at
    once. -/
def ofBytes (bytes : List UInt8) : Delivery :=
  match Text.decodeUtf8 bytes with
  | some cs => ofChars (Text.normalizeLines cs) none
  | none =>
    match faultBehind? (2 * bytes.length + 2) { rest := bytes } with
    | none => ⟨[], some .malformed⟩
    | some (delivered, reason) =>
      if delivered < 2 then ⟨[], some (.undecodable reason)⟩
      else
        let front := Text.normalizeLines (Text.utf8Front bytes 0 [])
        ofChars (front.take (delivered * portion)) (some (.undecodable reason))

end Delivery

end FormulaQuery.Yaml
