/-
  FormulaQuery/Text/Base64.lean
  =============================
  **Bytes as text.**  Four letters stand for three bytes.  Characters that are no
  letters are passed over; equals signs that fill up the last four letters end the
  text.
-/

namespace FormulaQuery.Text

def sextet? (c : Char) : Option Nat :=
  if 'A' ≤ c ∧ c ≤ 'Z' then some (c.toNat - 65)
  else if 'a' ≤ c ∧ c ≤ 'z' then some (c.toNat - 97 + 26)
  else if '0' ≤ c ∧ c ≤ '9' then some (c.toNat - 48 + 52)
  else if c = '+' then some 62
  else if c = '/' then some 63
  else none

/-- The bytes of letters, the first of which come behind `place` letters of their four;
    `left` are the bits not used yet, `pads` the equals signs met, and `read` the bytes
    so far, the last one first.  Letters that end amid their four give none. -/
def base64Loop : List Char → (place left pads : Nat) → (read : List UInt8) → Option (List UInt8)
  | [], place, _, _, read => if place = 0 then some read.reverse else none
  | c :: rest, place, left, pads, read =>
    if c = '=' then
      -- equals signs at other places do not count, nor does what is no letter
      if 2 ≤ place then
        if 4 ≤ place + pads + 1 then some read.reverse
        else base64Loop rest place left (pads + 1) read
      else base64Loop rest place left pads read
    else
      match sextet? c with
      | none => base64Loop rest place left pads read
      | some n =>
        match place with
        | 0 => base64Loop rest 1 n 0 read
        | 1 => base64Loop rest 2 (n % 16) 0 ((left * 4 + n / 16).toUInt8 :: read)
        | 2 => base64Loop rest 3 (n % 4) 0 ((left * 16 + n / 4).toUInt8 :: read)
        | _ => base64Loop rest 0 0 0 ((left * 64 + n).toUInt8 :: read)

def decodeBase64 (cs : List Char) : Option (List UInt8) := base64Loop cs 0 0 0 []

end FormulaQuery.Text
