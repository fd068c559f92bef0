/-
  FormulaQuery/Text/Encoding.lean
  ===============================
  **Characters from bytes.**  Each decoder reads a whole sequence of bytes and
  refuses it if one of them cannot stand where it stands: overlong forms and
  surrogates in UTF-8, unpaired surrogates and odd bytes in UTF-16, bytes above
  127 in ASCII.
-/
import FormulaQuery.Text.Printable

namespace FormulaQuery.Text

inductive Encoding where
  | utf8
  | utf16 (bigEndian : Bool)
  | latin1
  | ascii
  deriving DecidableEq, Repr

def continuation? (b : UInt8) : Option Nat :=
  let n := b.toNat
  if 0x80 ≤ n ∧ n ≤ 0xBF then some (n - 0x80) else none

/-- The character with the given number, if it is one and needs at least `least`. -/
def charFrom? (least n : Nat) : Option Char :=
  if least ≤ n ∧ (n < 0xD800 ∨ (0xDFFF < n ∧ n ≤ 0x10FFFF)) then some (Char.ofNat n) else none

/-- The character at the start of UTF-8 bytes, with the number of bytes that follow
    the first one. -/
def utf8Char? (first : UInt8) (rest : List UInt8) : Option (Char × Nat) :=
  let n := first.toNat
  if n < 0x80 then some (Char.ofNat n, 0)
  else if n < 0xC0 then none
  else if n < 0xE0 then
    match rest with
    | a :: _ => do
      let a ← continuation? a
      return (← charFrom? 0x80 ((n - 0xC0) * 64 + a), 1)
    | [] => none
  else if n < 0xF0 then
    match rest with
    | a :: b :: _ => do
      let a ← continuation? a
      let b ← continuation? b
      return (← charFrom? 0x800 (((n - 0xE0) * 64 + a) * 64 + b), 2)
    | _ => none
  else if n < 0xF8 then
    match rest with
    | a :: b :: c :: _ => do
      let a ← continuation? a
      let b ← continuation? b
      let c ← continuation? c
      return (← charFrom? 0x10000 ((((n - 0xF0) * 64 + a) * 64 + b) * 64 + c), 3)
    | _ => none
  else none

/-- Decodes UTF-8, after passing over `skip` bytes that have been read already;
    the characters read so far are `read`, the last one first. -/
def utf8Loop : List UInt8 → (skip : Nat) → (read : List Char) → Option (List Char)
  | [], _, read => some read.reverse
  | _ :: rest, skip + 1, read => utf8Loop rest skip read
  | b :: rest, 0, read =>
    match utf8Char? b rest with
    | some (c, more) => utf8Loop rest more (c :: read)
    | none => none

/-- The characters in front of the first bytes that are not UTF-8. -/
def utf8Front : List UInt8 → (skip : Nat) → (read : List Char) → List Char
  | [], _, read => read.reverse
  | _ :: rest, skip + 1, read => utf8Front rest skip read
  | b :: rest, 0, read =>
    match utf8Char? b rest with
    | some (c, more) => utf8Front rest more (c :: read)
    | none => read.reverse

/-- The characters of UTF-8 bytes after passing over `skip` of them, with a mark for each
    byte that is not part of a character. -/
def utf8MarkedLoop (mark : Char) : List UInt8 → (skip : Nat) → (read : List Char) → List Char
  | [], _, read => read.reverse
  | _ :: rest, skip + 1, read => utf8MarkedLoop mark rest skip read
  | b :: rest, 0, read =>
    match utf8Char? b rest with
    | some (c, more) => utf8MarkedLoop mark rest more (c :: read)
    | none => utf8MarkedLoop mark rest 0 (mark :: read)

def utf8Marked (mark : Char) (bytes : List UInt8) : List Char := utf8MarkedLoop mark bytes 0 []

def decodeUtf8 (bytes : List UInt8) : Option (List Char) := utf8Loop bytes 0 []

/-- How a character with the given first byte goes on: the number of bytes that
    follow, and the least and the greatest value of the next one. -/
def utf8Shape? (first : UInt8) : Option (Nat × Nat × Nat) :=
  let n := first.toNat
  if n < 0x80 then some (0, 0, 0)
  else if n < 0xC2 then none
  else if n < 0xE0 then some (1, 0x80, 0xBF)
  else if n = 0xE0 then some (2, 0xA0, 0xBF)
  else if n = 0xED then some (2, 0x80, 0x9F)
  else if n < 0xF0 then some (2, 0x80, 0xBF)
  else if n = 0xF0 then some (3, 0x90, 0xBF)
  else if n < 0xF4 then some (3, 0x80, 0xBF)
  else if n = 0xF4 then some (3, 0x80, 0x8F)
  else none

def utf8Fitting (low high : Nat) : (count : Nat) → List UInt8 → Nat
  | 0, _ => 0
  | _, [] => 0
  | count + 1, b :: rest =>
    if low ≤ b.toNat ∧ b.toNat ≤ high then 1 + utf8Fitting 0x80 0xBF count rest else 0

def describeFault (first : UInt8) (position size : Nat) (reason : String) : String :=
  "'utf-8' codec can't decode " ++
  (if size = 1 then
    "byte 0x" ++ String.ofList (hex 2 first.toNat) ++ " in position " ++ toString position
   else "bytes in position " ++ toString position ++ "-" ++ toString (position + size - 1)) ++
  ": " ++ reason

inductive Utf8Outcome where
  | decoded (chars : List Char) (left : List UInt8)
  | faulty (reason : String)

/-- Decodes bytes that more bytes may follow: `skip` bytes have been read already, and
    the characters `read`, the last one first. -/
def utf8Portion : List UInt8 → (skip position : Nat) → (read : List Char) → Utf8Outcome
  | [], _, _, read => .decoded read.reverse []
  | _ :: rest, skip + 1, position, read => utf8Portion rest skip (position + 1) read
  | b :: rest, 0, position, read =>
    match utf8Char? b rest, utf8Shape? b with
    | some (c, more), _ => utf8Portion rest more (position + 1) (c :: read)
    | none, none => .faulty (describeFault b position 1 "invalid start byte")
    | none, some (following, low, high) =>
      let fitting := utf8Fitting low high following rest
      -- the bytes may go on in the next portion
      if fitting = rest.length then .decoded read.reverse (b :: rest)
      else .faulty (describeFault b position (fitting + 1) "invalid continuation byte")

/-- A half that cannot be encoded, or several next to each other, in words. -/
def describeHalf (s : String) : String :=
  let front := (unitsOf s).takeWhile (!isHalf ·)
  let halves := ((unitsOf s).drop front.length).takeWhile isHalf
  let position := front.length
  "'utf-8' codec can't encode " ++
  (match halves with
   | [n] =>
     "character '\\" ++ String.ofList (escapeCode n) ++ "' in position " ++ toString position
   | _ =>
     "characters in position " ++ toString position ++ "-" ++
       toString (position + halves.length - 1)) ++
  ": surrogates not allowed"

def encodeUtf8 (s : String) : List UInt8 := (plain s).toUTF8.toList

/-- Why bytes that are the start of a character are no character at the end of a file. -/
def describeEnd : List UInt8 → String
  | [] => ""
  | b :: rest => describeFault b 0 (rest.length + 1) "unexpected end of data"

def units16 (bigEndian : Bool) : List UInt8 → Option (List Nat)
  | [] => some []
  | [_] => none
  | a :: b :: rest =>
    let unit := if bigEndian then a.toNat * 256 + b.toNat else b.toNat * 256 + a.toNat
    (units16 bigEndian rest).map (unit :: ·)

def decodeUnits16 : List Nat → Option (List Char)
  | [] => some []
  | u :: rest =>
    if u < 0xD800 ∨ 0xDFFF < u then (decodeUnits16 rest).map (Char.ofNat u :: ·)
    else if u < 0xDC00 then
      match rest with
      | v :: rest' =>
        if 0xDC00 ≤ v ∧ v ≤ 0xDFFF then
          (decodeUnits16 rest').map
            (Char.ofNat (0x10000 + (u - 0xD800) * 0x400 + (v - 0xDC00)) :: ·)
        else none
      | [] => none
    else none

/-- The characters of UTF-16 bytes, with a mark for a character that is not complete at
    their end. -/
def utf16Marked (mark : Char) (bigEndian : Bool) (bytes : List UInt8) : Option (List Char) := do
  let whole := bytes.length - bytes.length % 2
  let units ← units16 bigEndian (bytes.take whole)
  match units.getLast? with
  | some u =>
    if 0xD800 ≤ u ∧ u < 0xDC00 then return (← decodeUnits16 units.dropLast) ++ [mark]
    let cs ← decodeUnits16 units
    return if whole = bytes.length then cs else cs ++ [mark]
  | none => return if whole = bytes.length then [] else [mark]

def Encoding.decode : Encoding → List UInt8 → Option (List Char)
  | utf8, bytes => decodeUtf8 bytes
  | utf16 bigEndian, bytes => (units16 bigEndian bytes).bind decodeUnits16
  | latin1, bytes => some (bytes.map fun b => Char.ofNat b.toNat)
  | ascii, bytes =>
    if bytes.all (·.toNat < 0x80) then some (bytes.map fun b => Char.ofNat b.toNat) else none

def Encoding.ofName? (name : String) : Option Encoding :=
  let upper := String.ofList (name.toList.map Char.toUpper)
  if ["UTF-8", "UTF8"].contains upper then some utf8
  else if ["UTF-16", "UTF16", "UTF-16LE"].contains upper then some (utf16 false)
  else if upper = "UTF-16BE" then some (utf16 true)
  else if latin1Names.contains upper then some latin1
  else if asciiNames.contains upper then some ascii
  else none
where
  latin1Names : List String :=
    ["ISO-8859-1", "ISO-LATIN-1", "ISO8859-1", "ISO_8859-1", "ISO-IR-100", "LATIN1", "L1",
     "CSISOLATIN1", "IBM819", "CP819"]
  asciiNames : List String :=
    ["US-ASCII", "ASCII", "US", "CSASCII", "ANSI_X3.4-1968", "ANSI_X3.4-1986", "ISO646-US",
     "ISO-IR-6", "IBM367", "CP367"]

def normalizeLines : List Char → List Char
  | [] => []
  | '\r' :: '\n' :: rest => '\n' :: normalizeLines rest
  | c :: rest => (if c = '\r' then '\n' else c) :: normalizeLines rest

end FormulaQuery.Text
