/-
  FormulaQuery/Files/Gzip.lean
  ============================
  **Compressed files.**  A compressed file has members, each with a header, packed bytes
  and a trailer that tells a checksum and the number of the bytes.  What follows the last
  member is passed over, and so is a trailer that is not complete.
-/
import FormulaQuery.Files.Inflate

namespace FormulaQuery.Gzip

open Inflate

def magic : List UInt8 := [0x1F, 0x8B]

/-! ### Checksums -/

/-- A step of the remainder by one bit. -/
def shift (c : UInt32) : UInt32 := if c % 2 = 1 then (c / 2) ^^^ 0xEDB88320 else c / 2

def addByte (c : UInt32) (b : UInt8) : UInt32 :=
  (List.range 8).foldl (fun c _ => shift c) (c ^^^ b.toUInt32)

def checksum (bytes : List UInt8) : Nat := ((bytes.foldl addByte 0xFFFFFFFF) ^^^ 0xFFFFFFFF).toNat

/-! ### Members -/

def byte : Unpack UInt8 := do return (← bits 8).toUInt8

def bytes : (count : Nat) → Unpack (List UInt8)
  | 0 => return []
  | count + 1 => do
    let b ← byte
    return b :: (← bytes count)

/-- The bytes up to a zero, and the zero, at most `fuel` of them. -/
def text : (fuel : Nat) → Unpack (List UInt8)
  | 0 => throw .invalid
  | fuel + 1 => do
    let b ← byte
    if b = 0 then return [b]
    return b :: (← text fuel)

def hasFlag (flags : UInt8) (flag : Nat) : Bool := flags.toNat / flag % 2 = 1

def header : Unpack Unit := do
  let fuel := (← get).packed.size + 1
  let start ← bytes 2
  require (start = magic)
  let method ← byte
  let flags ← byte
  require (method = 8 && flags < 0x20)
  let times ← bytes 6
  let front := start ++ [method, flags] ++ times
  let extra ←
    -- a field that tells its own length
    if hasFlag flags 4 then do
      let size ← bytes 2
      let more ← bytes ((size.getD 0 0).toNat + 256 * (size.getD 1 0).toNat)
      pure (size ++ more)
    else pure []
  let name ← if hasFlag flags 8 then text fuel else pure []
  let remark ← if hasFlag flags 16 then text fuel else pure []
  if hasFlag flags 2 then
    -- the checksum is over all that stands in front of it
    let sum ← bits 16
    require (sum = checksum (front ++ extra ++ name ++ remark) % 0x10000)

def trailer : Unpack Unit := do
  align
  let p ← get
  let own := p.unpacked.toList.drop p.start
  let sum ← bits 32
  require (sum = checksum own)
  let size ← bits 32
  require (size = own.length % 0x100000000)

def atMember : Unpack Bool := do
  let p ← get
  let i := p.position / 8
  return p.packed[i]? = magic[0]? && p.packed[i + 1]? = magic[1]?

/-- The members of a file, at most `fuel` of them. -/
def members : (fuel : Nat) → Unpack Unit
  | 0 => throw .invalid
  | fuel + 1 => do
    header
    unpack
    trailer
    if ← atMember then members fuel

def isCompressed (file : List UInt8) : Bool := magic.isPrefixOf file

/-- The content of a file, unpacked if it is compressed; nothing if it is not what it
    seems to be. -/
def content? (file : List UInt8) : Option (List UInt8) :=
  if isCompressed file then
    let p : Progress := { packed := file.toArray }
    match (members (file.length + 1)).run p with
    | .ok _ p => some p.unpacked.toList
    | .error .truncated p => some p.unpacked.toList
    | .error .invalid _ => none
  else some file

end FormulaQuery.Gzip
