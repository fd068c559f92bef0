/-
  FormulaQuery/Files/Inflate.lean
  ===============================
  **Packed bytes.**  Packed bytes are read bit by bit, each byte from its lowest bit on.
  They come in blocks: a block holds bytes as they are, or symbols for bytes and for
  repetitions of what stands further in front.  Symbols have prefix codes, which are
  known or stand at the start of the block; a prefix code is told by the lengths of its
  words alone.

  The bytes may end early.  Then what has been unpacked so far is kept, while it is
  thrown away if the bytes are not packed bytes at all.
-/

namespace FormulaQuery.Inflate

inductive Stop where
  | truncated
  | invalid
  deriving DecidableEq, Repr

structure Progress where
  packed : Array UInt8
  position : Nat := 0
  unpacked : Array UInt8 := #[]
  /-- The number of bytes that were unpacked before and cannot be repeated. -/
  start : Nat := 0
  deriving Repr

/-- A step that unpacks; what has been unpacked stays when it stops. -/
abbrev Unpack := EStateM Stop Progress

def require (condition : Bool) : Unpack Unit := if condition then pure () else throw .invalid

/-! ### Bits -/

def bit : Unpack Nat := do
  let p ← get
  match p.packed[p.position / 8]? with
  | none => throw .truncated
  | some b =>
    set { p with position := p.position + 1 }
    return b.toNat / Nat.pow 2 (p.position % 8) % 2

/-- The number that the next bits stand for, the lowest bit first. -/
def bits : (count : Nat) → Unpack Nat
  | 0 => return 0
  | count + 1 => do
    let low ← bit
    return low + 2 * (← bits count)

def align : Unpack Unit := modify fun p => { p with position := (p.position + 7) / 8 * 8 }

def emit (b : UInt8) : Unpack Unit := modify fun p => { p with unpacked := p.unpacked.push b }

/-- Repeats bytes that stand the given distance in front. -/
def repeatBytes (distance : Nat) : (count : Nat) → Unpack Unit
  | 0 => return ()
  | count + 1 => do
    let p ← get
    emit (p.unpacked.getD (p.unpacked.size - distance) 0)
    repeatBytes distance count

/-! ### Prefix codes -/

/-- A prefix code: for each length of words from one on the number of words, and the
    symbols in the order of their words. -/
structure Code where
  counts : List Nat
  symbols : Array Nat
  deriving Repr

def maxLength : Nat := 15

/-- The code with words of the given lengths; a symbol of length zero has none. -/
def Code.ofLengths (lengths : List Nat) : Code :=
  let longest := max 1 (lengths.foldl max 0)
  let indexed := lengths.zipIdx
  { counts := (List.range longest).map fun l => lengths.count (l + 1)
    symbols := ((List.range longest).flatMap fun l =>
      (indexed.filter fun p => p.1 = l + 1).map Prod.snd).toArray }

/-- How much of all words the words of the given lengths take up, in units of the
    longest. -/
def share (lengths : List Nat) : Nat :=
  (lengths.map fun l => if l = 0 then 0 else Nat.pow 2 (maxLength - l)).foldl (· + ·) 0

/-- Whether lengths make up a code: the words take up all that there is.  There may be no
    word at all, and for some purposes a single one of length one. -/
def areLengths (singleAllowed : Bool) (lengths : List Nat) : Bool :=
  let longest := lengths.foldl max 0
  longest = 0 || share lengths = Nat.pow 2 maxLength ||
    singleAllowed && longest = 1 && share lengths < Nat.pow 2 maxLength

/-- The next symbol: `word` is the word so far, `first` the first word of this length, and
    `index` the number of shorter words. -/
def Code.nextSymbol (symbols : Array Nat) :
    (counts : List Nat) → (word first index : Nat) → Unpack Nat
  | [], _, _, _ => throw .invalid
  | count :: counts, word, first, index => do
    let word := word + (← bit)
    if word < first + count then return symbols.getD (index + (word - first)) 0
    nextSymbol symbols counts (2 * word) (2 * (first + count)) (index + count)

def Code.next (c : Code) : Unpack Nat := nextSymbol c.symbols c.counts 0 0 0

/-! ### Blocks -/

/-- The least length of each length symbol, and the number of bits that tell the rest. -/
def lengthTable : List (Nat × Nat) :=
  [(3, 0), (4, 0), (5, 0), (6, 0), (7, 0), (8, 0), (9, 0), (10, 0), (11, 1), (13, 1), (15, 1),
   (17, 1), (19, 2), (23, 2), (27, 2), (31, 2), (35, 3), (43, 3), (51, 3), (59, 3), (67, 4),
   (83, 4), (99, 4), (115, 4), (131, 5), (163, 5), (195, 5), (227, 5), (258, 0)]

/-- The least distance of each distance symbol, and the number of bits that tell the
    rest. -/
def distanceTable : List (Nat × Nat) :=
  [(1, 0), (2, 0), (3, 0), (4, 0), (5, 1), (7, 1), (9, 2), (13, 2), (17, 3), (25, 3), (33, 4),
   (49, 4), (65, 5), (97, 5), (129, 6), (193, 6), (257, 7), (385, 7), (513, 8), (769, 8),
   (1025, 9), (1537, 9), (2049, 10), (3073, 10), (4097, 11), (6145, 11), (8193, 12), (12289, 12),
   (16385, 13), (24577, 13)]

/-- The number that a symbol and the bits behind it stand for. -/
def amount (table : List (Nat × Nat)) (symbol : Nat) : Unpack Nat :=
  match table[symbol]? with
  | some (least, more) => do return least + (← bits more)
  | none => throw .invalid

def endSymbol : Nat := 256

def symbols (literals distances : Code) : (fuel : Nat) → Unpack Unit
  | 0 => throw .invalid
  | fuel + 1 => do
    let symbol ← literals.next
    if symbol = endSymbol then return ()
    if symbol < endSymbol then emit symbol.toUInt8
    else
      let count ← amount lengthTable (symbol - endSymbol - 1)
      let distance ← amount distanceTable (← distances.next)
      let p ← get
      require (distance ≤ p.unpacked.size - p.start)
      repeatBytes distance count
    symbols literals distances fuel

def fixedLiterals : Code :=
  Code.ofLengths
    (List.replicate 144 8 ++ List.replicate 112 9 ++ List.replicate 24 7 ++ List.replicate 8 8)

def fixedDistances : Code := Code.ofLengths (List.replicate 32 5)

/-- The order in which the lengths of the words for lengths are given. -/
def lengthOrder : List Nat := [16, 17, 18, 0, 8, 7, 9, 6, 10, 5, 11, 4, 12, 3, 13, 2, 14, 1, 15]

/-- Lengths of words, `total` of them; those so far are in `seen`, the last one first. -/
def lengths (code : Code) (total : Nat) : (fuel : Nat) → (seen : List Nat) → Unpack (List Nat)
  | 0, _ => throw .invalid
  | fuel + 1, seen => do
    if total ≤ seen.length then
      require (seen.length = total)
      return seen.reverse
    let symbol ← code.next
    if symbol < 16 then lengths code total fuel (symbol :: seen)
    else
      -- 16 repeats the last length, 17 and 18 repeat zero
      let (again, count) ←
        if symbol = 16 then do
          require !seen.isEmpty
          pure (seen.headD 0, 3 + (← bits 2))
        else if symbol = 17 then do pure (0, 3 + (← bits 3))
        else do pure (0, 11 + (← bits 7))
      lengths code total fuel (List.replicate count again ++ seen)

def ownCodes : Unpack (Code × Code) := do
  let literalCount := 257 + (← bits 5)
  let distanceCount := 1 + (← bits 5)
  let given := 4 + (← bits 4)
  require (literalCount ≤ 286 && distanceCount ≤ 30)
  let widths ← (List.range given).mapM fun _ => bits 3
  let order := lengthOrder.zip widths
  -- lengths that are not given are zero
  let own := (List.range 19).map fun symbol => (order.lookup symbol).getD 0
  require (areLengths false own)
  let total := literalCount + distanceCount
  let all ← lengths (Code.ofLengths own) total (total + 1) []
  let literals := all.take literalCount
  let distances := all.drop literalCount
  -- without a word for it the block could not end
  require (literals.getD endSymbol 0 != 0)
  require (areLengths true literals && areLengths true distances)
  return (Code.ofLengths literals, Code.ofLengths distances)

def storedBytes : (count : Nat) → Unpack Unit
  | 0 => return ()
  | count + 1 => do
    emit (← bits 8).toUInt8
    storedBytes count

def stored : Unpack Unit := do
  align
  let count ← bits 16
  require ((← bits 16) = 0xFFFF - count)
  storedBytes count

def block (fuel : Nat) : Unpack Bool := do
  let isLast ← bit
  match ← bits 2 with
  | 0 => stored
  | 1 => symbols fixedLiterals fixedDistances fuel
  | 2 =>
    let (literals, distances) ← ownCodes
    symbols literals distances fuel
  | _ => throw .invalid
  return isLast = 1

def blocks (fuel : Nat) : (count : Nat) → Unpack Unit
  | 0 => throw .invalid
  | count + 1 => do
    if ← block fuel then return ()
    blocks fuel count

/-- All that is packed together.  Each block and each symbol takes at least one bit. -/
def unpack : Unpack Unit := do
  let fuel := 8 * (← get).packed.size + 1
  modify fun p => { p with start := p.unpacked.size }
  blocks fuel fuel

end FormulaQuery.Inflate
