/-
  FormulaQuery/Yaml/Token/Scan.lean
  =================================
  **Reading a file character by character.**  A scan keeps track of the line and the
  column, of the blocks that are open, and of the places where a key may stand.

  A key is known as such only when its colon is met, so a place where a key may
  stand is noted, and the tokens that open the key and its mapping are put in
  there once the colon comes.
-/
import FormulaQuery.Yaml.Error
import FormulaQuery.Yaml.Token

namespace FormulaQuery.Yaml

structure KeyPlace where
  /-- The number of tokens in front of it. -/
  position : Nat
  /-- Whether nothing else than a key can stand there. -/
  isRequired : Bool
  index : Nat
  line : Nat
  column : Nat

structure State where
  rest : List Char
  /-- A bound for the steps in a row that each take a character off. -/
  fuel : Nat
  /-- Why there is nothing behind these characters, if that is not the end of the file. -/
  fault : Option Error := none
  index : Nat := 0
  line : Nat := 0
  column : Nat := 0
  flowLevel : Nat := 0
  /-- The column of the innermost block, -1 outside of all blocks. -/
  indent : Int := -1
  indents : List Int := []
  allowKey : Bool := true
  /-- The places where a key may stand, by the number of open brackets. -/
  keyPlaces : List (Nat × KeyPlace) := []
  tokens : Array Token := #[]

/-- Whether a place is on an earlier line or too far back. -/
def State.isStale (s : State) (k : KeyPlace) : Bool := k.line != s.line || s.index - k.index > 1024

abbrev Scan := StateT State (Except Error)

namespace Scan

def refuse {α : Type} : Scan α := throw .malformed

def require (condition : Bool) : Scan Unit := if condition then pure () else refuse

/-- Fails if nothing is known of what stands behind the characters. -/
def requireEnd : Scan Unit := do
  match (← get).fault with
  | some e => throw e
  | none => return ()

def peekAt (k : Nat) : Scan Char := do
  match (← get).rest[k]? with
  | some c => return c
  | none =>
    requireEnd
    return endMark

def peek : Scan Char := peekAt 0

def ahead (k : Nat) : Scan String := do
  let cs := (← get).rest.take k
  if cs.length < k then requireEnd
  return String.ofList cs

def hexDigit? (c : Char) : Option Nat :=
  if c.isDigit then some (c.toNat - '0'.toNat)
  else if 'a' ≤ c ∧ c ≤ 'f' then some (c.toNat - 'a'.toNat + 10)
  else if 'A' ≤ c ∧ c ≤ 'F' then some (c.toNat - 'A'.toNat + 10)
  else none

/-- The number that the next `count` characters stand for in hexadecimal; they are looked
    at one after the other, from the given place on. -/
def hexAhead : (count k n : Nat) → Scan Nat
  | 0, _, n => return n
  | count + 1, k, n => do
    match hexDigit? (← peekAt k) with
    | some d => hexAhead count (k + 1) (n * 16 + d)
    | none => refuse

def advance (s : State) : State :=
  match s.rest with
  | [] => s
  | c :: rest =>
    if isBreak c && !(c == '\r' && rest.head? == some '\n') then
      { s with rest := rest, index := s.index + 1, line := s.line + 1, column := 0 }
    else
      { s with
        rest := rest
        index := s.index + 1
        column := if c.toNat == 0xFEFF then s.column else s.column + 1 }

/-- Goes past the next `count` characters; the one behind them is asked for, too. -/
def forward (count : Nat) : Scan Unit := do
  if ((← get).rest.drop count).isEmpty then requireEnd
  modify fun s => Nat.repeat advance count s

def run (p : Char → Bool) : Scan String := do
  let cs := (← get).rest.takeWhile p
  forward cs.length
  return String.ofList cs

def spaces : Scan Unit := do let _ ← run (· == ' ')

/-- Takes off the end of a line, if it is there: a line feed, or a separator as it is. -/
def lineBreak : Scan String := do
  let c ← peek
  if isBreak c && c != endMark then
    if (← ahead 2) == "\r\n" then forward 2 else forward 1
    return if c.toNat == 0x2028 || c.toNat == 0x2029 then String.ofList [c] else "\n"
  else return ""

def restOfLine : Scan Unit := do let _ ← run (!endsLine ·)

def emit (t : Token) : Scan Unit := modify fun s => { s with tokens := s.tokens.push t }

/-- Puts a token in at an earlier place. -/
def emitAt (position : Nat) (t : Token) : Scan Unit :=
  modify fun s => { s with tokens := s.tokens.insertIdxIfInBounds position t }

def testIf (condition : Bool) (test : Scan Bool) : Scan Bool := if condition then test else pure false

def gapAt (k : Nat) : Scan Bool := do return isWideGap (← peekAt k)

def atSeparator (marks : List String) : Scan Bool := do
  let front ← ahead 3
  testIf (marks.contains front) (gapAt 3)

def atAnySeparator : Scan Bool := atSeparator ["---", "..."]

/-- Runs a step until it gives nothing, at most once for each remaining character
    and one time more; what it gave is collected. -/
def collect (step : Scan (Option String)) : Scan (List String) := do
  let rec go : Nat → List String → Scan (List String)
    | 0, _ => refuse
    | fuel + 1, seen => do
      match ← step with
      | none => return seen.reverse
      | some s => go fuel (s :: seen)
  go (← get).fuel []

def glue (parts : List String) : String := String.join parts

/-! ### Indentation and keys -/

/-- Closes the blocks that are indented further than a column; inside of brackets
    there are none. -/
def unwind (column : Int) : Scan Unit := do
  let s ← get
  if s.flowLevel = 0 then
    let closed := (s.indent :: s.indents).takeWhile (column < ·)
    match (s.indent :: s.indents).drop closed.length with
    | indent :: indents =>
      set { s with
        indent := indent
        indents := indents
        tokens := closed.foldl (fun ts _ => ts.push Token.blockEnd) s.tokens }
    | [] => refuse

/-- Opens a block at a column, if it is indented further than the current one. -/
def indentTo (column : Nat) : Scan Bool := do
  let s ← get
  if s.indent < column then
    set { s with indent := column, indents := s.indent :: s.indents }
    return true
  return false

/-- Gives up the place for a key among the current brackets; a required key must
    not be given up. -/
def dropKeyPlace : Scan Unit := do
  let s ← get
  match s.keyPlaces.lookup s.flowLevel with
  | some place => require !place.isRequired
  | none => pure ()
  set { s with keyPlaces := s.keyPlaces.filter fun k => k.1 != s.flowLevel }

def noteKeyPlace : Scan Unit := do
  if (← get).allowKey then
    dropKeyPlace
    let s ← get
    let place : KeyPlace :=
      { position := s.tokens.size
        isRequired := s.flowLevel == 0 && s.indent == s.column
        index := s.index
        line := s.line
        column := s.column }
    set { s with keyPlaces := (s.flowLevel, place) :: s.keyPlaces }

def dropStaleKeyPlaces : Scan Unit := do
  let s ← get
  require !(s.keyPlaces.any fun k => s.isStale k.2 && k.2.isRequired)
  set { s with keyPlaces := s.keyPlaces.filter fun k => !s.isStale k.2 }

def allowKey (allowed : Bool) : Scan Unit := modify fun s => { s with allowKey := allowed }

end Scan

end FormulaQuery.Yaml
