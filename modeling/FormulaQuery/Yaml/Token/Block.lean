/-
  FormulaQuery/Yaml/Token/Block.lean
  ==================================
  **Texts in blocks.**  Behind a bar or an angle bracket all lines that are indented
  are text.  Behind the angle bracket lines are joined, and signs tell what becomes
  of the line feeds at the end.
-/
import FormulaQuery.Yaml.Token.Scan

namespace FormulaQuery.Yaml

namespace Scan

/-- The lines that follow a line of a block scalar and are empty, up to the given
    indentation. -/
def blankLines (indent : Nat) : Scan (List String) := do
  let skip : Scan Unit := do
    let s ← get
    let blanks := (s.rest.takeWhile (· == ' ')).length
    forward (min blanks (indent - s.column))
  skip
  collect (do
    if isBreak (← peek) then
      let b ← lineBreak
      skip
      return some b
    return none)

/-- The empty lines at the start of a block scalar, and the widest indentation met. -/
def leadingLines : Scan (List String × Nat) := do
  let rec go : Nat → List String → Nat → Scan (List String × Nat)
    | 0, _, _ => refuse
    | fuel + 1, breaks, widest => do
      let c ← peek
      if c == ' ' then
        forward 1
        go fuel breaks (max widest (← get).column)
      else if isBreak c then
        let b ← lineBreak
        go fuel (b :: breaks) widest
      else return (breaks.reverse, widest)
  go (← get).fuel [] 0

inductive Chomping where
  | strip
  | clip
  | keep
  deriving DecidableEq

def chomping? : Scan (Option Chomping) := do
  let c ← peek
  if c == '+' then
    forward 1
    return some .keep
  if c == '-' then
    forward 1
    return some .strip
  return none

def increment? : Scan (Option Nat) := do
  let c ← peek
  if c.isDigit then
    require (c != '0')
    forward 1
    return some (c.toNat - '0'.toNat)
  return none

/-- The lines of a block scalar from its first line on: `breaks` are the empty lines
    in front, and `parts` what has been read, the last part first. -/
def blockLines (folded : Bool) (indent : Nat) :
    Nat → (breaks : List String) → (parts : List String) → Scan (List String × String × List String)
  | 0, _, _ => refuse
  | fuel + 1, breaks, parts => do
    let startsText := !((← peek) == ' ' || (← peek) == '\t')
    let line ← run (!endsLine ·)
    let parts := line :: (breaks.reverse ++ parts)
    let b ← lineBreak
    let breaks ← blankLines indent
    if (← get).column == indent && (← peek) != endMark then
      let next ← peek
      -- lines are folded into one unless one of them is indented further
      if folded && b == "\n" && startsText && !(next == ' ' || next == '\t') then
        blockLines folded indent fuel breaks (if breaks.isEmpty then " " :: parts else parts)
      else blockLines folded indent fuel breaks (b :: parts)
    else return (parts, b, breaks)

def blockScalar (folded : Bool) : Scan Token := do
  forward 1
  let (chomping, increment) ← do
    -- the two signs may stand in either order
    match ← chomping? with
    | some c => pure (c, ← increment?)
    | none =>
      let i ← increment?
      if i.isSome then pure ((← chomping?).getD .clip, i) else pure (.clip, i)
  require (isGap (← peek))
  spaces
  if (← peek) == '#' then restOfLine
  require (endsLine (← peek))
  let _ ← lineBreak
  let least := max 1 (((← get).indent + 1).toNat)
  let (breaks, indent) ← match increment with
    | none => do
      let (breaks, widest) ← leadingLines
      pure (breaks, max least widest)
    | some i => do
      let indent := least + i - 1
      pure (← blankLines indent, indent)
  let (parts, lastBreak, breaks) ←
    if (← get).column == indent && (← peek) != endMark then
      blockLines folded indent (← get).fuel breaks []
    else pure ([], "", breaks)
  let parts := if chomping != .strip then lastBreak :: parts else parts
  let parts := if chomping == .keep then breaks.reverse ++ parts else parts
  return .scalar (glue parts.reverse) false

end Scan

end FormulaQuery.Yaml
