/-
  FormulaQuery/Yaml/Token/Inline.lean
  ===================================
  **Texts in lines.**  A text between quotation marks ends at its mark, a plain text
  where something else begins.  A line break inside stands for a space, and an empty
  line for a line feed.
-/
import FormulaQuery.Text.Half
import FormulaQuery.Yaml.Token.Scan

namespace FormulaQuery.Yaml

namespace Scan

/-- What a line break inside of a scalar stands for: a space, or the empty lines
    behind it. -/
def foldBreak (b : String) (breaks : List String) : String :=
  (if b != "\n" then b else if breaks.isEmpty then " " else "") ++ glue breaks

/-! ### Quoted texts -/

def quotedBreaks : Scan (List String) :=
  collect (do
    require !(← atAnySeparator)
    let _ ← run fun c => c == ' ' || c == '\t'
    if isBreak (← peek) then return some (← lineBreak)
    return none)

def quotedSpaces : Scan String := do
  let blanks ← run fun c => c == ' ' || c == '\t'
  let c ← peek
  require (c != endMark)
  if isBreak c then
    let b ← lineBreak
    return foldBreak b (← quotedBreaks)
  return blanks

def escape? (c : Char) : Option Char :=
  match c with
  | '0' => some (Char.ofNat 0)
  | 'a' => some (Char.ofNat 7)
  | 'b' => some (Char.ofNat 8)
  | 't' => some '\t'
  | '\t' => some '\t'
  | 'n' => some '\n'
  | 'v' => some (Char.ofNat 11)
  | 'f' => some (Char.ofNat 12)
  | 'r' => some '\r'
  | 'e' => some (Char.ofNat 27)
  | ' ' => some ' '
  | '/' => some '/'
  | 'N' => some (Char.ofNat 0x85)
  | '_' => some (Char.ofNat 0xA0)
  | 'L' => some (Char.ofNat 0x2028)
  | 'P' => some (Char.ofNat 0x2029)
  | _ => if c.toNat == 34 || c.toNat == 92 then some c else none

/-- The number of hexadecimal digits behind a letter that announces them. -/
def codeLength? (c : Char) : Option Nat :=
  match c with
  | 'x' => some 2
  | 'u' => some 4
  | 'U' => some 8
  | _ => none

/-- The text of the character or half with a number of the given length. -/
def codedChar (length : Nat) : Scan String := do
  let n ← hexAhead length 0 0
  if 0x7FFFFFFF < n then throw .hugeNumber
  if 0x10FFFF < n then throw (.badValue "chr() arg not in range(0x110000)")
  forward length
  return String.ofList (Text.keep n)

def quotedPiece (double : Bool) : Scan (Option String) := do
  let apostrophe := Char.ofNat 39
  let mark := Char.ofNat 34
  let backslash := Char.ofNat 92
  let plain ← run fun c =>
    !(c == apostrophe || c == mark || c == backslash || c == '\t' || isGap c)
  if plain != "" then return some plain
  let c ← peek
  if ← testIf (!double && c == apostrophe) (do return (← peekAt 1) == apostrophe) then
    forward 2
    return some (String.ofList [apostrophe])
  if (double && c == apostrophe) || (!double && (c == mark || c == backslash)) then
    forward 1
    return some (String.ofList [c])
  if double && c == backslash then
    forward 1
    let e ← peek
    match escape? e, codeLength? e with
    | some r, _ =>
      forward 1
      return some (String.ofList [r])
    | none, some length =>
      forward 1
      return some (← codedChar length)
    | none, none =>
      require (isBreak e)
      let _ ← lineBreak
      return some (glue (← quotedBreaks))
  return none

def quotedScalar (double : Bool) : Scan Token := do
  let mark := Char.ofNat (if double then 34 else 39)
  forward 1
  let front ← collect (quotedPiece double)
  let parts ← collect (do
    if (← peek) == mark then return none
    let blanks ← quotedSpaces
    let pieces ← collect (quotedPiece double)
    return some (blanks ++ glue pieces))
  forward 1
  return .scalar (glue front ++ glue parts) false

/-! ### Plain texts -/

def plainRun (inFlow : Bool) : List Char → List Char
  | [] => []
  | c :: rest =>
    let next := rest.headD endMark
    if isWideGap c || (inFlow && ",?[]\x7b\x7d".toList.contains c) ||
      (c == ':' && (isWideGap next || (inFlow && ",[]\x7b\x7d".toList.contains next))) then []
    else c :: plainRun inFlow rest

/-- Spaces and line breaks inside a plain scalar: `none` where the scalar ends at a
    document separator. -/
def plainSpaces : Scan (Option String) := do
  let blanks ← run (· == ' ')
  if isBreak (← peek) then
    let b ← lineBreak
    allowKey true
    if ← atAnySeparator then return none
    let rec go : Nat → List String → Scan (Option (List String))
      | 0, _ => refuse
      | fuel + 1, seen => do
        let c ← peek
        if c == ' ' then
          forward 1
          go fuel seen
        else if isBreak c then
          let next ← lineBreak
          if ← atAnySeparator then return none
          go fuel (next :: seen)
        else return some seen.reverse
    match ← go (← get).fuel [] with
    | some breaks => return some (foldBreak b breaks)
    | none => return none
  return some blanks

/-- A plain scalar: `gap` stands between what has been read and what follows. -/
def plainParts : Nat → (gap : String) → (parts : List String) → Scan (List String)
  | 0, _, _ => refuse
  | fuel + 1, gap, parts => do
    let s ← get
    if (← peek) == '#' then return parts
    let cs := plainRun (s.flowLevel != 0) s.rest
    let behind := s.rest.drop cs.length
    -- more characters could change where the scalar ends
    if behind.isEmpty || behind == [':'] then requireEnd
    if cs.isEmpty then return parts
    allowKey false
    forward cs.length
    let parts := String.ofList cs :: gap :: parts
    match ← plainSpaces with
    | none => return parts
    | some gap =>
      let t ← get
      if gap == "" || (← peek) == '#' || (t.flowLevel == 0 && (t.column : Int) < s.indent + 1) then
        return parts
      plainParts fuel gap parts

def plainScalar : Scan Token := do
  let parts ← plainParts (← get).fuel "" []
  return .scalar (glue parts.reverse) true

end Scan

end FormulaQuery.Yaml
