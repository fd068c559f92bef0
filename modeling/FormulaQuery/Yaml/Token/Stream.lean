/-
  FormulaQuery/Yaml/Token/Stream.lean
  ===================================
  **All tokens of a file.**  The first character of a token tells its kind, apart
  from plain texts, which are what is left.
-/
import FormulaQuery.Yaml.Delivery
import FormulaQuery.Yaml.Token.Block
import FormulaQuery.Yaml.Token.Inline
import FormulaQuery.Yaml.Token.Label

namespace FormulaQuery.Yaml

namespace Scan

def toNextToken : Scan Unit := do
  let s ← get
  if s.index == 0 && (← peek).toNat == 0xFEFF then forward 1
  let _ ← collect (do
    spaces
    if (← peek) == '#' then restOfLine
    if (← lineBreak) != "" then
      if (← get).flowLevel = 0 then allowKey true
      return some ""
    return none)

def separator (t : Token) : Scan Unit := do
  unwind (-1)
  dropKeyPlace
  allowKey false
  forward 3
  emit t

def flowStart (t : Token) : Scan Unit := do
  noteKeyPlace
  modify fun s => { s with flowLevel := s.flowLevel + 1 }
  allowKey true
  forward 1
  emit t

def flowEnd (t : Token) : Scan Unit := do
  dropKeyPlace
  require ((← get).flowLevel != 0)
  modify fun s => { s with flowLevel := s.flowLevel - 1 }
  allowKey false
  forward 1
  emit t

def flowEntry : Scan Unit := do
  allowKey true
  dropKeyPlace
  forward 1
  emit .flowEntry

/-- The start of a block, if one starts in this column. -/
def blockStart (t : Token) : Scan Unit := do
  if (← get).flowLevel = 0 then
    require (← get).allowKey
    if ← indentTo (← get).column then emit t

def blockEntry : Scan Unit := do
  blockStart .blockSequenceStart
  allowKey true
  dropKeyPlace
  forward 1
  emit .blockEntry

def explicitKey : Scan Unit := do
  blockStart .blockMappingStart
  allowKey ((← get).flowLevel == 0)
  dropKeyPlace
  forward 1
  emit .key

def mappingValue : Scan Unit := do
  let s ← get
  match s.keyPlaces.lookup s.flowLevel with
  | some place =>
    set { s with keyPlaces := s.keyPlaces.filter fun k => k.1 != s.flowLevel }
    -- only now it shows that what stands there is a key
    emitAt place.position .key
    if s.flowLevel = 0 then
      if ← indentTo place.column then emitAt place.position .blockMappingStart
    allowKey false
  | none =>
    blockStart .blockMappingStart
    allowKey ((← get).flowLevel == 0)
    dropKeyPlace
  forward 1
  emit .value

/-- A token that may be a key. -/
def keyable (token : Scan Token) : Scan Unit := do
  noteKeyPlace
  allowKey false
  emit (← token)

/-- The characters that cannot start a plain scalar, the gaps apart. -/
def isIndicator (c : Char) : Bool :=
  "-?:,[]\x7b\x7d#&*!|>%@".toList.contains c || c == Char.ofNat 34 || c == Char.ofNat 39 ||
    c == Char.ofNat 96

/-- Whether a plain scalar starts with a character that stands here. -/
def startsPlain (c : Char) (inFlow : Bool) : Scan Bool := do
  if !(isWideGap c || isIndicator c) then return true
  if ← gapAt 1 then return false
  return c == '-' || (!inFlow && (c == '?' || c == ':'))

def token (c : Char) : Scan Unit := do
  let s ← get
  let inFlow := s.flowLevel != 0
  let atStart := s.column == 0
  if c == '%' && atStart then
    unwind (-1)
    dropKeyPlace
    allowKey false
    emit (← directive)
  else if ← testIf (c == '-' && atStart) (atSeparator ["---"]) then separator .documentStart
  else if ← testIf (c == '.' && atStart) (atSeparator ["..."]) then separator .documentEnd
  else if c == '[' then flowStart .flowSequenceStart
  else if c == '\x7b' then flowStart .flowMappingStart
  else if c == ']' then flowEnd .flowSequenceEnd
  else if c == '\x7d' then flowEnd .flowMappingEnd
  else if c == ',' then flowEntry
  else if ← testIf (c == '-') (gapAt 1) then blockEntry
  else if ← testIf (c == '?') (if inFlow then pure true else gapAt 1) then explicitKey
  else if ← testIf (c == ':') (if inFlow then pure true else gapAt 1) then mappingValue
  else if c == '*' then keyable (do return .alias (← anchorName))
  else if c == '&' then keyable (do return .anchor (← anchorName))
  else if c == '!' then keyable tag
  else if (c == '|' || c == '>') && !inFlow then
    allowKey true
    dropKeyPlace
    emit (← blockScalar (c == '>'))
  else if c == Char.ofNat 39 then keyable (quotedScalar false)
  else if c == Char.ofNat 34 then keyable (quotedScalar true)
  else if ← startsPlain c inFlow then keyable plainScalar
  else refuse

def next : Scan Bool := do
  dropStaleKeyPlaces
  toNextToken
  dropStaleKeyPlaces
  unwind (← get).column
  let c ← peek
  if c == endMark then
    unwind (-1)
    dropKeyPlace
    return false
  token c
  return true

/-- The tokens that are settled: a token where a key may stand is not, since a token may
    still be put in there. -/
def settled (s : State) : List Token :=
  let places := (s.keyPlaces.filter fun k => !s.isStale k.2).map fun k => k.2.position
  s.tokens.toList.take (places.foldl min s.tokens.size)

/-- Reads tokens up to the end of the file or to what cannot be read. -/
def all : Nat → State → List Token × Option Error
  | 0, s => (settled s, some .malformed)
  | fuel + 1, s =>
    match next s with
    | .ok (true, s) => all fuel s
    | .ok (false, s) => (s.tokens.toList, none)
    | .error e => (settled s, some e)

end Scan

def tokens (d : Delivery) : List Token × Option Error :=
  let fuel := d.chars.length + 2
  Scan.all fuel { rest := d.chars, fuel := fuel, fault := d.fault }

end FormulaQuery.Yaml
