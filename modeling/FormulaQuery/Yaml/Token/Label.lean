/-
  FormulaQuery/Yaml/Token/Label.lean
  ==================================
  **Anchors, tags and directives.**  What stands in front of a node or of a document
  and says how it is meant.
-/
import FormulaQuery.Text.Encoding
import FormulaQuery.Yaml.Number
import FormulaQuery.Yaml.Token.Scan

namespace FormulaQuery.Yaml

namespace Scan

def isTagChar (c : Char) : Bool :=
  c.isAlphanum || "-;/?:@&=+$,_.!~*()[]".toList.contains c || c == Char.ofNat 39

/-- A byte by its two digits behind a percent sign, if one stands here. -/
def escapedByte? : Scan (Option UInt8) := do
  if (← peek) == '%' then
    forward 1
    let n ← hexAhead 2 0 0
    forward 2
    return some n.toUInt8
  return none

/-- The text that bytes behind percent signs encode. -/
def escapedText : Scan String := do
  let rec go : Nat → List UInt8 → Scan (List UInt8)
    | 0, _ => refuse
    | fuel + 1, bytes => do
      match ← escapedByte? with
      | some b => go fuel (b :: bytes)
      | none => return bytes.reverse
  match Text.decodeUtf8 (← go (← get).fuel []) with
  | some cs => return String.ofList cs
  | none => refuse

def tagText : Scan String := do
  let parts ← collect (do
    let s ← run isTagChar
    if (← peek) == '%' then return some (s ++ (← escapedText))
    return if s == "" then none else some s)
  require !parts.isEmpty
  return glue parts

/-- The handle of a tag: an exclamation mark in front of a space, or two of them, with a
    name between them or not. -/
def tagHandle : Scan String := do
  require ((← peek) == '!')
  forward 1
  if (← peek) == ' ' then return "!"
  let name ← run isWordChar
  require ((← peek) == '!')
  forward 1
  return "!" ++ name ++ "!"

def tag : Scan Token := do
  let next ← peekAt 1
  let token ←
    if next == '<' then do
      forward 2
      let suffix ← tagText
      require ((← peek) == '>')
      forward 1
      pure (Token.tag none suffix)
    else if isWideGap next then do
      forward 1
      pure (Token.tag none "!")
    else do
      let behind := (← get).rest.drop 1
      let word := behind.takeWhile (!isGap ·)
      if word.length == behind.length && !word.contains '!' then requireEnd
      let handle ← if word.contains '!' then tagHandle else do
        forward 1
        pure "!"
      pure (Token.tag (some handle) (← tagText))
  require (isGap (← peek))
  return token

def anchorName : Scan String := do
  forward 1
  let name ← run isWordChar
  require (name != "")
  let c ← peek
  require (isWideGap c || "?:,]\x7d%@".toList.contains c || c == Char.ofNat 96)
  return name

def versionNumber : Scan Nat := do
  let digits ← run Char.isDigit
  require (digits != "")
  match numeral 10 digits.toList with
  | .ok n => return n.toNat
  | .error e => throw e

def directive : Scan Token := do
  forward 1
  let name ← run isWordChar
  require (name != "" && isGap (← peek))
  let token ←
    if name == "YAML" then do
      spaces
      let major ← versionNumber
      require ((← peek) == '.')
      forward 1
      let _ ← versionNumber
      require (isGap (← peek))
      pure (Token.versionDirective major)
    else if name == "TAG" then do
      spaces
      let handle ← tagHandle
      require ((← peek) == ' ')
      spaces
      let value ← tagText
      require (isGap (← peek))
      pure (Token.tagDirective handle value)
    else do
      restOfLine
      pure Token.otherDirective
  spaces
  if (← peek) == '#' then restOfLine
  require (endsLine (← peek))
  let _ ← lineBreak
  return token

end Scan

end FormulaQuery.Yaml
