/-
  FormulaQuery/Yaml/Number.lean
  =============================
  **Numbers.**  Integers are written in decimal, with a mark for the base in binary,
  octal and hexadecimal, or in parts in base 60.  Floats are decimal or have parts in
  base 60, too.  Digits of all scripts count, and white space around them does not.
-/
import FormulaQuery.Data.Value
import FormulaQuery.Text.Digit
import FormulaQuery.Text.Lowercase
import FormulaQuery.Text.Strip
import FormulaQuery.Yaml.Error

namespace FormulaQuery.Yaml

/-! ### Digits -/

def isBlank (c : Char) : Bool := c == ' ' || (0x09 ≤ c.toNat && c.toNat ≤ 0x0D)

/-- A character of a number in ASCII: digits of all scripts are made digits, white space
    is made spaces, and what cannot stand in a number is made a question mark. -/
def numberChar (c : Char) : Char :=
  if c.toNat < 0x7F then c
  else if Text.isSpace c then ' '
  else match Text.digit? c with
    | some d => Char.ofNat ('0'.toNat + d)
    | none => '?'

def numberChars (cs : List Char) : List Char :=
  (((cs.map numberChar).dropWhile isBlank).reverse.dropWhile isBlank).reverse

def unsigned : List Char → List Char
  | '-' :: rest => rest
  | '+' :: rest => rest
  | cs => cs

def isNegative (cs : List Char) : Bool := cs.head? == some '-'

def digitValue (c : Char) : Nat :=
  if c.isDigit then c.toNat - '0'.toNat
  else if 'a' ≤ c ∧ c ≤ 'f' then c.toNat - 'a'.toNat + 10
  else if 'A' ≤ c ∧ c ≤ 'F' then c.toNat - 'A'.toNat + 10
  else 16

def ofDigits (base : Nat) (cs : List Char) : Nat := cs.foldl (fun n c => n * base + digitValue c) 0

def colonParts (cs : List Char) : List (List Char) := cs.splitOn ':'

/-! ### Integers -/

def notAnInteger (base : Nat) (cs : List Char) : Error :=
  let quoted := (Text.inQuotes (String.ofList cs)).toList.take 200
  .badValue ("invalid literal for int() with base " ++ toString base ++ ": " ++ String.ofList quoted)

def tooLong (count : Nat) : Error :=
  .badValue ("Exceeds the limit (" ++ toString Value.maxDigits ++ " digits) for integer string " ++
    "conversion: value has " ++ toString count ++ " digits; use " ++
    "sys.set_int_max_str_digits() to increase the limit")

def baseMark : Nat → Option Char
  | 2 => some 'b'
  | 8 => some 'o'
  | 16 => some 'x'
  | _ => none

def withoutMark (base : Nat) : List Char → List Char
  | '0' :: c :: rest => if baseMark base = some c.toLower then rest else '0' :: c :: rest
  | cs => cs

/-- The integer that a text stands for in a base; it may have a sign, and a mark of
    the base. -/
def numeral (base : Nat) (cs : List Char) : Except Error Int := do
  let signed := numberChars cs
  let digits := withoutMark base (unsigned signed)
  let count := (digits.takeWhile (digitValue · < base)).length
  if base = 10 ∧ Value.maxDigits < count then throw (tooLong count)
  if count = 0 ∨ count < digits.length then throw (notAnInteger base cs)
  let n := Int.ofNat (ofDigits base digits)
  return if isNegative signed then -n else n

/-- The number that parts in base 60 stand for. -/
def sixtieths (parts : List (List Char)) : Except Error Int :=
  parts.foldlM (fun n part => return n * 60 + (← numeral 10 part)) 0

def magnitude (cs : List Char) : Except Error Int :=
  match cs with
  | [] => .error .emptyText
  | ['0'] => .ok 0
  | '0' :: 'b' :: rest => numeral 2 rest
  | '0' :: 'x' :: rest => numeral 16 rest
  | '0' :: _ => numeral 8 cs
  | _ => if cs.contains ':' then sixtieths (colonParts cs) else numeral 10 cs

/-- The integer that a text stands for; underscores do not count. -/
def integer (s : String) : Except Error Value := do
  let cs := s.toList.filter (· != '_')
  if cs.isEmpty then throw .emptyText
  let n ← magnitude (unsigned cs)
  return .int (if isNegative cs then -n else n)

/-! ### Floats -/

def exponent? : List Char → Option Int
  | [] => some 0
  | e :: rest =>
    let digits := unsigned rest
    if (e = 'e' || e = 'E') && !digits.isEmpty && digits.all Char.isDigit then
      let n := Int.ofNat (ofDigits 10 digits)
      some (if isNegative rest then -n else n)
    else none

/-- The digits of a decimal number and the power of ten that they are multiplied with. -/
def decimal? (cs : List Char) : Option (Nat × Int) :=
  let whole := cs.takeWhile Char.isDigit
  let behind := cs.dropWhile Char.isDigit
  let (part, behind) := match behind with
    | '.' :: rest => (rest.takeWhile Char.isDigit, rest.dropWhile Char.isDigit)
    | rest => ([], rest)
  if whole.isEmpty && part.isEmpty then none
  else (exponent? behind).map fun e => (ofDigits 10 (whole ++ part), e - Int.ofNat part.length)

def unsignedFloat? (negative : Bool) (cs : List Char) : Option Binary64 :=
  let word := String.ofList (cs.map Char.toLower)
  if word = "inf" ∨ word = "infinity" then some (.infinite negative)
  else if word = "nan" then some .nan
  else (decimal? cs).map fun d => Binary64.ofDecimal negative d.1 d.2

def floatPart (cs : List Char) : Except Error Binary64 :=
  let signed := numberChars cs
  match unsignedFloat? (isNegative signed) (unsigned signed) with
  | some x => .ok x
  | none =>
    .error (.badValue ("could not convert string to float: " ++ Text.inQuotes (String.ofList cs)))

/-- The sum of parts in base 60, the last one first, each multiplied with the power of
    60 that counts it. -/
def addSixtieths : List Binary64 → (base : Nat) → (sum : Binary64) → Except Error Binary64
  | [], _, sum => .ok sum
  | x :: rest, base, sum =>
    match Binary64.ofNat base with
    | .infinite _ => .error .hugeNumber
    | b => addSixtieths rest (base * 60) (sum.add (x.mul b))

/-- The float that a text without sign stands for; it may have parts in base 60. -/
def floatSize (cs : List Char) : Except Error Binary64 :=
  if cs.contains ':' then do
    let parts ← (colonParts cs).mapM floatPart
    addSixtieths parts.reverse 1 (Binary64.ofNat 0)
  else floatPart cs

/-- The float that the text of a node stands for; underscores and letter case do not
    count. -/
def float (node : Nat) (s : String) : Except Error Value := do
  let cs := (Text.lower (String.ofList (s.toList.filter (· != '_')))).toList
  if cs.isEmpty then throw .emptyText
  let body := unsigned cs
  if body = ".inf".toList then return .float (.infinite (isNegative cs))
  if body = ".nan".toList then return .float .nan
  match ← floatSize body with
  | .nan => return .undefined node
  | x => return .float (if isNegative cs then x.negate else x)

end FormulaQuery.Yaml
