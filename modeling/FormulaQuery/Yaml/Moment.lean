/-
  FormulaQuery/Yaml/Moment.lean
  =============================
  **How dates and points in time are written.**  A date has its year, month and day
  with hyphens between them; a time of day may follow, and how far the clock is
  ahead.
-/
import FormulaQuery.Data.Moment

namespace FormulaQuery.Yaml.MomentText

/-- The number at the front of a text, written with at least `least` and at most
    `most` digits. -/
def number (least most : Nat) (cs : List Char) : Option (Nat × List Char) :=
  let digits := (cs.take most).takeWhile Char.isDigit
  if digits.length < least then none
  else some (digits.foldl (fun n c => n * 10 + (c.toNat - '0'.toNat)) 0, cs.drop digits.length)

def skip (c : Char) : List Char → Option (List Char)
  | d :: rest => if d = c then some rest else none
  | [] => none

/-- The date at the front of a text; month and day have `least` digits at least. -/
def date (least : Nat) (cs : List Char) : Option (Moment × List Char) := do
  let (year, cs) ← number 4 4 cs
  let cs ← skip '-' cs
  let (month, cs) ← number least 2 cs
  let cs ← skip '-' cs
  let (day, cs) ← number least 2 cs
  return ({ year := year, month := month, day := day }, cs)

def isBlank (c : Char) : Bool := c == ' ' || c == '\t'

def gap : List Char → Option (List Char)
  | 'T' :: rest => some rest
  | 't' :: rest => some rest
  | c :: rest => if isBlank c then some (rest.dropWhile isBlank) else none
  | [] => none

def millionths (digits : List Char) : Nat :=
  let first := digits.take 6
  (first ++ List.replicate (6 - first.length) '0').foldl
    (fun n c => n * 10 + (c.toNat - '0'.toNat)) 0

def fraction : List Char → Nat × List Char
  | '.' :: rest => (millionths (rest.takeWhile Char.isDigit), rest.dropWhile Char.isDigit)
  | cs => (0, cs)

/-- The minutes behind the hours of a zone, if they are there. -/
def zoneMinutes : List Char → Option Nat
  | [] => some 0
  | ':' :: rest =>
    match number 2 2 rest with
    | some (n, []) => some n
    | _ => none
  | _ => none

def zone? (cs : List Char) : Option (Option Int) :=
  let offset (sign : Int) (rest : List Char) : Option (Option Int) := do
    let (hours, rest) ← number 1 2 rest
    let minutes ← zoneMinutes rest
    return some (sign * Int.ofNat (hours * 60 + minutes))
  match cs.dropWhile isBlank with
  | [] => if cs.isEmpty then some none else none
  | ['Z'] => some (some 0)
  | '+' :: rest => offset 1 rest
  | '-' :: rest => offset (-1) rest
  | _ => none

def point? (cs : List Char) : Option Moment := do
  let (d, cs) ← date 1 cs
  let cs ← gap cs
  let (hour, cs) ← number 1 2 cs
  let cs ← skip ':' cs
  let (minute, cs) ← number 2 2 cs
  let cs ← skip ':' cs
  let (second, cs) ← number 2 2 cs
  let (part, cs) := fraction cs
  return { d with time := some ⟨hour, minute, second, part⟩, zone := ← zone? cs }

/-- The date or the point in time that a text is written as; the month and the day of
    a date alone have `least` digits at least. -/
def read? (least : Nat) (cs : List Char) : Option Moment :=
  match date least cs with
  | some (d, []) => some d
  | _ => point? cs

end FormulaQuery.Yaml.MomentText
