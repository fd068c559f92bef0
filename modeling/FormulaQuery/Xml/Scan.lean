/-
  FormulaQuery/Xml/Scan.lean
  ==========================
  **Reading a document from left to right.**  A scan takes characters off the
  front of a document and gives what they mean, or refuses them.
-/
import FormulaQuery.Xml.Char

namespace FormulaQuery.Xml

def allDistinct {α : Type} [BEq α] : List α → Bool
  | [] => true
  | a :: rest => !rest.contains a && allDistinct rest

/-- A step that reads from the remaining characters, or refuses them. -/
abbrev Scan := StateT (List Char) Option

namespace Scan

def refuse {α : Type} : Scan α := fun _ => none

def require (condition : Bool) : Scan Unit := if condition then pure () else refuse

def dropFront? : List Char → List Char → Option (List Char)
  | [], rest => some rest
  | _ :: _, [] => none
  | a :: as, b :: bs => if a = b then dropFront? as bs else none

def atEnd : Scan Bool := fun cs => some (cs.isEmpty, cs)

def looksAt (s : String) : Scan Bool := fun cs => some ((dropFront? s.toList cs).isSome, cs)

def accept (s : String) : Scan Bool := fun cs =>
  match dropFront? s.toList cs with
  | some rest => some (true, rest)
  | none => some (false, cs)

def expect (s : String) : Scan Unit := do require (← accept s)

/-- Takes off the longest run of characters of a class. -/
def run (p : Char → Bool) : Scan (List Char) := fun cs => some (cs.span p)

/-- Takes off blanks and tells whether there were any. -/
def blanks : Scan Bool := do return !(← run isBlank).isEmpty

def someBlanks : Scan Unit := do require (← blanks)

/-- Splits characters at the first occurrence of a mark; the characters before it
    are collected in `seen`, the last one first. -/
def splitAtMark (mark : List Char) : List Char → (seen : List Char) → Option (List Char × List Char)
  | [], seen => if mark.isEmpty then some (seen.reverse, []) else none
  | c :: rest, seen =>
    match dropFront? mark (c :: rest) with
    | some behind => some (seen.reverse, behind)
    | none => splitAtMark mark rest (c :: seen)

/-- The characters before a mark, which is taken off too. -/
def before (mark : String) : Scan (List Char) := fun cs => splitAtMark mark.toList cs []

def quoted : Scan (List Char) := do
  if ← accept "\"" then before "\""
  else
    expect (String.ofList [Char.ofNat 39])
    before (String.ofList [Char.ofNat 39])

def maxNameSize : Nat := 50000

def nameText (cs : List Char) : Option String :=
  let s := String.ofList cs
  if s.utf8ByteSize ≤ maxNameSize then some s else none

def name : Scan String := do
  let cs ← run isNameChar
  match cs with
  | c :: _ => if isNameStart c then nameText cs else refuse
  | [] => refuse

def name? : Scan (Option String) := fun cs =>
  match cs with
  | [] => some (none, [])
  | c :: _ => if isNameStart c then (name cs).map fun r => (some r.1, r.2) else some (none, cs)

def ncName? : Scan (Option String) := fun cs =>
  match cs with
  | [] => some (none, [])
  | c :: _ =>
    if isNcNameStart c then
      let (taken, rest) := cs.span isNcNameChar
      (nameText taken).map fun s => (some s, rest)
    else some (none, cs)

def nameToken : Scan String := do
  let cs ← run isNameChar
  require !cs.isEmpty
  nameText cs

/-- Runs a step again and again, at most `fuel` times, until it gives nothing; what
    it gave before is in `seen`, the last one first. -/
def loop {m : Type → Type} [Monad m] {α : Type} (exhausted : m (List α)) (step : m (Option α)) :
    (fuel : Nat) → (seen : List α) → m (List α)
  | 0, _ => exhausted
  | fuel + 1, seen => do
    match ← step with
    | none => return seen.reverse
    | some a => loop exhausted step fuel (a :: seen)

/-- Runs a step until it gives nothing; each run that gives something has to take
    off a character. -/
def many {m : Type → Type} [Monad m] [MonadLiftT Scan m] {α : Type} (step : m (Option α)) :
    m (List α) := do
  let rest ← (liftM (get : Scan (List Char)) : m (List Char))
  loop (liftM (refuse : Scan (List α))) step (rest.length + 1) []

end Scan

structure QName where
  qualifier : Option String
  localName : String
  deriving DecidableEq, Repr

def QName.text (q : QName) : String :=
  match q.qualifier with
  | none => q.localName
  | some p => p ++ ":" ++ q.localName

/-- Whether the name has at most one colon, which stands inside.  Another name is a
    local name as a whole, colons and all. -/
def QName.isSound (q : QName) : Bool := !q.localName.toList.contains ':'

/-- The name that a text stands for: it is cut at its first colon, unless it starts
    with that. -/
def QName.ofString (s : String) : QName :=
  match s.toList.span (· != ':') with
  | (c :: cs, _ :: rest) => ⟨some (String.ofList (c :: cs)), String.ofList rest⟩
  | _ => ⟨none, s⟩

def Scan.qName : Scan QName := do
  match ← ncName? with
  | none => return ⟨none, ← name⟩
  | some first =>
    if !(← accept ":") then return ⟨none, first⟩
    match ← ncName? with
    | none => return ⟨none, first ++ ":" ++ String.ofList (← run isNameChar)⟩
    | some second =>
      if !(← looksAt ":") then return ⟨some first, second⟩
      return ⟨none, first ++ ":" ++ second ++ String.ofList (← run isNameChar)⟩

end FormulaQuery.Xml
