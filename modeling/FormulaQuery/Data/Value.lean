/-
  FormulaQuery/Data/Value.lean
  ============================
  **Values of option files.**  Options are read from documents in which anything
  may stand, so a value is one of the kinds that such a document can hold.  A
  mapping keeps its entries in order and has one entry for each key; numbers and
  booleans that are equal as numbers are one key.
-/
import FormulaQuery.Data.Binary64
import FormulaQuery.Data.Moment
import FormulaQuery.Text.Join
import FormulaQuery.Text.Printable

namespace FormulaQuery

inductive Value where
  | null
  | bool (value : Bool)
  | int (value : Int)
  | float (value : Binary64)
  /-- The outcome of a calculation that is no number; it equals only itself, and its
      origin tells it from others. -/
  | undefined (origin : Nat)
  | text (value : String)
  | bytes (value : List UInt8)
  | moment (value : Moment)
  | list (items : List Value)
  | pair (key value : Value)
  | set (members : List Value)
  | mapping (entries : List (Value × Value))
  /-- A list or a mapping that contains the place where this stands; the innermost one has
      the level 0. -/
  | enclosing (level : Nat) (isList : Bool)
  deriving Repr, Inhabited

namespace Value

/-! ### Equality -/

/-- The number that a value counts as when values are compared: booleans count
    as 0 and 1, and a float as the integer that it is. -/
def number? : Value → Option Int
  | bool b => some (if b then 1 else 0)
  | int n => some n
  | float x => x.integer?
  | _ => none

mutual

/-- Whether two values are equal; numbers of different kinds are compared as numbers,
    and the order of members and entries does not count. -/
def equals : Value → Value → Bool
  | null, null => true
  | text a, text b => a == b
  | bytes a, bytes b => a == b
  | moment a, moment b => a.same b
  | list a, list b => allEqual a b
  | pair k v, pair k' v' => k.equals k' && v.equals v'
  | set a, set b => a.length == b.length && membersWithin a b
  | mapping a, mapping b => a.length == b.length && entriesWithin a b
  | enclosing _ a, enclosing _ b => a == b
  | undefined a, undefined b => a == b
  | float x, float y =>
    match x.integer?, y.integer? with
    | some m, some n => m == n
    | _, _ => x == y
  | a, b =>
    match a.number?, b.number? with
    | some m, some n => m == n
    | _, _ => false

def allEqual : List Value → List Value → Bool
  | [], [] => true
  | a :: as, b :: bs => a.equals b && allEqual as bs
  | _, _ => false

def membersWithin : List Value → List Value → Bool
  | [], _ => true
  | a :: as, bs => bs.any (fun b => a.equals b) && membersWithin as bs

def entriesWithin : List (Value × Value) → List (Value × Value) → Bool
  | [], _ => true
  | (k, v) :: as, bs => bs.any (fun b => k.equals b.1 && v.equals b.2) && entriesWithin as bs

end

def isKey : Value → Bool
  | list _ => false
  | set _ => false
  | mapping _ => false
  | enclosing _ _ => false
  | _ => true

/-- Whether a value can be looked for in a set: a key, or a set. -/
def isMember : Value → Bool
  | set _ => true
  | v => v.isKey

def isMapping : Value → Bool
  | mapping _ => true
  | _ => false

def lookup (key : Value) : List (Value × Value) → Option Value
  | [] => none
  | (k, v) :: rest => if k.equals key then some v else lookup key rest

/-- The value at a place inside collections, the innermost first. -/
def within (around : List Value) : Value → Value
  | enclosing level isList => around.getD level (enclosing level isList)
  | v => v

/-- Puts a value under a key: a later value replaces an earlier one at its place. -/
def insert (entries : List (Value × Value)) (key value : Value) : List (Value × Value) :=
  match entries with
  | [] => [(key, value)]
  | (k, v) :: rest => if k.equals key then (k, value) :: rest else (k, v) :: insert rest key value

def ofEntries (entries : List (Value × Value)) : Value :=
  mapping (entries.foldl (fun m e => insert m e.1 e.2) [])

def ofMembers (members : List Value) : Value :=
  set (members.foldl (fun ms v => if ms.any (·.equals v) then ms else ms ++ [v]) [])

/-- Whether a value counts as something: not null, false, zero or empty. -/
def isTruthy : Value → Bool
  | null => false
  | bool b => b
  | int n => n != 0
  | float x => x.integer? != some 0
  | text s => s != ""
  | bytes bs => !bs.isEmpty
  | list items => !items.isEmpty
  | set members => !members.isEmpty
  | mapping entries => !entries.isEmpty
  | _ => true

def text? : Value → Option String
  | text s => some s
  | _ => none

/-! ### Values as text -/

/-- The most digits that an integer may have to be written. -/
def maxDigits : Nat := 4300

mutual

def isUnwritable : Value → Bool
  | int n => 10 ^ maxDigits ≤ n.natAbs
  | list items => anyUnwritable items
  | pair k v => k.isUnwritable || v.isUnwritable
  | set members => anyUnwritable members
  | mapping entries => anyEntryUnwritable entries
  | _ => false

def anyUnwritable : List Value → Bool
  | [] => false
  | v :: rest => v.isUnwritable || anyUnwritable rest

def anyEntryUnwritable : List (Value × Value) → Bool
  | [] => false
  | (k, v) :: rest => k.isUnwritable || v.isUnwritable || anyEntryUnwritable rest

end

mutual

/-- A value as it stands inside a list: texts are quoted. -/
def inner : Value → String
  | null => "None"
  | bool b => if b then "True" else "False"
  | int n => toString n
  | float x => x.render
  | undefined _ => "nan"
  | text s => Text.inQuotes s
  | bytes bs => Text.bytesInQuotes bs
  | moment m => m.inner
  | list items => "[" ++ Text.join ", " (innerAll items) ++ "]"
  | pair k v => "(" ++ k.inner ++ ", " ++ v.inner ++ ")"
  | set members =>
    if members.isEmpty then "set()" else "\x7b" ++ Text.join ", " (innerAll members) ++ "\x7d"
  | mapping entries => "\x7b" ++ Text.join ", " (innerEntries entries) ++ "\x7d"
  | enclosing _ isList => if isList then "[...]" else "\x7b...\x7d"

def innerAll : List Value → List String
  | [] => []
  | v :: rest => v.inner :: innerAll rest

def innerEntries : List (Value × Value) → List String
  | [] => []
  | (k, v) :: rest => (k.inner ++ ": " ++ v.inner) :: innerEntries rest

end

/-- A value as it is shown in a message: a text is shown as it is, and a moment as it
    is written. -/
def shown : Value → String
  | text s => s
  | moment m => m.render
  | v => v.inner

end Value

end FormulaQuery
