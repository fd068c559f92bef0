/-
  FormulaQuery/Files/Path.lean
  ============================
  **Paths of files.**  A path is kept as its parts.  Empty parts and single dots say
  nothing and are left out, two dots lead upwards and stay.
-/
import FormulaQuery.Text.Join
import FormulaQuery.Text.Lowercase

namespace FormulaQuery

structure FilePath where
  /-- Slashes for a path that starts at the top, nothing for one that starts here. -/
  root : String
  parts : List String
  deriving DecidableEq, Repr

namespace FilePath

def splitParts (s : String) : List String :=
  (s.toList.splitOn '/').map String.ofList

/-- What a path starts with: two slashes stay, more of them are one. -/
def rootOf (s : String) : String :=
  match (s.toList.takeWhile (· == '/')).length with
  | 0 => ""
  | 2 => "//"
  | _ => "/"

def ofString (s : String) : FilePath :=
  ⟨rootOf s, (splitParts s).filter fun part => part != "" && part != "."⟩

def render (p : FilePath) : String :=
  if p.root = "" ∧ p.parts = [] then "." else p.root ++ Text.join "/" p.parts

/-- Whether a path is written as the locator of a file: a first part `file:`, in any
    letter case, with a path from the top behind it. -/
def isLocator (p : FilePath) : Bool :=
  match p.root, p.parts with
  | "", scheme :: _ :: _ => String.ofList (scheme.toList.map Char.toLower) == "file:"
  | _, _ => false

/-- The path that a document is read from: what a locator leads to, or the path. -/
def located (p : FilePath) : FilePath := if p.isLocator then ⟨"/", p.parts.tail⟩ else p

def parent (p : FilePath) : FilePath := { p with parts := p.parts.dropLast }

def name (p : FilePath) : String := p.parts.getLastD ""

/-- The ending of a name, from its last dot on; there is none if that dot stands at
    the front or at the end. -/
def nameExtension (name : List Char) : List Char :=
  let ending := (name.reverse.takeWhile (· != '.')).reverse
  let front := name.take (name.length - ending.length - 1)
  if ending.isEmpty || front.isEmpty || ending.length = name.length then [] else '.' :: ending

def extension (p : FilePath) : String :=
  Text.lower (String.ofList (nameExtension p.name.toList))

/-! ### Limits -/

def hasZero (s : String) : Bool := s.toList.contains (Char.ofNat 0)

/-- Whether a part is longer than the 255 bytes that a file name may have. -/
def isLongPart (part : String) : Bool := 255 < part.utf8ByteSize

/-- Whether a path is longer than the 4095 bytes that can be followed. -/
def isLong (p : FilePath) : Bool := 4095 < p.render.utf8ByteSize

end FilePath

end FormulaQuery
