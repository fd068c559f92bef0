/-
  FormulaQuery/Xml/Place.lean
  ===========================
  **Places of texts outside a document.**  A place is a path, as a rule a relative one.
  Some paths cannot lead to a text, whatever there is: those that name a folder for
  certain, and those that no file can have.
-/
import FormulaQuery.Xml.Char

namespace FormulaQuery.Xml

def byteSize (cs : List Char) : Nat := cs.foldl (fun n c => n + c.utf8Size) 0

namespace Place

def parts : List Char → List (List Char)
  | [] => [[]]
  | c :: cs =>
    match c, parts cs with
    | '/', ps => [] :: ps
    | c, p :: ps => (c :: p) :: ps
    | c, [] => [[c]]

def fronts : List String := ["file://localhost/", "file:///", "file:/", "/"]

/-- The path behind the top, if a place starts there. -/
def fromTop? (place : List Char) : Option (List Char) :=
  (fronts.find? fun f => f.toList.isPrefixOf place).map fun f => place.drop f.length

/-- Whether a part of a path names no file or folder of its own. -/
def isStep (part : List Char) : Bool := part.isEmpty || part == ['.'] || part == ['.', '.']

/-- The names that are left of a relative path, the last one first, when each step up
    takes away the name in front of it. -/
def names (ps : List (List Char)) : List (List Char) :=
  ps.foldl (fun found p => if p == ['.', '.'] then found.drop 1
    else if isStep p then found else p :: found) []

def isFolder (place : List Char) : Bool :=
  match fromTop? place with
  | some path => (parts path).all isStep
  | none => !place.isEmpty && (names (parts place)).isEmpty

/-- The greatest number of bytes of a name, and of a path. -/
def maxName : Nat := 255

@[inherit_doc maxName]
def maxPath : Nat := 4095

def isTooLong (place : List Char) : Bool :=
  let ps := parts ((fromTop? place).getD place)
  maxPath < byteSize place || ((ps.dropWhile isStep).take 1).any fun p => maxName < byteSize p

end Place

end FormulaQuery.Xml
