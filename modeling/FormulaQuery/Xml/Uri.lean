/-
  FormulaQuery/Xml/Uri.lean
  =========================
  **Which texts may name a namespace.**  The name of a namespace has the form of
  a reference to a resource: an optional scheme, an optional authority, a path,
  and optionally a query and a fragment, with percent signs only in front of two
  hexadecimal digits.

  Each part is a function that takes the part off the front of a text and gives the
  rest, or nothing if the text does not start with such a part.
-/
import FormulaQuery.Xml.Char

namespace FormulaQuery.Xml.Uri

/-- Takes a part off the front of a text. -/
abbrev Part := List Char → Option (List Char)

def isPlain (c : Char) : Bool :=
  c.isAlphanum || "-._~!$&()*+,;=".toList.contains c || c == Char.ofNat 39

def isSegment (c : Char) : Bool := isPlain c || c == ':' || c == '@'

/-- The rest behind the longest run of characters of a class and of percent signs in
    front of two hexadecimal digits. -/
def dropRun (p : Char → Bool) : List Char → List Char
  | [] => []
  | '%' :: a :: b :: rest =>
    if (hexValue? [a, b]).isSome then dropRun p rest else '%' :: a :: b :: rest
  | c :: rest => if p c then dropRun p rest else c :: rest

def scheme : Part
  | [] => none
  | c :: rest =>
    if c.isAlpha then
      match rest.dropWhile fun d => d.isAlphanum || d == '+' || d == '-' || d == '.' with
      | ':' :: behind => some behind
      | _ => none
    else none

def user (cs : List Char) : List Char :=
  match dropRun (fun c => isPlain c || c == ':') cs with
  | '@' :: behind => behind
  | _ => cs

/-- A host: anything in brackets, or a name, which may be empty. -/
def host : Part
  | '[' :: rest =>
    match rest.dropWhile (· != ']') with
    | _ :: behind => some behind
    | [] => none
  | cs => some (dropRun isPlain cs)

def maxPort : Nat := 2147483647

def port : Part
  | ':' :: rest =>
    match decimalValue? (rest.takeWhile Char.isDigit) with
    | some n =>
      if (rest.takeWhile Char.isDigit).isEmpty || maxPort < n then none
      else some (rest.dropWhile Char.isDigit)
    | none => none
  | cs => some cs

def segments (cs : List Char) : List Char :=
  match cs with
  | '/' :: _ => dropRun (fun c => isSegment c || c == '/') cs
  | _ => cs

def hierarchy : Part
  | '/' :: '/' :: rest => do return segments (← port (← host (user rest)))
  | cs => some (dropRun (fun c => isSegment c || c == '/') cs)

/-- A query, which may be missing, and a fragment, which may be missing; nothing may
    follow. -/
def isTail (cs : List Char) : Bool :=
  let behindQuery := match cs with
    | '?' :: rest => dropRun (fun c => isSegment c || c == '/' || c == '?') rest
    | _ => cs
  let behind := match behindQuery with
    | '#' :: rest =>
      dropRun (fun c => isSegment c || c == '/' || c == '?' || c == '[' || c == ']') rest
    | _ => behindQuery
  behind.isEmpty

def isAbsolute (s : String) : Bool :=
  match (scheme s.toList).bind hierarchy with
  | some rest => isTail rest
  | none => false

/-- Whether a text is a reference without a scheme; its first segment must not look
    like one. -/
def isRelative (s : String) : Bool :=
  let startsWithName := match s.toList with
    | '/' :: _ => false
    | _ => true
  let firstSegment := s.toList.takeWhile fun c => isSegment c || c == '%'
  match hierarchy s.toList with
  | some rest => isTail rest && !(startsWithName && firstSegment.contains ':')
  | none => false

end FormulaQuery.Xml.Uri
