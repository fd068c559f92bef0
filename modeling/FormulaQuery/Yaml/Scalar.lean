/-
  FormulaQuery/Yaml/Scalar.lean
  =============================
  **What a single text stands for.**  A plain text is a truth value, a number, a
  date or nothing if it is written like one, and a text otherwise.  A tag settles
  the kind whatever the text looks like.
-/
import FormulaQuery.Text.Base64
import FormulaQuery.Yaml.Moment
import FormulaQuery.Yaml.Number

namespace FormulaQuery.Yaml

inductive Kind where
  | text
  | null
  | boolean
  | integer
  | float
  | bytes
  | moment
  | list
  /-- A list of mappings with one entry each. -/
  | entries
  /-- A mapping whose keys alone count. -/
  | set
  | mapping
  /-- The key `<<`, which takes the entries of other mappings in. -/
  | merge
  /-- The sign `=`, which stands for the main entry of a mapping. -/
  | main
  | unknown
  deriving DecidableEq, Repr

def standardTag : String := "tag:yaml.org,2002:"

def Kind.ofTag (tag : String) : Kind :=
  if tag = standardTag ++ "str" then text
  else if tag = standardTag ++ "null" then null
  else if tag = standardTag ++ "bool" then boolean
  else if tag = standardTag ++ "int" then integer
  else if tag = standardTag ++ "float" then float
  else if tag = standardTag ++ "binary" then bytes
  else if tag = standardTag ++ "timestamp" then moment
  else if tag = standardTag ++ "seq" then list
  else if tag = standardTag ++ "omap" then entries
  else if tag = standardTag ++ "pairs" then entries
  else if tag = standardTag ++ "set" then set
  else if tag = standardTag ++ "map" then mapping
  else if tag = standardTag ++ "merge" then merge
  else if tag = standardTag ++ "value" then main
  else unknown

/-! ### How values are written -/

def truthWords : List (String × Bool) :=
  [("yes", true), ("no", false), ("true", true), ("false", false), ("on", true), ("off", false)]

def titled (s : String) : String :=
  match s.toList with
  | [] => ""
  | c :: rest => String.ofList (c.toUpper :: rest)

/-- The three ways in which a word may be written: small, with a large first letter,
    and large. -/
def spellings (s : String) : List String :=
  [s, titled s, String.ofList (s.toList.map Char.toUpper)]

def isBoolean (s : String) : Bool := truthWords.any fun w => (spellings w.1).contains s

def isNull (s : String) : Bool := s == "" || s == "~" || (spellings "null").contains s

def isDigitOrMark (c : Char) : Bool := c.isDigit || c == '_'

/-- A part of a number in base 60, written with decimal digits. -/
def isSixtieth : List Char → Bool
  | [d] => d.isDigit
  | [t, d] => ('0' ≤ t && t ≤ '5') && d.isDigit
  | _ => false

/-- Parts of a number in base 60, each behind its colon: at least one. -/
def areSixtieths : List Char → Bool
  | ':' :: rest => (colonParts rest).all isSixtieth
  | _ => false

def isInteger (cs : List Char) : Bool :=
  match unsigned cs with
  | '0' :: 'b' :: rest => !rest.isEmpty && rest.all fun c => c == '0' || c == '1' || c == '_'
  | '0' :: 'x' :: rest =>
    !rest.isEmpty && rest.all fun c =>
      isDigitOrMark c || ('a' ≤ c && c ≤ 'f') || ('A' ≤ c && c ≤ 'F')
  | '0' :: rest => rest.all fun c => ('0' ≤ c && c ≤ '7') || c == '_'
  | c :: rest =>
    c.isDigit &&
      let behind := rest.dropWhile isDigitOrMark
      behind.isEmpty || areSixtieths behind
  | [] => false

/-- The end of a float: nothing, or an exponent with its sign. -/
def isSignedExponent : List Char → Bool
  | [] => true
  | e :: sign :: rest =>
    (e == 'e' || e == 'E') && (sign == '-' || sign == '+') && !rest.isEmpty && rest.all Char.isDigit
  | _ => false

def isUnsignedFloat (cs : List Char) : Bool :=
  match cs with
  | c :: _ =>
    c.isDigit &&
      match cs.dropWhile isDigitOrMark with
      | '.' :: rest => isSignedExponent (rest.dropWhile isDigitOrMark)
      | rest =>
        let parts := rest.takeWhile (· != '.')
        match rest.dropWhile (· != '.') with
        | '.' :: behind => areSixtieths parts && behind.all isDigitOrMark
        | _ => false
  | [] => false

def isFloat (cs : List Char) : Bool :=
  let hasDot (words : List String) (cs : List Char) : Bool :=
    match cs with
    | '.' :: rest => words.contains (String.ofList rest)
    | _ => false
  isUnsignedFloat (unsigned cs) || hasDot ["inf", "Inf", "INF"] (unsigned cs) ||
    hasDot ["nan", "NaN", "NAN"] cs ||
    match cs with
    | '.' :: c :: rest => c.isDigit && isSignedExponent (rest.dropWhile isDigitOrMark)
    | _ => false

def withoutEnd (cs : List Char) : List Char := if cs.getLast? = some '\n' then cs.dropLast else cs

def Kind.ofLine (s : String) : Kind :=
  if isBoolean s then boolean
  else if isFloat s.toList then float
  else if isInteger s.toList then integer
  else if s = "<<" then merge
  else if isNull s then null
  else if (MomentText.read? 2 s.toList).isSome then moment
  else if s = "=" then main
  else if s = "!" ∨ s = "&" ∨ s = "*" then unknown
  else text

/-- The kind of a text by the way it is written; the end of line at its end does not
    count. -/
def Kind.ofPlain (s : String) : Kind :=
  if s = "\n" then text else Kind.ofLine (String.ofList (withoutEnd s.toList))

/-! ### Values -/

/-- The value of the text of a node of a known kind; `whole` is the text of the node if
    the node is one. -/
def Kind.read (kind : Kind) (node : Nat) (s : String) (whole : Option String) :
    Except Error Value :=
  match kind with
  | text => .ok (.text s)
  | null => .ok .null
  | boolean =>
    match truthWords.lookup (Text.lower s) with
    | some b => .ok (.bool b)
    | none => .error (.unknownWord (Text.lower s))
  | integer => Yaml.integer s
  | float => Yaml.float node s
  | bytes =>
    match Text.decodeBase64 s.toList with
    | some bs => if s.toList.all (·.toNat < 0x80) then .ok (.bytes bs) else .error .malformed
    | none => .error .malformed
  | moment =>
    match whole with
    | none => .error .wrongKind
    | some written =>
      match MomentText.read? 1 (withoutEnd written.toList) with
      | none => .error .notAMoment
      | some m =>
        match m.fault? with
        | some reason => .error (.badValue reason)
        | none => .ok (.moment m)
  | _ => .error .malformed

end FormulaQuery.Yaml
