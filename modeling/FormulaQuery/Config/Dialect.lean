/-
  FormulaQuery/Config/Dialect.lean
  ================================
  **Choosing options from a document.**  An option document either holds the
  options themselves or named sets of options under `dialects`, of which one is
  chosen by name or by `default`.  The library brings a document with three
  dialects of its own.
-/
import FormulaQuery.Config.Validation
import FormulaQuery.Text.Join

namespace FormulaQuery

inductive ConfigError where
  | missingFile (path : String)
  | directory
  | unreadable
  | undecodable (reason : String)
  | badValue (reason : String)
  | unknownWord (word : String)
  | wrongKind
  /-- A number that picks no entry of a list, or an empty text where a number is read. -/
  | outOfRange
  | notAMoment
  /-- The number of a character is beyond all bounds. -/
  | hugeNumber
  | tooLong
  | unknownDialect (name : String) (available : List String)
  /-- A dialect is asked for, and the document has none. -/
  | noDialects (path : String)
  | invalid (faults : List Fault)
  deriving DecidableEq, Repr

namespace Config

def sortNames (names : List String) : List String :=
  names.mergeSort fun a b => !decide (Text.unitsOf b < Text.unitsOf a)

def allTexts? : List Value → Option (List String)
  | [] => some []
  | .text s :: rest => (allTexts? rest).map (s :: ·)
  | _ :: _ => none

def tooManyDigits : String :=
  "Exceeds the limit (" ++ toString Value.maxDigits ++ " digits) for integer string " ++
    "conversion; use sys.set_int_max_str_digits() to increase the limit"

/-- The refusal of a dialect name, which lists what there is. -/
def unknown (name : Value) (available : List Value) : ConfigError :=
  if name.isUnwritable then .badValue tooManyDigits
  else match allTexts? available with
    | some names => .unknownDialect name.shown (sortNames names)
    | none => .wrongKind

/-- The item of a list at an integer; negative numbers count from the end. -/
def itemAt (items : List Value) (n : Int) : Except ConfigError Value :=
  let index := if n < 0 then n + Int.ofNat items.length else n
  if index < 0 then .error .outOfRange
  else match items[index.toNat]? with
    | some v => .ok v
    | none => .error .outOfRange

/-- The byte at a number that is itself one of the bytes. -/
def byteAt (bs : List UInt8) (n : Int) : Except ConfigError Value :=
  if n < 0 ∨ 255 < n then .error (.badValue "byte must be in range(0, 256)")
  else if bs.contains n.toNat.toUInt8 then itemAt (bs.map fun b => .int b.toNat) n
  else .error .wrongKind

/-- A value that counts as nothing is an empty mapping. -/
def orEmpty (v : Value) : Value := if v.isTruthy then v else .mapping []

def pick (dialects name : Value) : Except ConfigError Value :=
  match dialects with
  | .mapping entries =>
    if name.isKey then
      match Value.lookup name entries with
      | some v => .ok v
      | none => .error (unknown name (entries.map Prod.fst))
    else .error .wrongKind
  | .list items =>
    -- a name among the items still has to be a number to pick one
    if items.any name.equals then
      match name with
      | .int n => itemAt items n
      | .bool b => itemAt items (if b then 1 else 0)
      | _ => .error .wrongKind
    else .error (unknown name items)
  | .set members =>
    if !name.isMember then .error .wrongKind
    -- a set is searched like a list, but nothing can be picked from it
    else if members.any name.equals then .error .wrongKind
    else .error (unknown name members)
  | .bytes bs =>
    match name with
    | .int n => byteAt bs n
    | .bool b => byteAt bs (if b then 1 else 0)
    | _ => .error .wrongKind
  | .text s =>
    match name with
    | .text part =>
      -- neither can it from a text, in which a part of it is found
      if Text.occursIn (Text.unitsOf part) (Text.unitsOf s) then .error .wrongKind
      else
        .error (unknown name ((Text.unitsOf s).map fun n => .text (String.ofList (Text.keep n))))
    | _ => .error .wrongKind
  | _ => .error .wrongKind

/-- The options of a mapping, whose keys have to be texts. -/
def namedValues : List (Value × Value) → Except ConfigError (List (String × Value))
  | [] => .ok []
  | (.text name, v) :: rest => (namedValues rest).map ((name, v) :: ·)
  | _ :: _ => .error .wrongKind

def ofOptions (v : Value) : Except ConfigError Config :=
  match v with
  | .mapping entries => do
    let named ← namedValues entries
    (construct named).mapError .invalid
  | _ => .error .wrongKind

/-- The set of options chosen from a document: `path` is where it was read, and
    `dialect` the name that was asked for. -/
def chooseOptions (path : String) (document : Value) (dialect : Option String) :
    Except ConfigError Value :=
  let document := orEmpty document
  let absent : Except ConfigError Value :=
    if dialect.isSome then .error (.noDialects path) else .ok document
  match document with
  | .mapping entries =>
    match Value.lookup (.text "dialects") entries with
    | some found => do
      let dialects := found.within [document]
      let fallback := ((Value.lookup (.text "default") entries).getD .null).within [document]
      let name := match dialect with
        | some d => if d = "" then fallback else .text d
        | none => fallback
      let entry ← pick (orEmpty dialects) name
      return orEmpty (entry.within [dialects, document])
    | none => absent
  | .list items =>
    -- a document of another kind is searched for the word all the same
    if items.any (Value.text "dialects").equals then .error .wrongKind else absent
  | .set members =>
    if members.any (Value.text "dialects").equals then .error .wrongKind else absent
  | .text s =>
    if Text.occursIn "dialects".toList s.toList then .error .wrongKind else absent
  | _ => .error .wrongKind

def ofDocument (path : String) (document : Value) (dialect : Option String) :
    Except ConfigError Config := do
  ofOptions (← chooseOptions path document dialect)

def packagedDialects : Value :=
  .mapping
    [(.text "default", .text "db2"),
     (.text "dialects", .mapping
      [(.text "db2", .mapping
        [(.text "namespace",
          .text "declare default element namespace \"http://www.w3.org/1998/Math/MathML\";"),
         (.text "path_to_root", .text "db2-fn:xmlcolumn(\"math.math_mathml\")"),
         (.text "return_format", .text "data($m/*[1]/@alttext)")]),
       (.text "basex", .mapping
        [(.text "header",
          .text ("declare default element namespace \"http://www.w3.org/1998/Math/MathML\";\n" ++
            "for $m in //*:expr return \n")),
         (.text "footer",
          .text ("<a href=\"http://demo.formulasearchengine.com/index.php?curid=\x7b$m/@url\x7d\">" ++
            "result</a>\n"))]),
       (.text "plain", .mapping
        [(.text "namespace", .text ""),
         (.text "path_to_root", .text "//*:root"),
         (.text "return_format", .text "<hit>\x7b$x\x7d</hit>")])])]

def packagedPath : String := "PKG/config/dialects.yaml"

def ofDialect (name : String) : Except ConfigError Config :=
  ofDocument packagedPath packagedDialects (some name)

end Config

/-- The reason in words, where there is one wording. -/
def ConfigError.message : ConfigError → String
  | missingFile path => "Config file not found: " ++ path
  | undecodable reason => reason
  | badValue reason => reason
  | unknownWord word => word
  | unknownDialect name available =>
    "Unknown dialect '" ++ name ++ "', available: " ++ Text.join ", " available
  | noDialects path => path ++ " defines no dialects"
  | invalid faults =>
    toString faults.length ++
      (if faults.length = 1 then " validation error" else " validation errors") ++
      " for QueryConfig"
  | directory => "Is a directory"
  | unreadable => "not a document"
  | wrongKind => "wrong kind of value"
  | outOfRange => "list index out of range"
  | notAMoment => "not a moment"
  | hugeNumber => "number too large"
  | tooLong => "File name too long"

end FormulaQuery
