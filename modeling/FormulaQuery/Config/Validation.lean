/-
  FormulaQuery/Config/Validation.lean
  ===================================
  **Which values an option takes.**  A value is checked against the option it is
  meant for.  `Config.set` changes one option of a configuration, and changes
  nothing if the value is refused; `Config.construct` builds a configuration from
  named values and reports every value that is refused.
-/
import FormulaQuery.Config.Options
import FormulaQuery.Data.Value
import FormulaQuery.Text.Encoding
import FormulaQuery.Text.Half

namespace FormulaQuery

inductive Refusal where
  | notText
  /-- Bytes that are not the encoding of a text, or a text that has no encoding because
      of a half in it. -/
  | undecodable
  | notBool
  /-- A text or an integer that names neither true nor false. -/
  | unreadableBool
  | unknownOption
  | unknownTarget
  deriving DecidableEq, Repr

def Refusal.label : Refusal → String
  | notText => "string_type"
  | undecodable => "string_unicode"
  | notBool => "bool_type"
  | unreadableBool => "bool_parsing"
  | unknownOption => "extra_forbidden"
  | unknownTarget => "no_such_attribute"

/-- A refused value: the option it was meant for, and why. -/
structure Fault where
  option : String
  refusal : Refusal
  deriving DecidableEq, Repr

namespace Config

def falseWords : List String := ["0", "off", "f", "false", "n", "no"]

def trueWords : List String := ["1", "on", "t", "true", "y", "yes"]

def readWord (s : String) : Except Refusal Bool :=
  let word := String.ofList (s.toList.map Char.toLower)
  if falseWords.contains word then .ok false
  else if trueWords.contains word then .ok true
  else .error .unreadableBool

def readInt (n : Int) : Except Refusal Bool :=
  if n = 0 then .ok false else if n = 1 then .ok true else .error .unreadableBool

def readBool : Value → Except Refusal Bool
  | .bool b => .ok b
  | .int n => if -Int.pow 2 63 ≤ n ∧ n < Int.pow 2 63 then readInt n else .error .notBool
  | .float x =>
    match x.integer? with
    | some n => if -Int.pow 2 63 < n ∧ n < Int.pow 2 63 then readInt n else .error .notBool
    | none => .error .notBool
  | .text s => if Text.holdsHalf s then .error .undecodable else readWord s
  | .bytes bs =>
    match Text.decodeUtf8 bs with
    | some cs => readWord (String.ofList cs)
    | none => .error .unreadableBool
  | _ => .error .notBool

/-- The value of an option that is a text; bytes are taken as the text they encode. -/
def readText : Value → Except Refusal String
  | .text s => .ok s
  | .bytes bs =>
    match Text.decodeUtf8 bs with
    | some cs => .ok (Text.keepAll cs)
    | none => .error .undecodable
  | _ => .error .notText

def readOptionalText : Value → Except Refusal (Option String)
  | .null => .ok none
  | v => (readText v).map some

/-- Changes one option, if it takes the value. -/
def set (c : Config) : Field → Value → Except Refusal Config
  | .declaration, v => (readText v).map fun s => { c with declaration := s }
  | .pathToRoot, v => (readText v).map fun s => { c with pathToRoot := s }
  | .returnFormat, v => (readText v).map fun s => { c with returnFormat := s }
  | .header, v => (readOptionalText v).map fun s => { c with header := s }
  | .footer, v => (readOptionalText v).map fun s => { c with footer := s }
  | .restrictLength, v => (readBool v).map fun b => { c with restrictLength := b }
  | .emitWildcardMap, v => (readBool v).map fun b => { c with emitWildcardMap := b }

def get (c : Config) : Field → Value
  | .declaration => .text c.declaration
  | .pathToRoot => .text c.pathToRoot
  | .returnFormat => .text c.returnFormat
  | .header => (c.header.map Value.text).getD .null
  | .footer => (c.footer.map Value.text).getD .null
  | .restrictLength => .bool c.restrictLength
  | .emitWildcardMap => .bool c.emitWildcardMap

/-- Takes one named value into a construction: the configuration so far and the
    values refused so far. -/
def take (state : Config × List Fault) (entry : String × Value) : Config × List Fault :=
  match Field.ofName? entry.1 with
  | none => (state.1, state.2 ++ [⟨entry.1, .unknownOption⟩])
  | some field =>
    match state.1.set field entry.2 with
    | .ok c => (c, state.2)
    | .error r => (state.1, state.2 ++ [⟨entry.1, r⟩])

/-- Builds a configuration from named values, the defaults standing for the rest;
    one fault is reported for each value that is refused.  A name with a half in it is
    no name at all, and then that alone is reported. -/
def construct (entries : List (String × Value)) : Except (List Fault) Config :=
  if entries.any fun e => Text.holdsHalf e.1 then .error [⟨"", .undecodable⟩]
  else match entries.foldl take ({}, []) with
    | (c, []) => .ok c
    | (_, faults) => .error faults

end Config

end FormulaQuery
