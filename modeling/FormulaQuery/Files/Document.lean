/-
  FormulaQuery/Files/Document.lean
  ================================
  **Documents and options from files.**  A query document is read from a file whose
  ending tells that it holds markup; a topic set is read from any file.  Both may be
  compressed.  An option file is read as one document of values.
-/
import FormulaQuery.Config.Dialect
import FormulaQuery.Files.Disk
import FormulaQuery.Files.Gzip
import FormulaQuery.Xml.Document
import FormulaQuery.Yaml.Document

namespace FormulaQuery

inductive FileError where
  | missing (path : String)
  | unsupported (extension : String)
  | malformed (path : String)
  /-- The document has a name that a formula tree cannot have. -/
  | unfitName (name : String)
  | tooLong
  deriving DecidableEq, Repr

def FileError.message : FileError → String
  | missing path => "File not found: " ++ path
  | unsupported extension => "Unsupported file extension: " ++ extension
  | malformed path => "Failed to parse " ++ path
  | unfitName name => Xml.unfitNameMessage name
  | tooLong => "File name too long"

def FileError.ofDocument (p : FilePath) : Xml.DocumentError → FileError
  | .malformed => .malformed p.render
  | .unfitName name => .unfitName name

def documentExtensions : List String := [".xml", ".mml", ".html", ".xhtml"]

/-- The reason why an option file holds no value. -/
def ConfigError.ofDocument : Yaml.Error → ConfigError
  | .malformed => .unreadable
  | .undecodable reason => .undecodable reason
  | .badValue reason => .badValue reason
  | .unknownWord word => .unknownWord word
  | .wrongKind => .wrongKind
  | .emptyText => .outOfRange
  | .notAMoment => .notAMoment
  | .hugeNumber => .hugeNumber

namespace Disk

/-- The document at a path, as a tree without comments and instructions. -/
def readTree (d : Disk) (p : FilePath) : Except FileError Xml.Tree :=
  match d.entry p, d.entry p.located with
  | .missing, _ => .error (.missing p.render)
  | .tooLong, _ => .error .tooLong
  | _, .file bytes =>
    match (Gzip.content? bytes).bind fun content => Xml.parsePlain content true with
    | some t => .ok t
    | none => .error (.malformed p.render)
  | _, _ => .error (.malformed p.render)

def isPresent (d : Disk) (p : FilePath) : Bool :=
  match d.entry p with
  | .missing => false
  | .tooLong => false
  | _ => true

def readQueryTree (d : Disk) (p : FilePath) : Except FileError Xml.Tree :=
  if d.isPresent p ∧ p.extension ∉ documentExtensions then .error (.unsupported p.extension)
  else d.readTree p

def readFormula (d : Disk) (p : FilePath) : Except FileError Element := do
  (← d.readQueryTree p).formula.mapError (.ofDocument p)

def readValue (d : Disk) (p : FilePath) : Except ConfigError Value :=
  match d.entry p with
  | .missing => .error (.missingFile p.render)
  | .folder => .error .directory
  | .tooLong => .error .tooLong
  | .file bytes =>
    match Yaml.readBytes bytes with
    | .ok v => .ok v
    | .error e => .error (ConfigError.ofDocument e)

/-- The set of options that the file at a path holds for a dialect. -/
def readOptions (d : Disk) (p : FilePath) (dialect : Option String) : Except ConfigError Value := do
  Config.chooseOptions p.render (← d.readValue p) dialect

def readConfig (d : Disk) (p : FilePath) (dialect : Option String) : Except ConfigError Config := do
  Config.ofOptions (← d.readOptions p dialect)

end Disk

end FormulaQuery
