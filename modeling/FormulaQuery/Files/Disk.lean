/-
  FormulaQuery/Files/Disk.lean
  ============================
  **What stands at a path.**  A disk tells what stands at each path and which paths
  can be written to.  A folder of files is a disk: the folders in it are those that
  its files lie in, and what lies outside of it is not known.
-/
import FormulaQuery.Files.Path

namespace FormulaQuery

inductive Entry where
  | missing
  | folder
  | file (bytes : List UInt8)
  /-- The path or one of its parts is too long to tell. -/
  | tooLong
  deriving DecidableEq, Repr

inductive WriteError where
  | parentIsFile
  | throughFile
  | isFolder
  | tooLong
  | zero
  deriving DecidableEq, Repr

/-- A disk: what stands at each path, and why a path cannot be written to. -/
structure Disk where
  entry : FilePath → Entry
  refusal : FilePath → Option WriteError

structure Folder where
  files : List (List String × List UInt8)
  deriving DecidableEq, Repr

namespace Folder

def ofFiles (files : List (String × List UInt8)) : Folder :=
  ⟨files.map fun f => ((FilePath.ofString f.1).parts, f.2)⟩

def under (d : Folder) (names : List String) : Entry :=
  match d.files.lookup names with
  | some bytes => .file bytes
  | none => if names.isEmpty || d.files.any (names.isPrefixOf ·.1) then .folder else .missing

inductive Place where
  | outside
  | inside (names : List String)
  deriving DecidableEq, Repr

def Place.above : Place → Place
  | outside => outside
  | inside [] => outside
  | inside (n :: names) => inside (n :: names).dropLast

/-- What stands at a place; outside there are folders only. -/
def atPlace (d : Folder) : Place → Entry
  | .outside => .folder
  | .inside names => d.under names

/-- Where the parts of a path lead to, or what stands there if they lead nowhere: each
    part but the last has to be a folder. -/
def walk (d : Folder) : Place → List String → Except Entry Place
  | p, [] => .ok p
  | p, part :: rest =>
    if d.atPlace p ≠ .folder then .error .missing
    else if part = ".." then d.walk p.above rest
    else if FilePath.isLongPart part then .error .tooLong
    else match p with
      | .outside => .error .missing
      | .inside names => d.walk (.inside (names ++ [part])) rest

def start (p : FilePath) : Place := if p.root = "" then .inside [] else .outside

def entry (d : Folder) (p : FilePath) : Entry :=
  if FilePath.hasZero p.render then .missing
  else if p.isLong then .tooLong
  else
    match d.walk (start p) p.parts with
    | .ok place => d.atPlace place
    | .error e => e

/-- Where the parts of a path lead to if missing folders are made on the way. -/
def makeFolders (d : Folder) : Place → List String → Except WriteError Place
  | p, [] =>
    match d.atPlace p with
    | .file _ => .error .parentIsFile
    | _ => .ok p
  | p, part :: rest =>
    match d.atPlace p with
    | .file _ => .error .throughFile
    | _ =>
      if part = ".." then d.makeFolders p.above rest
      else if FilePath.isLongPart part then .error .tooLong
      else match p with
        | .outside => d.makeFolders .outside rest
        | .inside names => d.makeFolders (.inside (names ++ [part])) rest

/-- The place of a file that is written, with the folders above it made. -/
def target (d : Folder) (p : FilePath) : Except WriteError Place := do
  if FilePath.hasZero p.parent.render then throw .zero
  if p.parent.isLong then throw .tooLong
  -- folders are made before the name of the file is looked at
  let place ← d.makeFolders (start p) p.parent.parts
  if FilePath.hasZero p.name then throw .zero
  if p.isLong ∨ FilePath.isLongPart p.name then throw .tooLong
  if p.name = ".." ∨ p.name = "" then throw .isFolder
  match place with
  | .outside => return .outside
  | .inside names =>
    match d.under (names ++ [p.name]) with
    | .folder => throw .isFolder
    | _ => return .inside (names ++ [p.name])

def disk (d : Folder) : Disk where
  entry := d.entry
  refusal p :=
    match d.target p with
    | .ok _ => none
    | .error e => some e

/-- The folder with a file written; what is written outside is not seen. -/
def write (d : Folder) (p : FilePath) (bytes : List UInt8) : Folder :=
  match d.target p with
  | .ok (.inside names) => ⟨d.files.filter (·.1 != names) ++ [(names, bytes)]⟩
  | _ => d

def changes (old new : Folder) : List (String × List UInt8) :=
  (new.files.filter fun f => old.files.lookup f.1 != some f.2).map fun f =>
    (Text.join "/" f.1, f.2)

end Folder

end FormulaQuery
