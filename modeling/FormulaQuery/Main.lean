/-
  FormulaQuery/Main.lean
  ======================
  **The command line.**  Reads the files that the arguments name, runs the command on
  them, and prints and writes what comes of it.
-/
import FormulaQuery.Command.Run

namespace FormulaQuery.Command

def readEntry (path : FilePath) : IO Entry := do
  if FilePath.hasZero path.render then return .missing
  try
    let place := (← IO.currentDir) / path.render
    if (← place.metadata).type == .dir then return .folder
    return .file (← IO.FS.readBinFile place).toList
  catch
    | .noFileOrDirectory .. => return .missing
    -- the path goes on behind a file
    | .inappropriateType .. => return .missing
    | .invalidArgument .. => return .tooLong
    | e => throw e

/-- Why a file cannot be written to a path of the file system, in folders that are made if they
    are missing. -/
def readRefusal (path : FilePath) : IO (Option WriteError) := do
  if FilePath.hasZero path.render then return some .zero
  for n in List.range path.parts.length do
    match ← readEntry { path with parts := path.parts.take n } with
    | .file _ => return some (if n + 1 = path.parts.length then .parentIsFile else .throughFile)
    | .tooLong => return some .tooLong
    | _ => pure ()
  match ← readEntry path with
  | .folder => return some .isFolder
  | .tooLong => return some .tooLong
  | _ => return none

def readDisk (s : Settings) : IO Disk := do
  let read := [s.config, s.query, s.topics].filterMap fun path => path.map FilePath.ofString
  let written := (s.jsonOut.toList.filter (· ≠ "")).map FilePath.ofString
  let entries ← (read ++ read.map FilePath.located).mapM fun p => do return (p, ← readEntry p)
  let refusals ← written.mapM fun p => do return (p, ← readRefusal p)
  return { entry := fun p => (entries.lookup p).getD .missing
           refusal := fun p => (refusals.lookup p).getD none }

def writeBytes (path : FilePath) (bytes : List UInt8) : IO Unit := do
  IO.FS.createDirAll path.parent.render
  IO.FS.writeBinFile path.render ⟨bytes.toArray⟩

end FormulaQuery.Command

open FormulaQuery FormulaQuery.Command in
/-- Runs the command; each line of the log starts with the milliseconds of the clock. -/
def main (arguments : List String) : IO UInt32 := do
  let arguments := arguments.map fun a => Text.keepAll a.toList
  let settings := (Settings.ofArguments arguments).toOption.getD {}
  let disk ← readDisk settings
  match run (toString (← IO.monoMsNow)) disk arguments .utf8 with
  | .error f => throw (IO.userError f.message)
  | .ok shown =>
    match shown.written with
    | some (path, bytes) => writeBytes path bytes
    | none => pure ()
    IO.print (Text.plain shown.output)
    IO.eprint (Text.plain shown.messages)
    return shown.code.toUInt32
