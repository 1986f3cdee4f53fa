import ChatRecords.Command.Run

/-!
# The program

Gathers what a run of the command needs, runs it, and writes down what it leaves.
-/

namespace ChatRecords
namespace Program

/-- All bytes that are left on a stream. -/
partial def readAll (stream : IO.FS.Stream) (read : ByteArray) : IO ByteArray := do
  let chunk ← stream.read 65536
  if chunk.isEmpty then pure read else readAll stream (read ++ chunk)

/-- The contents of a file, if it can be read. -/
def readFile? (name : String) : IO (Option (List UInt8)) := do
  try
    let bytes ← IO.FS.readBinFile name
    pure (some bytes.toList)
  catch _ => pure none

/-- Files with one more, if it can be read. -/
def gather (name : String) (files : Files) : IO Files := do
  match ← readFile? name with
  | some bytes => pure (files.put name bytes)
  | none => pure files

/-- Files with what stands at a place: a file, a directory or nothing. -/
def gatherPlace (here : List String) (files : Files) : IO Files := do
  let name := FileName.ofPlace here
  if ← ((← IO.currentDir) / name).isDir then
    pure { files with directories := files.directories ++ [name] }
  else gather name files

/-- Files with everything that a name leads through. -/
def gatherAlong (name : String) (files : Files) : IO Files := do
  let mut here : List String := []
  let mut files := files
  for part in FileName.parts name do
    here := FileName.step here part
    files ← gatherPlace here files
  pure files

/-- Files with the older generations of a log file, from one on. -/
partial def gatherOlder (file : Log.RotatingFile) (i : Nat) (files : Files) : IO Files := do
  match ← readFile? (file.older i) with
  | some bytes => gatherOlder file (i + 1) (files.put (file.older i) bytes)
  | none => pure files

def environment (names : List String) : IO Environment := do
  let values ← names.mapM fun name => do pure ((← IO.getEnv name).map fun value => (name, value))
  pure (values.filterMap id)

def twoDigits (n : Nat) : String := (if n < 10 then "0" else "") ++ toString n

/-- The time of day, taken from a fresh file. -/
def timeOfDay : IO String := do
  let (_, path) ← IO.FS.createTempFile
  let seconds := (← path.metadata).modified.sec
  IO.FS.removeFile path
  let second := (seconds % 86400).toNat
  pure (twoDigits (second / 3600) ++ ":" ++ twoDigits (second / 60 % 60) ++ ":" ++
    twoDigits (second % 60))

/-- The name of the directory of a file. -/
def directoryOf (name : String) : String := "/".intercalate (name.splitOn "/").dropLast

/-- Writes down the files that changed and the directories that were made. -/
def store (before after : Files) : IO Unit := do
  for name in after.directories do
    if !before.directories.contains name then IO.FS.createDirAll name
  for (name, bytes) in after.contents do
    if before.get? name ≠ some bytes then
      let directory := directoryOf name
      if directory ≠ "" then IO.FS.createDirAll directory
      IO.FS.writeBinFile name ⟨bytes.toArray⟩
  for (name, _) in before.contents do
    if (after.get? name).isNone then IO.FS.removeFile name

def gatherAll (arguments : List String) (environment : Environment) (files : Files) :
    IO Files := do
  let files ← match Command.logFile? environment files with
    | some (name, file) => do
      gatherOlder file 1 (← gather file.name (← gatherAlong name files))
    | none => pure files
  match Arguments.read arguments with
  | .ok (.run ⟨_, some name, _⟩) => gatherAlong name files
  | _ => pure files

/-- The input of a run, if it is read. -/
def inputOf (arguments : List String) : IO (List UInt8) := do
  match Arguments.read arguments with
  | .ok (.run ⟨_, none, _⟩) => pure (← readAll (← IO.getStdin) ByteArray.empty).toList
  | _ => pure []

def run (arguments : List String) : IO UInt32 := do
  let files ← gather Command.envFileName (.ofList [])
  let environment ← environment (Command.variableNames files)
  let files ← gatherAll arguments environment files
  match Command.run ⟨arguments, ← inputOf arguments, environment, files, ← timeOfDay⟩ with
  | .ok outcome => do
    store files outcome.files
    IO.eprint outcome.complaints
    IO.print outcome.output
    pure outcome.status.toUInt32
  | .error failure => do
    IO.eprintln failure.message
    pure 1

end Program
end ChatRecords

/-- Decodes a payload as a record and prints it. -/
def main (arguments : List String) : IO UInt32 := ChatRecords.Program.run arguments
