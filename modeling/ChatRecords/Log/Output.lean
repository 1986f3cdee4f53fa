import ChatRecords.Log.Entry
import ChatRecords.Log.RotatingFile
import ChatRecords.Text.Quoted

/-!
# Where log entries go

Entries that are grave enough are written as lines to a stream and, on request, to a file.

## Main definitions

* `Log.Output`: what was written so far, and what is written.
* `Log.Output.start`: an output for entries from a named level on.
* `Log.Output.write`: the output after an entry.
-/

namespace ChatRecords
namespace Log

/-- Why log entries cannot be written. -/
inductive SetupFault where
  /-- There is no level with the name. -/
  | unknownLevel (name : String)
  | file (fault : FileFault)
deriving DecidableEq

def SetupFault.message : SetupFault → String
  | .unknownLevel name => "Unknown level: " ++ Text.quote name
  | .file fault => fault.message Text.quote

/-- The lines of log entries, and where more are written. -/
structure Output where
  level : Int
  file : Option RotatingFile
  stream : String
  files : Files

namespace Output

/-- The output after an entry that was made at a time. An entry whose level is not positive is
never written. -/
def write (time : String) (e : Entry) (out : Output) : Output :=
  if e.level ≤ 0 ∨ e.level < out.level then out
  else
    let line := e.line time
    { out with
      stream := out.stream ++ line ++ "\n"
      files := match out.file with
        | some file => file.append line out.files
        | none => out.files }

def writeAll (time : String) (entries : List Entry) (out : Output) : Output :=
  entries.foldl (fun out e => out.write time e) out

/-- The file to log to, in a directory that is made if it is missing, and all files. -/
def openFile (name : String) (maxBytes backups : Int) (files : Files) :
    Except FileFault (RotatingFile × Files) := do
  let files ← files.makeDirectoryOf name
  let file : RotatingFile := ⟨← files.placeToWrite name, maxBytes, backups⟩
  pure (file, file.opened files)

/-- An output for entries from a level on, and to a file if its name is not empty. The level is
found after the file was opened, and the file is reported. -/
def startWith (time : String) (level : Except SetupFault Int) (file : Option String)
    (maxBytes backups : Int) (files : Files) : Except SetupFault Output :=
  match file.filter (· ≠ "") with
  | none => do pure ⟨← level, none, "", files⟩
  | some name => do
    let (file, files) ← (openFile name maxBytes backups files).mapError SetupFault.file
    pure (Output.write time (.of .debug "discord_models.config" ("Writing logs to " ++ name))
      ⟨← level, some file, "", files⟩)

/-- The number of the level with a name in any case. -/
def levelNumber (name : String) : Except SetupFault Int :=
  match Level.ofName? (Text.toUpper name) with
  | some level => .ok level.number
  | none => .error (.unknownLevel (Text.toUpper name))

/-- An output for entries from a level on, which is given by its name in any case. -/
def start (time levelName : String) (file : Option String) (maxBytes backups : Int)
    (files : Files) : Except SetupFault Output :=
  startWith time (levelNumber levelName) file maxBytes backups files

/-- An output for entries from a level on. -/
def startAt (time : String) (level : Level) (file : Option String) (maxBytes backups : Int)
    (files : Files) : Except SetupFault Output :=
  startWith time (.ok level.number) file maxBytes backups files

end Output
end Log
end ChatRecords
