import ChatRecords.Entries
import ChatRecords.Files.Name

/-!
# Files

The files and directories that a program can reach, and what stands in the way of reaching one.

## Main definitions

* `Files`: the contents of files by name, and directories without files.
* `FileFault`: what stands in the way.
* `Files.walk`: where a name leads.
* `Files.read`: the contents of a file, or why there are none.
* `Files.makeDirectories`: the files after a directory was made with all those above it.
* `Files.placeToWrite`: the name under which a file is written to.

## Design notes

A name is followed part by part: each part but the last has to lead to a directory, also where a
step up follows it. Directories outside of the one in which the program runs are known only by
what is said to lie in them, but those above it and the root are there.
-/

namespace ChatRecords

/-- The files and directories that a program can reach. -/
structure Files where
  /-- The contents of files, by the names of their places. -/
  contents : List (String × List UInt8)
  directories : List String

/-- What stands in the way of a file or a directory. -/
inductive FileFault where
  | missing (name : String)
  /-- The name is that of a directory. -/
  | directory (name : String)
  /-- The name is that of a file where a directory is needed. -/
  | occupied (name : String)
  /-- A part of the name that is not the last is a file. -/
  | insideFile (name : String)
  /-- The name or one of its parts is too long. -/
  | tooLong (name : String)
  /-- The name of a file holds the character that ends names. -/
  | nulInFile
  /-- The name of a directory holds the character that ends names. -/
  | nulInDirectory
deriving DecidableEq

namespace FileFault

/-- The wording of the fault; names are shown by a given function. -/
def message (shown : String → String) : FileFault → String
  | .missing name => "[Errno 2] No such file or directory: " ++ shown name
  | .directory name => "[Errno 21] Is a directory: " ++ shown name
  | .occupied name => "[Errno 17] File exists: " ++ shown name
  | .insideFile name => "[Errno 20] Not a directory: " ++ shown name
  | .tooLong name => "[Errno 36] File name too long: " ++ shown name
  | .nulInFile => "embedded null byte"
  | .nulInDirectory => "mkdir: embedded null character in path"

end FileFault

namespace Files

def ofList (contents : List (String × List UInt8)) : Files := ⟨contents, []⟩

def get? (name : String) (files : Files) : Option (List UInt8) :=
  Entries.get? name files.contents

/-- The files with the contents of one set. -/
def put (name : String) (bytes : List UInt8) (files : Files) : Files :=
  { files with contents := Entries.put name bytes files.contents }

/-- The files after one was renamed, if it exists. A file with the new name is lost. -/
def rename (old new : String) (files : Files) : Files :=
  match files.get? old with
  | some bytes => { files with
      contents := Entries.put new bytes (Entries.erase old files.contents) }
  | none => files

/-- Whether there is a file at a place. -/
def isFile (files : Files) (here : List String) : Bool :=
  (files.get? (FileName.ofPlace here)).isSome

def holds (files : Files) (name : String) : Bool :=
  (files.contents.map Prod.fst ++ files.directories).any fun other =>
    other.startsWith (name ++ "/")

/-- Whether there is a directory at a place. -/
def isDirectory (files : Files) (here : List String) : Bool :=
  match here with
  | [] => true
  | part :: _ =>
    let name := FileName.ofPlace here
    part = FileName.parent || part = FileName.root || files.directories.contains name ||
      files.holds name

/-- The place that parts of a name lead to from another place. The last of them may lead to
nothing. -/
def walk (files : Files) (name : String) : List String → List String → Except FileFault (List String)
  | here, [] => .ok here
  | here, part :: rest =>
    if files.isFile here then .error (.insideFile name)
    else if !files.isDirectory here then .error (.missing name)
    else if FileName.partLimit < part.utf8ByteSize then .error (.tooLong name)
    else walk files name (FileName.step here part) rest

/-- The place that a name leads to, where `shown` is the name in refusals. -/
def reach (files : Files) (shown : String) (parts : List String) : Except FileFault (List String) :=
  if FileName.lengthLimit < shown.utf8ByteSize then .error (.tooLong shown)
  else files.walk shown [] parts

/-- The contents of a file, or why there are none. -/
def read (name : String) (files : Files) : Except FileFault (List UInt8) :=
  let shown := FileName.tidy name
  if FileName.hasNul name then .error .nulInFile
  else do
    let here ← files.reach shown (FileName.parts name)
    match files.get? (FileName.ofPlace here) with
    | some bytes => pure bytes
    | none => throw (if files.isDirectory here then .directory shown else .missing shown)

/-- The files after a directory was made, unless it is there. The parts of its name come last
first. -/
def makeDirectory (files : Files) (parts : List String) : Except FileFault Files := do
  let shown := FileName.ofPlace parts
  let here ← files.reach shown parts.reverse
  if files.isDirectory here then pure files
  else if files.isFile here then throw (.occupied shown)
  else pure { files with directories := files.directories ++ [FileName.ofPlace here] }

/-- The files after a directory was made with those above it that are missing. The parts of its
name come last first. -/
def makeDirectories (files : Files) : List String → Except FileFault Files
  | [] => .ok files
  | part :: above =>
    match files.makeDirectory (part :: above) with
    | .error (.missing _) => do
      let files ← files.makeDirectories above
      files.makeDirectory (part :: above)
    | made => made

/-- The files after the directory of a file was made. -/
def makeDirectoryOf (name : String) (files : Files) : Except FileFault Files :=
  match (FileName.parts name).reverse with
  | [] => .ok files
  | _ :: above =>
    if above.any FileName.hasNul then .error .nulInDirectory else files.makeDirectories above

/-- The name under which a file is written to. -/
def placeToWrite (name : String) (files : Files) : Except FileFault String :=
  let here := FileName.place name
  let shown := FileName.ofPlace here
  if FileName.hasNul name then .error .nulInFile
  else if files.isDirectory here then .error (.directory shown)
  else if here.any fun part => FileName.partLimit < part.utf8ByteSize then .error (.tooLong shown)
  else .ok shown

/-- The names of the files in the directory in which the program runs and in those below it. -/
def isInside (name : String) : Bool :=
  !(name.startsWith FileName.root || name.startsWith (FileName.parent ++ "/"))

end Files
end ChatRecords
