import ChatRecords.Files.Basic

/-!
# Log files with older generations

A log file that is kept below a size. Before a line that would make it reach the size, the file
becomes the first of a row of older files; those move up by one and the last is lost.

## Main definitions

* `Log.RotatingFile`: the name of a log file and its limits.
* `Log.RotatingFile.opened`: the files after the log file was opened.
* `Log.RotatingFile.rotated`: the files after the log file became an older one.
* `Log.RotatingFile.append`: the files after a line was written.

## Design notes

The size of the file is counted in bytes, that of the line to come in characters.
-/

namespace ChatRecords
namespace Log

/-- A log file that is kept below a size. -/
structure RotatingFile where
  name : String
  /-- The size that the file does not reach; none if it is not positive. -/
  maxBytes : Int
  /-- How many older files are kept; if none are, the file grows. -/
  backups : Int
deriving DecidableEq

namespace RotatingFile

/-- The name of an older file: one for the latest. -/
def older (f : RotatingFile) (i : Nat) : String := f.name ++ "." ++ toString i

def contents (f : RotatingFile) (files : Files) : List UInt8 :=
  (files.get? f.name).getD []

/-- The files after the log file was opened: it exists. -/
def opened (f : RotatingFile) (files : Files) : Files := files.put f.name (f.contents files)

/-- The files after each of the latest `n` older ones moved up by one. -/
def shifted (f : RotatingFile) : (n : Nat) → Files → Files
  | 0, files => files
  | n + 1, files => shifted f n (files.rename (f.older (n + 1)) (f.older (n + 2)))

/-- The files after the log file became the latest of the older ones. -/
def rotated (f : RotatingFile) (files : Files) : Files :=
  if 0 < f.backups then
    f.opened ((f.shifted (f.backups.toNat - 1) files).rename f.name (f.older 1))
  else files

/-- Whether a line would make the log file reach its size. -/
def overflows (f : RotatingFile) (line : String) (files : Files) : Bool :=
  decide (0 < f.maxBytes ∧ f.maxBytes ≤ (f.contents files).length + (line.length + 1))

def append (f : RotatingFile) (line : String) (files : Files) : Files :=
  let files := if f.overflows line files then f.rotated files else files
  files.put f.name (f.contents files ++ (line ++ "\n").toUTF8.toList)

end RotatingFile
end Log
end ChatRecords
