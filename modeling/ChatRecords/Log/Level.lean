import ChatRecords.Text.UpperCase

/-!
# Log levels

How grave a log entry is: a number, some of which have names.

## Main definitions

* `Log.Level`: the levels that have names.
* `Log.Level.ofName?`: the level with a name.
* `Log.Level.find`: the level that a configuration names, or why there is none.
* `Log.levelName`: how a number is shown.
-/

namespace ChatRecords
namespace Log

/-- The levels that have names. -/
inductive Level where
  | unset
  /-- For those who look for a fault. -/
  | debug
  | info
  | warning
  | error
  | critical
deriving DecidableEq

namespace Level

def number : Level → Int
  | .unset => 0
  | .debug => 10
  | .info => 20
  | .warning => 30
  | .error => 40
  | .critical => 50

def name : Level → String
  | .unset => "NOTSET"
  | .debug => "DEBUG"
  | .info => "INFO"
  | .warning => "WARNING"
  | .error => "ERROR"
  | .critical => "CRITICAL"

def all : List Level := [.unset, .debug, .info, .warning, .error, .critical]

/-- The levels that a configuration can ask for. -/
def choices : List Level := [.debug, .info, .warning, .error, .critical]

def aliases : List (String × Level) := [("WARN", .warning), ("FATAL", .critical)]

/-- The level with a name, in upper case. -/
def ofName? (name : String) : Option Level :=
  match all.find? (·.name = name) with
  | some level => some level
  | none => aliases.lookup name

end Level

/-- Why a configuration does not name a level. -/
inductive LevelFault where
  | missing (name : String)
  /-- Something else than a level has the name. -/
  | otherThing
deriving DecidableEq

def LevelFault.message : LevelFault → String
  | .missing name => "module 'logging' has no attribute '" ++ name ++ "'"
  | .otherThing => "level must be an integer"

/-- Names beside those of levels: that of the standard layout of lines, and that of the ways to
write layouts. -/
def otherNames : List String := ["BASIC_FORMAT", "_STYLES"]

/-- The level that a configuration names, in any case. -/
def Level.find (name : String) : Except LevelFault Level :=
  let name := Text.toUpper name
  match Level.ofName? name with
  | some level => .ok level
  | none => .error (if otherNames.contains name then .otherThing else .missing name)

/-- A level number as it is shown: its name, or the number itself if it has none. -/
def levelName (n : Int) : String :=
  match Level.all.find? (·.number = n) with
  | some level => level.name
  | none => "Level " ++ toString n

end Log
end ChatRecords
