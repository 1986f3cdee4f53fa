import ChatRecords.Log.Level

/-!
# Log entries

## Main definitions

* `Log.Entry`: a message with its level and the name of its logger.
* `Log.Entry.brief`, `Log.Entry.line`: an entry in a list and in a log.
-/

namespace ChatRecords
namespace Log

/-- A message to a log. -/
structure Entry where
  logger : String
  level : Int
  message : String
deriving DecidableEq

namespace Entry

/-- An entry at a level that has a name. -/
def of (level : Level) (logger message : String) : Entry := ⟨logger, level.number, message⟩

def brief (e : Entry) : String :=
  levelName e.level ++ " " ++ e.logger ++ ": " ++ e.message

/-- The name of the logger as it is shown; the one without a name is the root of the others. -/
def loggerName (e : Entry) : String := if e.logger = "" then "root" else e.logger

/-- A line of a log: the time, the level in eight columns, the logger and the message. -/
def line (time : String) (e : Entry) : String :=
  let level := levelName e.level
  time ++ " " ++ level ++ String.ofList (List.replicate (8 - level.length) ' ') ++ " " ++
    e.loggerName ++ ": " ++ e.message

end Entry

/-- The entries that are at least as grave as a level. -/
def atLeast (level : Int) (entries : List Entry) : List Entry :=
  entries.filter fun e => level ≤ e.level

end Log
end ChatRecords
