import ChatRecords.Log.Entry
import ChatRecords.Typing.Indicator

/-!
# What typing indicators report

## Main definitions

* `TypingIndicator.addEntries`, `reapEntries`, `closeEntries`: the entries about an operation, given
  the indicator before it.
-/

namespace ChatRecords
namespace TypingIndicator

variable {υ τ : Type} [DecidableEq υ]

def entry (s : TypingIndicator υ τ) (text : String) : Log.Entry :=
  .of .debug "discord_models.typing_indicator" ("Typing[" ++ s.name ++ "]: " ++ text)

/-- A start on a closed indicator is reported. -/
def addEntries (user : String) (s : TypingIndicator υ τ) : List Log.Entry :=
  if s.closed then [s.entry ("ignoring add of " ++ user ++ " after close")] else []

/-- The number of users that were taken out is reported unless it is zero. -/
def reapEntries [LE τ] [DecidableLE τ] (now : τ) (s : TypingIndicator υ τ) : List Log.Entry :=
  let count := s.reapCount now
  if count = 0 then [] else [s.entry ("evicted " ++ toString count ++ " user(s)")]

def closeEntries (s : TypingIndicator υ τ) : List Log.Entry :=
  if s.closed then [] else [s.entry "closed"]

end TypingIndicator
end ChatRecords
