import ChatRecords.Log.Entry
import ChatRecords.Message.Reaction

/-!
# Reactions that come and go

## Main definitions

* `Message.reactionAdded`, `Message.reactionRemoved`: a message after a user reacted or took a
  reaction back.
* `Message.removalEntries`: what the latter reports.
-/

namespace ChatRecords
namespace Message

/-- The message after a user reacted, and the reaction that counts it. -/
def reactionAdded (message emoji : Record) (burst me : Bool) (burstColors : List String) :
    Except Fault (Reaction × Record) :=
  (Reactions.recordAdd emoji burst me burstColors (reactions message)).map fun r =>
    (r.1, withReactions message r.2)

/-- The message after a user took a reaction back, and the reaction that counted it, if any is
left. -/
def reactionRemoved (message emoji : Record) (burst me : Bool) :
    Except Fault (Option Reaction × Record) :=
  (Reactions.recordRemove emoji burst me (reactions message)).map fun r =>
    (r.1, withReactions message r.2)

/-- What is reported when a user takes a reaction back that was not counted. -/
def removalEntries (message emoji : Record) : List Log.Entry :=
  match Reactions.find emoji (reactions message) with
  | .ok none =>
    [.of .debug "discord_models.models.message"
      ("Reaction remove for untracked emoji on message " ++
        (((message.get "id").id?.map Snowflake.format).getD "None"))]
  | _ => []

end Message
end ChatRecords
