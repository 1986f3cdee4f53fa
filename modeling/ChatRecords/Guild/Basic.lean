import ChatRecords.Keyed
import ChatRecords.Record.Construction

/-!
# Guilds

## Main definitions

* `Guild.hasFeature`, `Guild.role?`: the features and roles of a guild.
* `Channel.isThread`: whether a channel is a thread.
* `VoiceState.connected`, `ScheduledEvent.isRecurring`, `Invite.url`: facts about what belongs
  to a guild.
-/

namespace ChatRecords
namespace Guild

def hasFeature (guild : Record) (feature : String) : Bool :=
  (guild.get "features").items.any fun v => v.text? = some feature

def role? (guild : Record) (id : Int) : Option Record :=
  Keyed.find? (Record.idNumber? "id") id (guild.get "roles").records

end Guild

namespace Channel

/-- The numbers of the channel types that are threads. -/
def threadTypes : List Code := [.number 10, .number 11, .number 12]

def isThread (channel : Record) : Bool :=
  match (channel.get "type").code? with
  | some code => decide (code ∈ threadTypes)
  | none => false

end Channel

namespace VoiceState

/-- Whether a user is connected to a channel. -/
def connected (state : Record) : Bool := !(state.get "channel_id").isNull

end VoiceState

namespace ScheduledEvent

def isRecurring (event : Record) : Bool := !(event.get "recurrence_rule").isNull

end ScheduledEvent

namespace Invite

def url (invite : Record) : String :=
  "https://discord.gg/" ++ ((invite.get "code").text?).getD ""

end Invite
end ChatRecords
