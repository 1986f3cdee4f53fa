import ChatRecords.Log.Entry
import ChatRecords.Server.Basic

/-!
# The channels of a server

Channels and threads are kept apart and are looked up in this order by one identifier.

## Main definitions

* `Server.channel?`, `addChannel`, `updateChannel`, `deleteChannel`: the channels.
* `Server.addMessage`, `message?`, `updateMessage`, `deleteMessage`: the messages in them.
* `Server.startTyping`, `stopTyping`: who is typing in them.
* `Server.updateChannelEntries`, `addMessageEntries`: what is reported about an operation, given the
  server before it.
-/

namespace ChatRecords
namespace Server

/-- The first channel with an identifier, or else the first thread. -/
def channel? (id : Int) (s : Server) : Option CachedChannel :=
  (Keyed.find? CachedChannel.id? id s.channels).orElse fun _ =>
    Keyed.find? CachedChannel.id? id s.threads

/-- Whether a channel that is no thread has an identifier. -/
def isListed (id : Int) (s : Server) : Bool := (Keyed.find? CachedChannel.id? id s.channels).isSome

/-- The server with one more channel or thread. -/
def addChannel (channel : Record) (s : Server) : Server :=
  let channel := CachedChannel.ofRecord channel
  if channel.isThread then { s with threads := s.threads ++ [channel] }
  else { s with channels := s.channels ++ [channel] }

/-- The server with the channel with an identifier changed in its place, if there is one. -/
def modifyChannel (id : Int) (f : CachedChannel → CachedChannel) (s : Server) : Server :=
  if s.isListed id then { s with channels := Keyed.modify CachedChannel.id? id f s.channels }
  else { s with threads := Keyed.modify CachedChannel.id? id f s.threads }

/-- The server with a newer record of the channel with an identifier. -/
def updateChannel (id : Int) (channel : Record) (s : Server) : Server :=
  s.modifyChannel id (CachedChannel.inherit channel)

/-- The channel with an identifier, whose indicator is closed, and the server without it. -/
def deleteChannel (id : Int) (s : Server) : Option CachedChannel × Server :=
  match s.channel? id with
  | none => (none, s)
  | some channel =>
    (some channel.closeTyping,
      if s.isListed id then { s with channels := Keyed.erase CachedChannel.id? id s.channels }
      else { s with threads := Keyed.erase CachedChannel.id? id s.threads })

/-- The server after a message arrived in its channel. -/
def addMessage (message : Record) (s : Server) : Server :=
  match message.idNumber? "channel_id" with
  | some id => s.modifyChannel id (CachedChannel.addMessage message)
  | none => s

/-- The message with an identifier in a channel. -/
def message? (channel id : Int) (s : Server) : Option Record :=
  (s.channel? channel).bind (CachedChannel.message? id)

/-- The server with a newer record of a message in its channel. -/
def updateMessage (message : Record) (s : Server) : Server :=
  match message.idNumber? "channel_id" with
  | some id => s.modifyChannel id (CachedChannel.updateMessage message)
  | none => s

/-- The message with an identifier in a channel, and the server without it. -/
def deleteMessage (channel id : Int) (s : Server) : Option Record × Server :=
  ((s.channel? channel).bind fun c => (c.deleteMessage id).1,
    s.modifyChannel channel fun c => (c.deleteMessage id).2)

/-- The server after a user started to type in a channel. -/
def startTyping (now : Double) (channel user : Int) (s : Server) : Server :=
  s.modifyChannel channel (CachedChannel.startTyping now user)

/-- The server after a user stopped typing in a channel. -/
def stopTyping (channel user : Int) (s : Server) : Server :=
  s.modifyChannel channel (CachedChannel.stopTyping user)

def entry (text : String) : Log.Entry := .of .debug "discord_models.models.server" text

def idText (id : Option Int) : String := (id.map toString).getD "None"

/-- A newer record of an unknown channel is reported. -/
def updateChannelEntries (id : Int) (s : Server) : List Log.Entry :=
  if (s.channel? id).isSome then []
  else
    [entry ("Update for unknown channel " ++ toString id ++ " in guild " ++ idText s.id?)]

/-- A message that arrived in an unknown channel is reported. -/
def addMessageEntries (message : Record) (s : Server) : List Log.Entry :=
  let channel := message.idNumber? "channel_id"
  if (channel.bind s.channel?).isSome then []
  else
    [entry ("Message " ++ idText (message.idNumber? "id") ++ " for unknown channel " ++
      idText channel)]

end Server
end ChatRecords
