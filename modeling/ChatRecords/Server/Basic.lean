import ChatRecords.Channel.Cached
import ChatRecords.Record.Rebuilding
import ChatRecords.User

/-!
# Servers

A guild together with what a gateway tells about it: its channels and threads with their messages,
its members, their presences and voice states.

## Main definitions

* `Server`: the fields of the guild and the collections kept beside them.
* `Server.ofRecord`, `Server.toRecord`: a server as a record.
* `Server.ofGuild?`, `Server.updateGuild`: a server from a guild, and with the fields of a guild.

## Design notes

A collection is held once: in the profile the fields of the collections are empty, and
`Server.toRecord` fills them in.
-/

namespace ChatRecords

/-- A guild with what a gateway tells about it. -/
structure Server where
  profile : Record
  roles : List Record
  members : List Record
  presences : List Record
  voiceStates : List Record
  channels : List CachedChannel
  threads : List CachedChannel

namespace Server

def collectionFields : List String :=
  ["roles", "members", "presences", "voice_states", "channels", "threads"]

/-- A record without the contents of the collections. -/
def bare (r : Record) : Record := collectionFields.foldl (fun r name => r.set name (.list [])) r

def ofRecord (r : Record) : Server where
  profile := bare r
  roles := (r.get "roles").records
  members := (r.get "members").records
  presences := (r.get "presences").records
  voiceStates := (r.get "voice_states").records
  channels := (r.get "channels").records.map CachedChannel.ofRecord
  threads := (r.get "threads").records.map CachedChannel.ofRecord

/-- The value of a field that lists records. -/
def listing (records : List Record) : Value := .list (records.map Record.toValue)

def toRecord (s : Server) : Record :=
  let collections : List (String × List Record) :=
    [("roles", s.roles), ("members", s.members), ("presences", s.presences),
     ("voice_states", s.voiceStates), ("channels", s.channels.map CachedChannel.profile),
     ("threads", s.threads.map CachedChannel.profile)]
  collections.foldl (fun r e => r.set e.1 (listing e.2)) s.profile

/-- The server of a guild of which nothing else is known, if the fields of the guild hold values
of their types. -/
def ofGuild? (guild : Record) : Option Server :=
  (Record.build? .server (RecordKind.guild.fields.map fun f => (f.name, guild.get f.name))).map
    ofRecord

/-- The fields of a guild but for its roles. -/
def guildFields : List String := (RecordKind.guild.fields.map fun f => f.name).filter (· ≠ "roles")

/-- The server with the fields of a guild; what the gateway told stays. -/
def updateGuild (guild : Record) (s : Server) : Server :=
  { s with
    profile := guildFields.foldl (fun r name => r.set name (guild.get name)) s.profile
    roles := (guild.get "roles").records }

def id? (s : Server) : Option Int := s.profile.idNumber? "id"

def name? (s : Server) : Option String := (s.profile.get "name").text?

def hasFeature (feature : String) (s : Server) : Bool := Guild.hasFeature s.profile feature

end Server
end ChatRecords
