import ChatRecords.Server.Basic

/-!
# The roles and users of a server

Four collections in the order of arrival: roles by their identifier, members and presences by that
of their user, voice states by that of the user they belong to. A member without a user cannot be
looked up.

## Main definitions

* `Server.role?`, `addRole`, `updateRole`, `deleteRole`: the roles.
* `Server.member?`, `hasMember`, `addMember`, `updateMember`, `deleteMember`: the members.
* `Server.hasPresence`, `addPresence`, `updatePresence`: the presences.
* `Server.voiceState?`, `addVoiceState`, `updateVoiceState`: the voice states.
-/

namespace ChatRecords
namespace Server

def roleKey? (role : Record) : Option Int := role.idNumber? "id"

/-- The identifier of the user of a member or of a presence. -/
def userKey? (r : Record) : Option Int := (r.get "user").record?.bind (Record.idNumber? "id")

/-- The identifier of the user of a voice state. -/
def voiceKey? (state : Record) : Option Int := state.idNumber? "user_id"

def role? (id : Int) (s : Server) : Option Record := Keyed.find? roleKey? id s.roles

def addRole (role : Record) (s : Server) : Server := { s with roles := s.roles ++ [role] }

/-- The server with a newer record of the role with an identifier. -/
def updateRole (id : Int) (role : Record) (s : Server) : Server :=
  { s with roles := Keyed.replace roleKey? id role s.roles }

/-- The role with an identifier, and the server without it. -/
def deleteRole (id : Int) (s : Server) : Option Record × Server :=
  (s.role? id, { s with roles := Keyed.erase roleKey? id s.roles })

def member? (user : Int) (s : Server) : Option Record := Keyed.find? userKey? user s.members

def hasMember (user : Int) (s : Server) : Bool := (s.member? user).isSome

def addMember (member : Record) (s : Server) : Server :=
  { s with members := s.members ++ [member] }

/-- The server with a newer record of the member with a user. -/
def updateMember (user : Int) (member : Record) (s : Server) : Server :=
  { s with members := Keyed.replace userKey? user member s.members }

/-- The member with a user, and the server without it. -/
def deleteMember (user : Int) (s : Server) : Option Record × Server :=
  (s.member? user, { s with members := Keyed.erase userKey? user s.members })

def presence? (user : Int) (s : Server) : Option Record := Keyed.find? userKey? user s.presences

def hasPresence (user : Int) (s : Server) : Bool := (s.presence? user).isSome

def addPresence (presence : Record) (s : Server) : Server :=
  { s with presences := s.presences ++ [presence] }

/-- The server with a newer presence of a user. -/
def updatePresence (user : Int) (presence : Record) (s : Server) : Server :=
  { s with presences := Keyed.replace userKey? user presence s.presences }

def voiceState? (user : Int) (s : Server) : Option Record :=
  Keyed.find? voiceKey? user s.voiceStates

def addVoiceState (state : Record) (s : Server) : Server :=
  { s with voiceStates := s.voiceStates ++ [state] }

/-- The server with a newer voice state of its user, who may have had none. -/
def updateVoiceState (state : Record) (s : Server) : Server :=
  match voiceKey? state with
  | some user => { s with voiceStates := Keyed.upsert voiceKey? user state s.voiceStates }
  | none => s.addVoiceState state

end Server
end ChatRecords
