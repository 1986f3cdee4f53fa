import ChatRecords.Server.Members

/-!
# Guilds and servers in the hands of a caller

A server that is made of a guild has a list of roles of its own. A server that is brought up to date
with a guild takes over the list of the guild as it is: from then on there is one list of roles, and
what the server does to it is seen in the guild.

## Main definitions

* `Holdings`: guilds and servers, with the lists of their roles.
* `Holdings.guild?`, `Holdings.server?`: a guild and a server as their caller sees them.
* `Holdings.ofGuild?`, `Holdings.updateGuild`: the two ways to pass a guild to a server.
* `Holdings.apply`: an operation on a server.

## Design notes

No other list that a guild has is changed by an operation on a server, so that it does not matter
whether these are shared.
-/

namespace ChatRecords

/-- The guilds and the servers that a caller has. -/
structure Holdings where
  /-- The lists of roles, each at a place of its own. -/
  roleLists : List (List Record)
  /-- The guilds, each with the place of its roles, which are not those of the record. -/
  guilds : List (Record × Nat)
  /-- The servers, each with the place of its roles. -/
  servers : List (Server × Nat)

namespace Holdings

def empty : Holdings := ⟨[], [], []⟩

def rolesAt (place : Nat) (h : Holdings) : List Record := h.roleLists[place]?.getD []

/-- A guild with the roles at a place. -/
def guildAt (guild : Record × Nat) (h : Holdings) : Record :=
  guild.1.set "roles" (Server.listing (h.rolesAt guild.2))

/-- A server with the roles at a place. -/
def serverAt (server : Server × Nat) (h : Holdings) : Server :=
  { server.1 with roles := h.rolesAt server.2 }

def guild? (i : Nat) (h : Holdings) : Option Record := h.guilds[i]?.map (h.guildAt ·)

def server? (j : Nat) (h : Holdings) : Option Server := h.servers[j]?.map (h.serverAt ·)

/-- The holdings with one more guild. -/
def addGuild (guild : Record) (h : Holdings) : Holdings :=
  { h with
    roleLists := h.roleLists ++ [(guild.get "roles").records]
    guilds := h.guilds ++ [(guild, h.roleLists.length)] }

/-- The holdings with one more server. -/
def addServer (server : Server) (h : Holdings) : Holdings :=
  { h with
    roleLists := h.roleLists ++ [server.roles]
    servers := h.servers ++ [(server, h.roleLists.length)] }

/-- The holdings with one more server, made of a guild. -/
def ofGuild? (i : Nat) (h : Holdings) : Option Holdings :=
  ((h.guild? i).bind Server.ofGuild?).map (h.addServer ·)

/-- A server is brought up to date with a guild and has the list of the roles of the guild then. -/
def updateGuild (j i : Nat) (h : Holdings) : Holdings :=
  match h.guilds[i]? with
  | some guild =>
    { h with servers := h.servers.modify j fun e => (e.1.updateGuild (h.guildAt guild), guild.2) }
  | none => h

/-- An operation on a server changes its list of roles in its place. -/
def apply (j : Nat) (f : Server → Server) (h : Holdings) : Holdings :=
  match h.servers[j]? with
  | some server =>
    let changed := f (h.serverAt server)
    { h with
      roleLists := h.roleLists.set server.2 changed.roles
      servers := h.servers.set j (changed, server.2) }
  | none => h

end Holdings
end ChatRecords
