import ChatRecords.Proofs.Server.Reached
import ChatRecords.Server.Caller

/-!
# Roles that servers share with a guild

A program has guilds and servers, makes servers of guilds, brings servers up to date with guilds and
changes the servers. A guild changes with a server only while the server was last brought up to date
with it, and then only in its roles.

## Main definitions

* `Holdings.Call`: a step of a program, with `Holdings.Call.perform` and `Holdings.run`.
* `Holdings.FitsAll`: steps that a program can take.
* `Holdings.follow`: which guild each server was last brought up to date with.
* `Holdings.roleCalls`: what happens to the roles of a guild.
* `Holdings.IsTracked`: the servers share their roles with the guilds that they follow.
* `Holdings.IsSound`: guilds and their roles are records of their kinds.

## Main results

* `Holdings.IsSound.perform`: the servers that follow a guild are known after a step, too.
* `Holdings.IsTracked.rolesAt_perform`, `rolesAt_run`: what becomes of the roles of a guild.
* `Holdings.guild_of_run`: what becomes of a guild that a program passes on.
-/

namespace ChatRecords
namespace Holdings

/-! ## Programs -/

/-- What a program does with guilds and servers. These are numbered in the order in which it gets
them. -/
inductive Call where
  | addGuild (guild : Record)
  | addServer (server : Server)
  /-- A server is made of a guild. -/
  | ofGuild (i : Nat)
  /-- A server is brought up to date with a guild. -/
  | updateGuild (j i : Nat)
  /-- Anything else is done with a server. -/
  | onServer (j : Nat) (call : ServerCall)

namespace Call

def perform : Call → Holdings → Holdings
  | addGuild guild, h => h.addGuild guild
  | addServer server, h => h.addServer server
  | ofGuild i, h => (h.ofGuild? i).getD h
  | updateGuild j i, h => h.updateGuild j i
  | onServer j call, h => h.apply j call.perform

/-- A step that a program can take: it has the guild and the server, and the records that it gives
are of the right kinds. -/
def Fits (h : Holdings) : Call → Prop
  | addGuild guild => guild.Conforms .guild
  | addServer _ => True
  | ofGuild i => i < h.guilds.length
  | updateGuild j i => j < h.servers.length ∧ i < h.guilds.length
  | onServer j call => j < h.servers.length ∧ call.IsTyped ∧ ∀ guild, call ≠ .updateGuild guild

/-- The guilds that the servers follow after a step. -/
def follow : Call → List (Option Nat) → List (Option Nat)
  | addServer _, followed | ofGuild _, followed => followed ++ [none]
  | updateGuild j i, followed => followed.set j (some i)
  | addGuild _, followed | onServer _ _, followed => followed

/-- What a step does to the roles of a guild, given the guilds that the servers follow. -/
def roleCall? (i : Nat) (followed : List (Option Nat)) : Call → Option (Keyed.Call Record Int)
  | onServer j call =>
    if followed[j]? = some (some i) then Collection.roles.step? call else none
  | _ => none

end Call

/-- The holdings after some steps. -/
def run (calls : List Call) (h : Holdings) : Holdings := calls.foldl (fun h call => call.perform h) h

def FitsAll : Holdings → List Call → Prop
  | _, [] => True
  | h, call :: rest => call.Fits h ∧ FitsAll (call.perform h) rest

/-- The guilds that the servers follow after some steps: for each server the guild that it was last
brought up to date with, if it was with any. -/
def follow (calls : List Call) (followed : List (Option Nat)) : List (Option Nat) :=
  calls.foldl (fun followed call => call.follow followed) followed

/-- What some steps do to the roles of a guild, given the guilds that the servers follow before. -/
def roleCalls (i : Nat) : List (Option Nat) → List Call → List (Keyed.Call Record Int)
  | _, [] => []
  | followed, call :: rest =>
    (call.roleCall? i followed).toList ++ roleCalls i (call.follow followed) rest

/-- The places of the roles of the guilds. -/
def guildPlaces (h : Holdings) : List Nat := h.guilds.map Prod.snd

/-- The places of the roles of the servers. -/
def serverPlaces (h : Holdings) : List Nat := h.servers.map Prod.snd

/-- Guilds have places of their own, and a server has the place of the guild that it follows. -/
structure IsTracked (followed : List (Option Nat)) (h : Holdings) : Prop where
  nodup : h.guildPlaces.Nodup
  guild_lt : ∀ place ∈ h.guildPlaces, place < h.roleLists.length
  server_lt : ∀ place ∈ h.serverPlaces, place < h.roleLists.length
  length_eq : followed.length = h.serverPlaces.length
  follows_iff : ∀ j i : Nat, followed[j]? = some (some i) ↔
    ∃ place, h.serverPlaces[j]? = some place ∧ h.guildPlaces[i]? = some place

/-- The records of the guilds and of their roles are of their kinds. -/
structure IsSound (h : Holdings) : Prop where
  guild : ∀ e ∈ h.guilds, e.1.Conforms .guild
  role : ∀ place ∈ h.guildPlaces, ∀ r ∈ h.rolesAt place, r.Conforms .role

variable {h : Holdings} {followed : List (Option Nat)} {call : Call} {calls : List Call}
  {guild : Record × Nat} {server : Server × Nat} {i j place : Nat}

/-! ## Single steps -/

theorem updateGuild_eq (hguild : h.guilds[i]? = some guild) (j : Nat) :
    h.updateGuild j i = { h with
      servers := h.servers.modify j fun e => (e.1.updateGuild (h.guildAt guild), guild.2) } := by
  rw [updateGuild, hguild]

theorem apply_eq (hserver : h.servers[j]? = some server) (f : Server → Server) :
    h.apply j f = { h with
      roleLists := h.roleLists.set server.2 (f (h.serverAt server)).roles
      servers := h.servers.set j (f (h.serverAt server), server.2) } := by
  rw [apply, hserver]

theorem rolesAt_addGuild (hplace : place < h.roleLists.length) (guild : Record) :
    (h.addGuild guild).rolesAt place = h.rolesAt place :=
  congrArg (Option.getD · []) (List.getElem?_append_left hplace)

theorem rolesAt_addGuild_new (guild : Record) :
    (h.addGuild guild).rolesAt h.roleLists.length = (guild.get "roles").records :=
  congrArg (Option.getD · []) List.getElem?_concat_length

theorem rolesAt_addServer (hplace : place < h.roleLists.length) (server : Server) :
    (h.addServer server).rolesAt place = h.rolesAt place :=
  congrArg (Option.getD · []) (List.getElem?_append_left hplace)

/-- An operation on a server changes the list of roles of the server and no other. -/
theorem rolesAt_apply (hserver : h.servers[j]? = some server) (hlt : server.2 < h.roleLists.length)
    (f : Server → Server) (place : Nat) : (h.apply j f).rolesAt place =
      if place = server.2 then (f (h.serverAt server)).roles else h.rolesAt place := by
  rw [apply_eq hserver, rolesAt]
  by_cases hplace : place = server.2
  · rw [if_pos hplace, hplace, List.getElem?_set_self hlt]
    rfl
  · rw [if_neg hplace, List.getElem?_set_ne (Ne.symm hplace), rolesAt]

/-! ## Places -/

theorem getElem?_concat_eq_some {α : Type} {xs : List α} {x y : α} :
    (xs ++ [x])[i]? = some y ↔ xs[i]? = some y ∨ (i = xs.length ∧ x = y) := by
  grind

theorem getElem?_guildPlaces (hguild : h.guilds[i]? = some guild) :
    h.guildPlaces[i]? = some guild.2 := by
  rw [guildPlaces, List.getElem?_map, hguild]
  rfl

theorem getElem?_serverPlaces (hserver : h.servers[j]? = some server) :
    h.serverPlaces[j]? = some server.2 := by
  rw [serverPlaces, List.getElem?_map, hserver]
  rfl

theorem isTracked_empty : IsTracked [] empty where
  nodup := List.nodup_nil
  guild_lt := nofun
  server_lt := nofun
  length_eq := rfl
  follows_iff _ _ := ⟨nofun, nofun⟩

section IsTracked

variable (ht : h.IsTracked followed)
include ht

theorem IsTracked.addGuild (guild : Record) : (h.addGuild guild).IsTracked followed := by
  have hplaces : (h.addGuild guild).guildPlaces = h.guildPlaces ++ [h.roleLists.length] :=
    List.map_append
  have hlength : (h.addGuild guild).roleLists.length = h.roleLists.length + 1 := List.length_append
  refine ⟨?_, ?_, fun place hmem => ?_, ht.length_eq, fun j i => ?_⟩
  · rw [hplaces]
    refine ht.nodup.append (List.nodup_singleton _) (List.disjoint_singleton.2 fun hmem => ?_)
    exact (ht.guild_lt _ hmem).false
  · rw [hplaces, hlength, List.forall_mem_append, List.forall_mem_singleton]
    exact ⟨fun place hmem => Nat.lt_succ_of_lt (ht.guild_lt place hmem), Nat.lt_succ_self _⟩
  · rw [hlength]
    exact Nat.lt_succ_of_lt (ht.server_lt place hmem)
  · -- no server has the new place
    rw [ht.follows_iff, hplaces]
    refine exists_congr fun place => and_congr_right fun hserver => ?_
    rw [getElem?_concat_eq_some, or_iff_left]
    rintro ⟨-, rfl⟩
    exact (ht.server_lt _ (List.mem_of_getElem? hserver)).false

theorem IsTracked.addServer (server : Server) :
    (h.addServer server).IsTracked (followed ++ [none]) := by
  have hplaces : (h.addServer server).serverPlaces = h.serverPlaces ++ [h.roleLists.length] :=
    List.map_append
  have hlength : (h.addServer server).roleLists.length = h.roleLists.length + 1 := List.length_append
  refine ⟨ht.nodup, fun place hmem => ?_, ?_, ?_, fun j i => ?_⟩
  · rw [hlength]
    exact Nat.lt_succ_of_lt (ht.guild_lt place hmem)
  · rw [hplaces, hlength, List.forall_mem_append, List.forall_mem_singleton]
    exact ⟨fun place hmem => Nat.lt_succ_of_lt (ht.server_lt place hmem), Nat.lt_succ_self _⟩
  · rw [hplaces, List.length_append, List.length_append, ht.length_eq]
    rfl
  · -- no guild has the new place
    rw [getElem?_concat_eq_some, or_iff_left (fun hnew => nomatch hnew.2), ht.follows_iff, hplaces]
    refine exists_congr fun place => and_congr_left fun hguild => ?_
    rw [getElem?_concat_eq_some, or_iff_left]
    rintro ⟨-, rfl⟩
    exact (ht.guild_lt _ (List.mem_of_getElem? hguild)).false

theorem IsTracked.updateGuild (hj : j < h.servers.length) (hguild : h.guilds[i]? = some guild) :
    (h.updateGuild j i).IsTracked (followed.set j (some i)) := by
  have hplace := getElem?_guildPlaces hguild
  have hplaces : (h.updateGuild j i).serverPlaces = h.serverPlaces.set j guild.2 := by
    rw [updateGuild_eq hguild]
    refine List.ext_getElem? fun j' => ?_
    simp only [serverPlaces, List.getElem?_map, List.getElem?_modify, List.getElem?_set]
    grind
  have hguilds : (h.updateGuild j i).guildPlaces = h.guildPlaces := by
    rw [updateGuild_eq hguild]
    rfl
  have hlists : (h.updateGuild j i).roleLists = h.roleLists := by rw [updateGuild_eq hguild]
  have hj : j < h.serverPlaces.length := (List.length_map _).symm ▸ hj
  refine ⟨hguilds ▸ ht.nodup, ?_, fun place hmem => ?_, ?_, fun j' i' => ?_⟩
  · rw [hguilds, hlists]
    exact ht.guild_lt
  · rw [hlists]
    rw [hplaces] at hmem
    rcases List.mem_or_eq_of_mem_set hmem with hmem | rfl
    · exact ht.server_lt place hmem
    · exact ht.guild_lt _ (List.mem_of_getElem? hplace)
  · rw [hplaces, List.length_set, List.length_set, ht.length_eq]
  · rw [hplaces, hguilds]
    by_cases hj' : j = j'
    · subst hj'
      have hinj : h.guildPlaces[i']? = h.guildPlaces[i]? ↔ i = i' := by
        rw [eq_comm, List.getElem?_inj (List.getElem?_eq_some_iff.1 hplace).1 ht.nodup]
      rw [List.getElem?_set_self (ht.length_eq ▸ hj), List.getElem?_set_self hj]
      simp only [Option.some.injEq, exists_eq_left', ← hinj, hplace]
    · rw [List.getElem?_set_ne hj', List.getElem?_set_ne hj', ht.follows_iff]

theorem IsTracked.apply (hserver : h.servers[j]? = some server) (f : Server → Server) :
    (h.apply j f).IsTracked followed := by
  have hplaces : (h.apply j f).serverPlaces = h.serverPlaces := by
    obtain ⟨hj, rfl⟩ := List.getElem?_eq_some_iff.1 hserver
    have hj' : j < (h.servers.map Prod.snd).length := (List.length_map _).symm ▸ hj
    have hplace : (h.servers.map Prod.snd)[j] = h.servers[j].2 := List.getElem_map _
    rw [apply_eq hserver, serverPlaces, List.map_set, ← hplace, List.set_getElem_self hj', serverPlaces]
  have hlength : (h.apply j f).roleLists.length = h.roleLists.length := by
    rw [apply_eq hserver, List.length_set]
  have hguilds : (h.apply j f).guildPlaces = h.guildPlaces := by
    rw [apply_eq hserver]
    rfl
  constructor
  · exact hguilds ▸ ht.nodup
  · rw [hguilds, hlength]
    exact ht.guild_lt
  · rw [hplaces, hlength]
    exact ht.server_lt
  · rw [hplaces, ht.length_eq]
  · rw [hplaces, hguilds]
    exact ht.follows_iff

theorem IsTracked.follows_iff_eq (hserver : h.servers[j]? = some server)
    (hguild : h.guilds[i]? = some guild) : followed[j]? = some (some i) ↔ server.2 = guild.2 := by
  rw [ht.follows_iff, getElem?_serverPlaces hserver, getElem?_guildPlaces hguild]
  simp only [Option.some.injEq, exists_eq_left']
  exact eq_comm

end IsTracked

/-! ## Kinds -/

theorem isSound_empty : IsSound empty := ⟨nofun, nofun⟩

theorem mem_guildPlaces (hguild : h.guilds[i]? = some guild) : guild.2 ∈ h.guildPlaces :=
  List.mem_of_getElem? (getElem?_guildPlaces hguild)

section IsSound

variable (ht : h.IsTracked followed) (hs : h.IsSound)
include hs

theorem IsSound.guildAt (hguild : h.guilds[i]? = some guild) : (h.guildAt guild).Conforms .guild :=
  (hs.guild _ (List.mem_of_getElem? hguild)).set Server.roles_mem_fields
    (Server.admits_listing (hs.role _ (mem_guildPlaces hguild)) _)

/-- A server can be made of any guild that a program has, with the roles of the guild. -/
theorem IsSound.exists_ofGuild? (hguild : h.guilds[i]? = some guild) :
    ∃ t, h.ofGuild? i = some (h.addServer t) ∧ t.roles = h.rolesAt guild.2 := by
  have hconforms := hs.guildAt hguild
  have hnames := (hs.guild _ (List.mem_of_getElem? hguild)).mem_names Server.roles_mem_fields
  have hroles : (Server.guildRecord (h.guildAt guild)).get "roles" =
      Server.listing (h.rolesAt guild.2) :=
    (Server.get_guildRecord hconforms Server.roles_mem_fields).trans
      (Record.get_set_self _ _ _ hnames)
  refine ⟨Server.ofRecord (Server.guildRecord (h.guildAt guild)), ?_,
    (congrArg Value.records hroles).trans (Server.records_listing _)⟩
  rw [ofGuild?, guild?, hguild, Option.map_some, Option.bind_some, Server.ofGuild?_eq hconforms]
  rfl

include ht

theorem IsSound.addGuild {guild : Record} (hguild : guild.Conforms .guild) :
    (h.addGuild guild).IsSound := by
  constructor
  · exact List.forall_mem_append.2 ⟨hs.guild, List.forall_mem_singleton.2 hguild⟩
  · have hplaces : (h.addGuild guild).guildPlaces = h.guildPlaces ++ [h.roleLists.length] :=
      List.map_append
    rw [hplaces, List.forall_mem_append, List.forall_mem_singleton, rolesAt_addGuild_new]
    refine ⟨fun place hmem => ?_, (hguild.records Server.roles_mem_fields).1⟩
    rw [rolesAt_addGuild (ht.guild_lt place hmem)]
    exact hs.role place hmem

theorem IsSound.addServer (server : Server) : (h.addServer server).IsSound where
  guild := hs.guild
  role place hmem := by
    rw [rolesAt_addServer (ht.guild_lt place hmem)]
    exact hs.role place hmem

theorem IsSound.onServer {call : ServerCall} (hserver : h.servers[j]? = some server)
    (hcall : call.IsTyped) : (h.apply j call.perform).IsSound := by
  have hguilds : (h.apply j call.perform).guilds = h.guilds := by rw [apply_eq hserver]
  have hplaces : (h.apply j call.perform).guildPlaces = h.guildPlaces := by
    rw [guildPlaces, hguilds, guildPlaces]
  have hlt : server.2 < h.roleLists.length :=
    ht.server_lt _ (List.mem_of_getElem? (getElem?_serverPlaces hserver))
  refine ⟨hguilds ▸ hs.guild, fun place hmem r hr => ?_⟩
  rw [hplaces] at hmem
  rw [rolesAt_apply hserver hlt] at hr
  split at hr
  · next hplace =>
    refine Server.conforms_items_perform (c := .roles) hcall (fun r hr => ?_) r hr
    exact hs.role place hmem r (hplace ▸ hr)
  · exact hs.role place hmem r hr

theorem IsSound.perform (hcall : call.Fits h) :
    (call.perform h).IsTracked (call.follow followed) ∧ (call.perform h).IsSound := by
  cases call with
  | addGuild guild => exact ⟨ht.addGuild guild, hs.addGuild ht hcall⟩
  | addServer server => exact ⟨ht.addServer server, hs.addServer ht server⟩
  | ofGuild i =>
    obtain ⟨t, hmade, -⟩ := hs.exists_ofGuild? (List.getElem?_eq_getElem hcall)
    rw [Call.perform, hmade, Option.getD_some]
    exact ⟨ht.addServer t, hs.addServer ht t⟩
  | updateGuild j i =>
    have hguild : h.guilds[i]? = some _ := List.getElem?_eq_getElem hcall.2
    refine ⟨ht.updateGuild hcall.1 hguild, ?_⟩
    rw [Call.perform, updateGuild_eq hguild]
    exact ⟨hs.guild, hs.role⟩
  | onServer j call =>
    have hserver : h.servers[j]? = some _ := List.getElem?_eq_getElem hcall.1
    exact ⟨ht.apply hserver _, hs.onServer ht hserver hcall.2.1⟩

end IsSound

theorem IsSound.run (ht : h.IsTracked followed) (hs : h.IsSound) (hcalls : FitsAll h calls) :
    (h.run calls).IsTracked (follow calls followed) ∧ (h.run calls).IsSound := by
  induction calls generalizing h followed with
  | nil => exact ⟨ht, hs⟩
  | cons call rest ih =>
    obtain ⟨ht', hs'⟩ := hs.perform ht hcalls.1
    exact ih ht' hs' hcalls.2

/-! ## The roles of a guild -/

/-- What an operation does to the roles of a server. -/
theorem roles_perform (call : ServerCall) (s : Server) : (call.perform s).roles =
    Keyed.Call.run Server.roleKey? (Collection.roles.step? call).toList s.roles := by
  cases hstep : Collection.roles.step? call with
  | none => exact Collection.items_perform_of_ne (Collection.target?_ne_of_step? hstep) s
  | some step => exact Collection.items_perform hstep s

/-- A step changes a guild in its roles at most, and these only through a server that follows it. -/
theorem IsTracked.rolesAt_perform (ht : h.IsTracked followed) (hcall : call.Fits h)
    (hguild : h.guilds[i]? = some guild) : (call.perform h).guilds[i]? = some guild ∧
      (call.perform h).rolesAt guild.2 =
        Keyed.Call.run Server.roleKey? (call.roleCall? i followed).toList (h.rolesAt guild.2) := by
  have hlt := ht.guild_lt _ (mem_guildPlaces hguild)
  cases call with
  | addGuild new =>
    refine ⟨?_, rolesAt_addGuild hlt new⟩
    exact getElem?_concat_eq_some.2 (.inl hguild)
  | addServer server => exact ⟨hguild, rolesAt_addServer hlt server⟩
  | ofGuild i' =>
    rw [Call.perform]
    cases hmade : h.ofGuild? i' with
    | none => exact ⟨hguild, rfl⟩
    | some h' =>
      obtain ⟨t, -, rfl⟩ := Option.map_eq_some_iff.1 hmade
      exact ⟨hguild, rolesAt_addServer hlt t⟩
  | updateGuild j i' =>
    rw [Call.perform, updateGuild_eq (List.getElem?_eq_getElem hcall.2)]
    exact ⟨hguild, rfl⟩
  | onServer j call =>
    obtain ⟨server, hserver⟩ : ∃ server, h.servers[j]? = some server :=
      ⟨_, List.getElem?_eq_getElem hcall.1⟩
    have hserverLt := ht.server_lt _ (List.mem_of_getElem? (getElem?_serverPlaces hserver))
    have hfollows := ht.follows_iff_eq hserver hguild
    refine ⟨?_, ?_⟩
    · rw [Call.perform, apply_eq hserver]
      exact hguild
    · rw [Call.perform, rolesAt_apply hserver hserverLt, Call.roleCall?]
      by_cases hplace : server.2 = guild.2
      · rw [if_pos hplace.symm, if_pos (hfollows.2 hplace), roles_perform, ← hplace]
        rfl
      · rw [if_neg (Ne.symm hplace), if_neg (mt hfollows.1 hplace)]
        rfl

theorem IsTracked.rolesAt_run (ht : h.IsTracked followed) (hs : h.IsSound) (hcalls : FitsAll h calls)
    (hguild : h.guilds[i]? = some guild) : (h.run calls).guilds[i]? = some guild ∧
      (h.run calls).rolesAt guild.2 =
        Keyed.Call.run Server.roleKey? (roleCalls i followed calls) (h.rolesAt guild.2) := by
  induction calls generalizing h followed with
  | nil => exact ⟨hguild, rfl⟩
  | cons call rest ih =>
    obtain ⟨ht', hs'⟩ := hs.perform ht hcalls.1
    obtain ⟨hguild', hroles⟩ := ht.rolesAt_perform hcalls.1 hguild
    have hrest := ih ht' hs' hcalls.2 hguild'
    rw [hroles] at hrest
    rw [roleCalls, Keyed.Call.run, List.foldl_append]
    exact hrest

/-- Nothing happens to the roles of a guild that no server is brought up to date with. -/
theorem roleCalls_eq_nil (hfollowed : some i ∉ followed) (hcalls : ∀ j, .updateGuild j i ∉ calls) :
    roleCalls i followed calls = [] := by
  induction calls generalizing followed with
  | nil => rfl
  | cons call rest ih =>
    simp only [List.mem_cons, not_or] at hcalls
    have hcall : call.roleCall? i followed = none := by
      cases call with
      | onServer j call => exact if_neg fun hj => hfollowed (List.mem_of_getElem? hj)
      | _ => rfl
    have hfollow : some i ∉ call.follow followed := by
      cases call with
      | addServer _ | ofGuild _ => simpa [Call.follow] using hfollowed
      | updateGuild j i' =>
        intro hmem
        rcases List.mem_or_eq_of_mem_set hmem with hmem | heq
        · exact hfollowed hmem
        · cases heq
          exact (hcalls j).1 rfl
      | addGuild _ | onServer _ _ => exact hfollowed
    rw [roleCalls, hcall, ih hfollow fun j => (hcalls j).2]
    rfl

theorem fitsAll_append {calls' : List Call} :
    FitsAll h (calls ++ calls') ↔ FitsAll h calls ∧ FitsAll (h.run calls) calls' := by
  induction calls generalizing h with
  | nil => exact (true_and _).to_iff.symm
  | cons call rest ih => rw [List.cons_append, FitsAll, FitsAll, ih, and_assoc]; rfl

/-- What becomes of a guild that a program passes on. Of all that happens later, only operations on
the roles of servers count, and only while the server was last brought up to date with this guild:
they happen to the roles of the guild, too, and these are the roles of all such servers. If there are
no such operations, and so if no server is brought up to date with the guild, then the guild is
exactly as it was passed. In any case a server can still be made of it, with the roles as they are,
and making one counts for nothing. -/
theorem guild_of_run {before after : List Call} {guild : Record}
    (hcalls : FitsAll .empty (before ++ .addGuild guild :: after)) :
    let i := (run before .empty).guilds.length
    let h := run (before ++ .addGuild guild :: after) .empty
    let onRoles := roleCalls i (follow before []) after
    let roles := Keyed.Call.run Server.roleKey? onRoles (guild.get "roles").records
    h.guild? i = some (guild.set "roles" (Server.listing roles)) ∧
    (onRoles = [] → h.guild? i = some guild) ∧
    ((∀ j, .updateGuild j i ∉ after) → onRoles = []) ∧
    (∀ j, (follow (before ++ .addGuild guild :: after) [])[j]? = some (some i) →
      ∃ s, h.server? j = some s ∧ s.roles = roles) ∧
    ∃ t, h.ofGuild? i = some (h.addServer t) ∧ t.roles = roles := by
  intro i h onRoles roles
  obtain ⟨hbefore, hguild, hafter⟩ := fitsAll_append.1 hcalls
  obtain ⟨ht, hs⟩ := isSound_empty.run isTracked_empty hbefore
  obtain ⟨ht', hs'⟩ := hs.perform ht hguild
  have hnew : some i ∉ follow before [] := by
    intro hmem
    obtain ⟨j, hj⟩ := List.mem_iff_getElem?.1 hmem
    obtain ⟨place, -, hplace⟩ := (ht.follows_iff j i).1 hj
    have hlength : (run before empty).guildPlaces.length = i := List.length_map _
    exact (hlength ▸ (List.getElem?_eq_some_iff.1 hplace).1).false
  have hentry : ((run before empty).addGuild guild).guilds[i]? =
      some (guild, (run before empty).roleLists.length) := List.getElem?_concat_length
  have hrun : h = run after ((run before empty).addGuild guild) := List.foldl_append
  obtain ⟨hentry, hroles⟩ := ht'.rolesAt_run hs' hafter hentry
  obtain ⟨htracked, hsound⟩ := isSound_empty.run isTracked_empty hcalls
  rw [Call.perform, ← hrun] at hentry hroles
  rw [rolesAt_addGuild_new] at hroles
  have hguild? : h.guild? i = some (guild.set "roles" (Server.listing roles)) := by
    rw [guild?, hentry, Option.map_some, guildAt, hroles]
    rfl
  refine ⟨hguild?, fun hnone => ?_, roleCalls_eq_nil hnew, fun j hj => ?_, ?_⟩
  · have hsame : Server.listing roles = guild.get "roles" := by
      simp only [roles, hnone, Keyed.Call.run, List.foldl_nil]
      exact (hguild.records Server.roles_mem_fields).2
    rw [hguild?, hsame, Record.set_get hguild.nodup_names]
  · obtain ⟨place, hserver, hplace⟩ := (htracked.follows_iff j i).1 hj
    rw [serverPlaces, List.getElem?_map] at hserver
    obtain ⟨server, hfound, rfl⟩ := Option.map_eq_some_iff.1 hserver
    rw [getElem?_guildPlaces hentry] at hplace
    rw [Option.some.inj hplace] at hroles
    exact ⟨h.serverAt server, congrArg (Option.map (h.serverAt ·)) hfound, hroles⟩
  · obtain ⟨t, ht, hroles'⟩ := hsound.exists_ofGuild? hentry
    exact ⟨t, ht, hroles'.trans hroles⟩

/-- A role that is added before a server is brought up to date with the guild that it was made of
stays its own. One that is added later is one of the guild. -/
theorem guild_of_run_of_update :
    let guild := Payload.object [("id", .string "1"), ("name", .string "g"),
      ("owner_id", .string "2")]
    let role (id : String) := Payload.object [("id", .string id), ("name", .string "r")]
    ∃ g r₃ r₄, (Record.decode .mapping .guild guild).outcome = .ok g ∧
      (Record.decode .mapping .role (role "3")).outcome = .ok r₃ ∧
      (Record.decode .mapping .role (role "4")).outcome = .ok r₄ ∧
      let made : List Call := [.ofGuild 0, .onServer 0 (.addRole r₃)]
      let updated : List Call := [.updateGuild 0 0, .onServer 0 (.addRole r₄)]
      (run (.addGuild g :: made) .empty).guild? 0 = some g ∧
        (run (.addGuild g :: (made ++ updated)) .empty).guild? 0 =
          some (g.set "roles" (Server.listing [r₄])) := by
  intro guild role
  obtain ⟨g, hg, hnone⟩ : ∃ g, (Record.decode .mapping .guild guild).outcome = .ok g ∧
    g.get "roles" = .list [] := ⟨_, rfl, rfl⟩
  obtain ⟨r₃, hr₃⟩ : ∃ r, (Record.decode .mapping .role (role "3")).outcome = .ok r := ⟨_, rfl⟩
  obtain ⟨r₄, hr₄⟩ : ∃ r, (Record.decode .mapping .role (role "4")).outcome = .ok r := ⟨_, rfl⟩
  refine ⟨g, r₃, r₄, hg, hr₃, hr₄, ?_⟩
  intro made updated
  have hguild := Record.conforms_of_decode hg
  have htyped₃ : (ServerCall.addRole r₃).IsTyped :=
    ServerCall.isTyped_of_given? rfl (Record.conforms_of_decode hr₃)
  have htyped₄ : (ServerCall.addRole r₄).IsTyped :=
    ServerCall.isTyped_of_given? rfl (Record.conforms_of_decode hr₄)
  have hs := isSound_empty.addGuild isTracked_empty hguild
  obtain ⟨t, hmade, -⟩ := hs.exists_ofGuild? (i := 0) rfl
  have hfits : FitsAll .empty ([] ++ .addGuild g :: (made ++ updated)) := by
    simp only [FitsAll, Call.perform, hmade, Option.getD_some, made, updated, List.nil_append,
      List.cons_append]
    exact ⟨hguild, Nat.succ_pos _, ⟨Nat.succ_pos _, htyped₃, nofun⟩,
      ⟨Nat.succ_pos _, Nat.succ_pos _⟩, ⟨Nat.succ_pos _, htyped₄, nofun⟩, trivial⟩
  have hfits' : FitsAll .empty ([] ++ .addGuild g :: made) :=
    (fitsAll_append.1 (show FitsAll .empty ((.addGuild g :: made) ++ updated) from hfits)).1
  obtain ⟨-, hsame, hidle, -⟩ := guild_of_run hfits'
  obtain ⟨hroles, -⟩ := guild_of_run hfits
  rw [hnone] at hroles
  exact ⟨hsame (hidle (by simp [made])), hroles⟩

/-- A server shares its roles with the guild that it is brought up to date with, so that a role that
is added to the server is one of the guild, although the guild was passed without roles. -/
theorem guild_of_run_failed :
    let guild := Payload.object [("id", .string "1"), ("name", .string "g"),
      ("owner_id", .string "2")]
    let role := Payload.object [("id", .string "3"), ("name", .string "r")]
    ∃ g s r, (Record.decode .mapping .guild guild).outcome = .ok g ∧
      (Record.decode .mapping .server guild).outcome = .ok s ∧
      (Record.decode .mapping .role role).outcome = .ok r ∧
      let calls : List Call := [.addServer (.ofRecord s), .addGuild g, .updateGuild 0 0,
        .onServer 0 (.addRole r)]
      FitsAll .empty calls ∧ (g.get "roles").records = [] ∧
        ((run calls .empty).guild? 0).map (fun g' => (g'.get "roles").records) = some [r] ∧
        (run calls .empty).guild? 0 ≠ some g := by
  intro guild role
  obtain ⟨r, hr⟩ : ∃ r, (Record.decode .mapping .role role).outcome = .ok r := ⟨_, rfl⟩
  obtain ⟨s, hs⟩ : ∃ s, (Record.decode .mapping .server guild).outcome = .ok s := ⟨_, rfl⟩
  obtain ⟨g, hg, hnone, hroles⟩ : ∃ g, (Record.decode .mapping .guild guild).outcome = .ok g ∧
      (g.get "roles").records = [] ∧
      ((run [.addServer (.ofRecord s), .addGuild g, .updateGuild 0 0, .onServer 0 (.addRole r)]
        .empty).guild? 0).map (fun g' => (g'.get "roles").records) = some [r] := ⟨_, rfl, rfl, rfl⟩
  have htyped : (ServerCall.addRole r).IsTyped :=
    ServerCall.isTyped_of_given? rfl (Record.conforms_of_decode hr)
  refine ⟨g, s, r, hg, hs, hr, ?_⟩
  intro calls
  refine ⟨⟨trivial, Record.conforms_of_decode hg, ⟨Nat.succ_pos _, Nat.succ_pos _⟩,
    ⟨Nat.succ_pos _, htyped, nofun⟩, trivial⟩, hnone, hroles, ?_⟩
  intro hsame
  rw [hsame, Option.map_some, hnone] at hroles
  cases hroles

end Holdings
end ChatRecords
