import ChatRecords.Proofs.Keyed.OrderedMap
import ChatRecords.Proofs.Server.Channels
import ChatRecords.Server.Members

/-!
# The collections of a server under its operations

Roles, members, presences and voice states lie in four lists, each with a key of its own. Every
operation on a server is a step of a program with one of these lists, or it leaves all four as they
are.

## Main definitions

* `Collection`: one of the four, with its key, its list and its search.
* `ServerCall`: the operations on a server, with `ServerCall.perform` and `ServerCall.run`.
* `Collection.Carries`: the key that a record of a collection carries.
* `Collection.step?`: what an operation is for a collection.
* `Collection.FitsAll`: added records have new keys, and newer ones the key they are addressed by.
* `Server.SameBut`: two servers differ in one collection at most.

## Main results

* `Collection.items_run`: the list of a collection after any operations.
* `ServerCall.sameBut_perform`: an operation on a collection leaves everything else as it is.
* `Collection.contents_of_run`: what holds after any operations in a row.
-/

namespace ChatRecords

/-- A collection of a server whose items are searched by a key. -/
inductive Collection where
  | roles
  | members
  | presences
  | voiceStates
deriving DecidableEq

/-- An operation on a server. -/
inductive ServerCall where
  /-- An operation on its channels. -/
  | channels (call : ChannelCall)
  | updateGuild (guild : Record)
  | addRole (role : Record)
  | updateRole (id : Int) (role : Record)
  | deleteRole (id : Int)
  | addMember (member : Record)
  | updateMember (user : Int) (member : Record)
  | deleteMember (user : Int)
  | addPresence (presence : Record)
  | updatePresence (user : Int) (presence : Record)
  | addVoiceState (state : Record)
  | updateVoiceState (state : Record)

namespace ServerCall

def perform : ServerCall → Server → Server
  | channels call, s => call.perform s
  | updateGuild guild, s => s.updateGuild guild
  | addRole role, s => s.addRole role
  | updateRole id role, s => s.updateRole id role
  | deleteRole id, s => (s.deleteRole id).2
  | addMember member, s => s.addMember member
  | updateMember user member, s => s.updateMember user member
  | deleteMember user, s => (s.deleteMember user).2
  | addPresence presence, s => s.addPresence presence
  | updatePresence user presence, s => s.updatePresence user presence
  | addVoiceState state, s => s.addVoiceState state
  | updateVoiceState state, s => s.updateVoiceState state

/-- The record that an operation returns. -/
def answer : ServerCall → Server → Option Record
  | deleteRole id, s => (s.deleteRole id).1
  | deleteMember user, s => (s.deleteMember user).1
  | _, _ => none

/-- The collection that an operation is on, if it is one on a collection. -/
def target? : ServerCall → Option Collection
  | updateGuild _ | addRole _ | updateRole .. | deleteRole _ => some .roles
  | addMember _ | updateMember .. | deleteMember _ => some .members
  | addPresence _ | updatePresence .. => some .presences
  | addVoiceState _ | updateVoiceState _ => some .voiceStates
  | channels _ => none

/-- The server after some operations. -/
def run (calls : List ServerCall) (s : Server) : Server :=
  calls.foldl (fun s call => call.perform s) s

end ServerCall

namespace Collection

def key? : Collection → Record → Option Int
  | roles => Server.roleKey?
  | members | presences => Server.userKey?
  | voiceStates => Server.voiceKey?

/-- A record of a collection carries a key: a role by its identifier, a member and a presence by
that of the user, and a voice state by that of the user it belongs to. -/
inductive Carries : Collection → Record → Int → Prop
  | role {r : Record} {x : Snowflake} (h : r.get "id" = .id x) : Carries roles r x.raw
  | member {r user : Record} {x : Snowflake} (h : r.get "user" = user.toValue)
      (hx : user.get "id" = .id x) : Carries members r x.raw
  | presence {r user : Record} {x : Snowflake} (h : r.get "user" = user.toValue)
      (hx : user.get "id" = .id x) : Carries presences r x.raw
  | voiceState {r : Record} {x : Snowflake} (h : r.get "user_id" = .id x) :
      Carries voiceStates r x.raw

def items : Collection → Server → List Record
  | roles => Server.roles
  | members => Server.members
  | presences => Server.presences
  | voiceStates => Server.voiceStates

def find? : Collection → Int → Server → Option Record
  | roles => Server.role?
  | members => Server.member?
  | presences => Server.presence?
  | voiceStates => Server.voiceState?

/-- Whether a collection has a key. -/
def has : Collection → Int → Server → Bool
  | members => Server.hasMember
  | presences => Server.hasPresence
  | c => fun k s => (c.find? k s).isSome

/-- What an operation is for a collection, if it is one on that collection. -/
def step? : Collection → ServerCall → Option (Keyed.Call Record Int)
  | roles, .updateGuild guild => some (.reset (guild.get "roles").records)
  | roles, .addRole role => some (.add role)
  | roles, .updateRole id role => some (.replace id role)
  | roles, .deleteRole id => some (.erase id)
  | members, .addMember member => some (.add member)
  | members, .updateMember user member => some (.replace user member)
  | members, .deleteMember user => some (.erase user)
  | presences, .addPresence presence => some (.add presence)
  | presences, .updatePresence user presence => some (.replace user presence)
  | voiceStates, .addVoiceState state => some (.add state)
  | voiceStates, .updateVoiceState state => some (.put state)
  | _, _ => none

/-- What is added to a collection has a new key or none, and a newer record has the key that it is
addressed by. Nothing is asked of operations on the rest of the server. -/
def FitsAll (c : Collection) (s : Server) (calls : List ServerCall) : Prop :=
  Keyed.Call.FitsAll c.key? (c.items s) (calls.filterMap c.step?)

end Collection

/-- Two servers differ in one collection at most. -/
structure Server.SameBut (c : Collection) (s t : Server) : Prop where
  profile : t.profile = s.profile
  channels : t.channels = s.channels
  threads : t.threads = s.threads
  /-- The other collections are the same. -/
  items : ∀ c' ≠ c, c'.items t = c'.items s

theorem Server.SameBut.eq {c : Collection} {s t : Server} (h : s.SameBut c t)
    (hitems : c.items t = c.items s) : t = s := by
  have hall (c' : Collection) : c'.items t = c'.items s := by
    by_cases hc : c' = c
    · rw [hc, hitems]
    · exact h.items c' hc
  obtain ⟨hprofile, hchannels, hthreads, -⟩ := h
  have hroles : t.roles = s.roles := hall .roles
  have hmembers : t.members = s.members := hall .members
  have hpresences : t.presences = s.presences := hall .presences
  have hvoiceStates : t.voiceStates = s.voiceStates := hall .voiceStates
  cases s
  cases t
  simp_all

/-! ## What an operation does -/

/-- An operation on channels leaves the collections as they are. -/
theorem ChannelCall.items_perform (c : Collection) (call : ChannelCall) (s : Server) :
    c.items (call.perform s) = c.items s := by
  induction call using shape with
  | add channel =>
    rw [perform, Server.addChannel]
    split <;> cases c <;> rfl
  | delete id =>
    rw [perform, Server.deleteChannel]
    split
    · rfl
    · split <;> cases c <;> rfl
  | change call id f hchange =>
    rw [perform_of_change? hchange, Server.modifyChannel]
    split <;> cases c <;> rfl
  | idle call _ hperform => rw [hperform]

theorem Server.updateVoiceState_of_key {state : Record} {user : Int}
    (h : Server.voiceKey? state = some user) (s : Server) : s.updateVoiceState state =
      { s with voiceStates := Keyed.upsert Server.voiceKey? user state s.voiceStates } := by
  simp only [updateVoiceState, h]

theorem Server.updateVoiceState_keyless {state : Record} (h : Server.voiceKey? state = none)
    (s : Server) : s.updateVoiceState state = s.addVoiceState state := by
  simp only [updateVoiceState, h]

variable {c : Collection} {call : ServerCall} {calls : List ServerCall} {s : Server}
  {step : Keyed.Call Record Int}

namespace Collection

theorem idNumber?_eq_some_iff {name : String} {r : Record} {k : Int} :
    r.idNumber? name = some k ↔ ∃ x : Snowflake, r.get name = .id x ∧ (x.raw : Int) = k := by
  rw [Record.idNumber?, Option.map_eq_some_iff]
  refine exists_congr fun x => and_congr_left fun _ => ?_
  cases r.get name <;> simp [Value.id?]

theorem userKey?_eq_some_iff {r : Record} {k : Int} : Server.userKey? r = some k ↔
    ∃ user : Record, r.get "user" = user.toValue ∧
      ∃ x : Snowflake, user.get "id" = .id x ∧ (x.raw : Int) = k := by
  rw [Server.userKey?, Option.bind_eq_some_iff]
  refine exists_congr fun user => and_congr ?_ idNumber?_eq_some_iff
  obtain ⟨kind, fields⟩ := user
  cases r.get "user" <;> simp [Value.record?, Record.toValue]

/-- The key that a record is found by is the one that it carries. -/
theorem key?_eq_some_iff {r : Record} {k : Int} : c.key? r = some k ↔ c.Carries r k := by
  constructor
  · intro h
    cases c with
    | roles =>
      obtain ⟨x, hx, rfl⟩ := idNumber?_eq_some_iff.1 h
      exact .role hx
    | members =>
      obtain ⟨user, huser, x, hx, rfl⟩ := userKey?_eq_some_iff.1 h
      exact .member huser hx
    | presences =>
      obtain ⟨user, huser, x, hx, rfl⟩ := userKey?_eq_some_iff.1 h
      exact .presence huser hx
    | voiceStates =>
      obtain ⟨x, hx, rfl⟩ := idNumber?_eq_some_iff.1 h
      exact .voiceState hx
  · rintro (hx | ⟨huser, hx⟩ | ⟨huser, hx⟩ | hx)
    · exact idNumber?_eq_some_iff.2 ⟨_, hx, rfl⟩
    · exact userKey?_eq_some_iff.2 ⟨_, huser, _, hx, rfl⟩
    · exact userKey?_eq_some_iff.2 ⟨_, huser, _, hx, rfl⟩
    · exact idNumber?_eq_some_iff.2 ⟨_, hx, rfl⟩

theorem find?_eq (c : Collection) (k : Int) (s : Server) :
    c.find? k s = Keyed.find? c.key? k (c.items s) := by
  cases c <;> rfl

theorem has_eq (c : Collection) (k : Int) (s : Server) : c.has k s = (c.find? k s).isSome := by
  cases c <;> rfl

theorem items_updateVoiceState (state : Record) (s : Server) :
    voiceStates.items (s.updateVoiceState state) =
      (Keyed.Call.put state).perform voiceStates.key? (voiceStates.items s) := by
  cases hkey : Server.voiceKey? state with
  | some user =>
    have hkey' : voiceStates.key? state = some user := hkey
    rw [Server.updateVoiceState_of_key hkey, Keyed.Call.perform_put hkey']
    rfl
  | none =>
    have hkey' : voiceStates.key? state = none := hkey
    rw [Server.updateVoiceState_keyless hkey, Keyed.Call.perform_put_keyless hkey']
    rfl

/-- The list of a collection after an operation on it. -/
theorem items_perform (h : c.step? call = some step) (s : Server) :
    c.items (call.perform s) = step.perform c.key? (c.items s) := by
  cases c <;> cases call <;> cases h <;> first | rfl | exact items_updateVoiceState _ s

theorem isSome_step? (c : Collection) (call : ServerCall) :
    (c.step? call).isSome = decide (call.target? = some c) := by
  cases c <;> cases call <;> rfl

theorem target?_of_step? (h : c.step? call = some step) : call.target? = some c := by
  have hsome := isSome_step? c call
  rw [h, Option.isSome_some, eq_comm, decide_eq_true_iff] at hsome
  exact hsome

theorem target?_ne_of_step? (h : c.step? call = none) : call.target? ≠ some c := by
  have hnone := isSome_step? c call
  rw [h, Option.isSome_none, eq_comm, decide_eq_false_iff_not] at hnone
  exact hnone

/-- An operation on something else leaves the list of a collection as it is. -/
theorem items_perform_of_ne (h : call.target? ≠ some c) (s : Server) :
    c.items (call.perform s) = c.items s := by
  cases call with
  | channels call => exact call.items_perform c s
  | updateGuild guild =>
    -- the new profile is long to compute, and no collection is in it
    rw [ServerCall.perform, Server.updateGuild]
    generalize List.foldl _ s.profile _ = profile
    cases c <;> first | exact absurd rfl h | rfl
  | updateVoiceState state =>
    cases hkey : Server.voiceKey? state with
    | some user =>
      rw [ServerCall.perform, Server.updateVoiceState_of_key hkey]
      cases c <;> first | exact absurd rfl h | rfl
    | none =>
      rw [ServerCall.perform, Server.updateVoiceState_keyless hkey]
      cases c <;> first | exact absurd rfl h | rfl
  | _ => cases c <;> first | exact absurd rfl h | rfl

/-- The list of a collection after any operations: those on it count, and nothing else does. -/
theorem items_run (c : Collection) (calls : List ServerCall) (s : Server) :
    c.items (ServerCall.run calls s) =
      Keyed.Call.run c.key? (calls.filterMap c.step?) (c.items s) := by
  induction calls generalizing s with
  | nil => rfl
  | cons call rest ih =>
    have hrest := ih (call.perform s)
    cases hstep : c.step? call with
    | none =>
      rw [items_perform_of_ne (target?_ne_of_step? hstep)] at hrest
      rw [List.filterMap_cons_none hstep]
      exact hrest
    | some step =>
      rw [items_perform hstep] at hrest
      rw [List.filterMap_cons_some hstep]
      exact hrest

end Collection

namespace ServerCall

/-- An operation on a collection, other than giving the server the fields of a guild, leaves
everything else as it is. -/
theorem sameBut_perform (h : c.step? call = some step) (hguild : ∀ guild, call ≠ updateGuild guild)
    (s : Server) : s.SameBut c (call.perform s) := by
  have hitems (c' : Collection) (hc : c' ≠ c) : c'.items (call.perform s) = c'.items s := by
    refine Collection.items_perform_of_ne (fun htarget => hc ?_) s
    exact Option.some.inj (htarget.symm.trans (Collection.target?_of_step? h))
  cases call with
  | channels call => cases c <;> cases h
  | updateGuild guild => exact absurd rfl (hguild guild)
  | updateVoiceState state =>
    cases hkey : Server.voiceKey? state with
    | some user =>
      rw [perform, Server.updateVoiceState_of_key hkey] at hitems ⊢
      exact ⟨rfl, rfl, rfl, hitems⟩
    | none =>
      rw [perform, Server.updateVoiceState_keyless hkey] at hitems ⊢
      exact ⟨rfl, rfl, rfl, hitems⟩
  | _ => exact ⟨rfl, rfl, rfl, hitems⟩

theorem not_updateGuild (h : c.step? call = some step) (hstep : ∀ items, step ≠ .reset items)
    (guild : Record) : call ≠ updateGuild guild := by
  rintro rfl
  cases c with
  | roles => exact hstep _ (Option.some.inj h).symm
  | members | presences | voiceStates => cases h

/-- Deleting returns the record with the key. -/
theorem answer_of_erase {k : Int} (h : c.step? call = some (.erase k)) (s : Server) :
    call.answer s = c.find? k s := by
  cases c <;> cases call <;> cases h <;> rfl

end ServerCall

/-! ## After any operations -/

namespace Collection

/-- A record that is found has its place. A newer one comes there, and if it is deleted, it is
returned and the others stay in their order. -/
theorem place_of_find? (hs : Keyed.Distinct c.key? (c.items s)) {k : Int} {r : Record}
    (h : c.find? k s = some r) : c.key? r = some k ∧
      ∃ before after, c.items s = before ++ r :: after ∧ ∀ call : ServerCall,
        (∀ new, c.step? call = some (.replace k new) ∨
            c.step? call = some (.put new) ∧ c.key? new = some k →
          c.items (call.perform s) = before ++ new :: after) ∧
        (c.step? call = some (.erase k) →
          call.answer s = some r ∧ c.items (call.perform s) = before ++ after) := by
  have hfound := h
  rw [find?_eq] at hfound
  obtain ⟨before, after, hslot, hreplace, hupsert, herase⟩ := hs.place_of_find? hfound
  refine ⟨hslot.key_eq, before, after, hslot.split, fun call => ⟨fun new hnew => ?_, fun hstep => ?_⟩⟩
  · rcases hnew with hstep | ⟨hstep, hkey⟩
    · rw [items_perform hstep, Keyed.Call.perform, hreplace]
    · rw [items_perform hstep, Keyed.Call.perform_put hkey, hupsert]
  · rw [ServerCall.answer_of_erase hstep, h, items_perform hstep, Keyed.Call.perform, herase]
    exact ⟨rfl, rfl⟩

/-- What is not found is neither replaced nor deleted, and goes to the end if it is put. -/
theorem unchanged_of_find? {k : Int} (h : c.find? k s = none) (call : ServerCall) :
    (∀ new, c.step? call = some (.replace k new) → call.perform s = s) ∧
      (c.step? call = some (.erase k) → call.answer s = none ∧ call.perform s = s) ∧
      ∀ new, c.step? call = some (.put new) → c.key? new = some k →
        c.items (call.perform s) = c.items s ++ [new] := by
  have hlacks := h
  rw [find?_eq, Keyed.find?_eq_none_iff] at hlacks
  have hsame {step : Keyed.Call Record Int} (hstep : c.step? call = some step)
      (hreset : ∀ items, step ≠ .reset items) : s.SameBut c (call.perform s) :=
    ServerCall.sameBut_perform hstep (ServerCall.not_updateGuild hstep hreset) s
  refine ⟨fun new hstep => (hsame hstep (by simp)).eq ?_,
    fun hstep => ⟨?_, (hsame hstep (by simp)).eq ?_⟩, fun new hstep hkey => ?_⟩
  · rw [items_perform hstep, Keyed.Call.perform, Keyed.replace, hlacks.modify_eq]
  · rw [ServerCall.answer_of_erase hstep, h]
  · rw [items_perform hstep, Keyed.Call.perform, hlacks.erase_eq]
  · rw [items_perform hstep, Keyed.Call.perform_put hkey, hlacks.upsert_eq]

/-- The operations that put other items in the place of all are those that bring the roles of
a guild. -/
theorem resets_of_guilds (hguilds : ∀ guild, .updateGuild guild ∈ calls → c = roles →
      Keyed.Distinct roles.key? (guild.get "roles").records) :
    ∀ step ∈ calls.filterMap c.step?, step.Resets c.key? := by
  intro step hmem
  obtain ⟨call, hcall, hstep⟩ := List.mem_filterMap.1 hmem
  cases step with
  | reset items =>
    cases c <;> cases call <;> cases hstep
    exact hguilds _ hcall rfl
  | _ => trivial

/-- Each collection holds its records by the key that they carry. After any operations that add
records of new keys and replace records by ones of their own key, where the guilds that a server is
brought up to date with have no two roles of one identifier, no two records carry one key. Then the
collection answers as the map that the operations on it make, in the order of insertion, and its
items without a key are next to that map. A newer record takes the place of the old one, a deleted
one is returned and leaves the others in their order, and an operation on an unknown key changes
nothing, but that a voice state is added. An operation on the collection changes nothing else of the
server. -/
theorem contents_of_run (hs : Keyed.Distinct c.key? (c.items s)) (h : c.FitsAll s calls)
    (hguilds : ∀ guild, .updateGuild guild ∈ calls → c = roles →
      Keyed.Distinct roles.key? (guild.get "roles").records) :
    let s' := ServerCall.run calls s
    let steps := calls.filterMap c.step?
    let map := steps.foldl (fun m step => step.tell c.key? m) (Keyed.toMap c.key? (c.items s))
    (∀ r k, c.key? r = some k ↔ c.Carries r k) ∧
    Keyed.Distinct c.key? (c.items s') ∧ Keyed.toMap c.key? (c.items s') = map ∧
    Keyed.keyless c.key? (c.items s') =
      steps.foldl (fun rest step => step.tellKeyless c.key? rest)
        (Keyed.keyless c.key? (c.items s)) ∧
    (∀ k, c.find? k s' = Entries.get? k map ∧ c.has k s' = (Entries.get? k map).isSome ∧
      ∀ r, c.find? k s' = some r ↔ r ∈ c.items s' ∧ c.Carries r k) ∧
    (∀ k r, c.find? k s' = some r → c.key? r = some k ∧
      ∃ before after, c.items s' = before ++ r :: after ∧ ∀ call : ServerCall,
        (∀ new, c.step? call = some (.replace k new) ∨
            c.step? call = some (.put new) ∧ c.key? new = some k →
          c.items (call.perform s') = before ++ new :: after) ∧
        (c.step? call = some (.erase k) →
          call.answer s' = some r ∧ c.items (call.perform s') = before ++ after)) ∧
    (∀ k, c.find? k s' = none → ∀ call : ServerCall,
      (∀ new, c.step? call = some (.replace k new) → call.perform s' = s') ∧
      (c.step? call = some (.erase k) → call.answer s' = none ∧ call.perform s' = s') ∧
      ∀ new, c.step? call = some (.put new) → c.key? new = some k →
        c.items (call.perform s') = c.items s' ++ [new]) ∧
    (∀ call step, c.step? call = some step → (∀ guild, call ≠ .updateGuild guild) →
      s'.SameBut c (call.perform s')) := by
  intro s' steps map
  have hresets := resets_of_guilds hguilds
  have hdistinct : Keyed.Distinct c.key? (c.items s') := by
    rw [items_run]
    exact hs.run h hresets
  have hmap : Keyed.toMap c.key? (c.items s') = map := by
    rw [items_run]
    exact hs.toMap_run h hresets
  have hfind (k : Int) : c.find? k s' = Entries.get? k map := by
    rw [find?_eq, hdistinct.find?_eq_get?, hmap]
  refine ⟨fun r k => key?_eq_some_iff, hdistinct, hmap, ?_, fun k => ⟨hfind k, ?_, fun r => ?_⟩,
    fun k r hfound => place_of_find? hdistinct hfound, fun k hnone => unchanged_of_find? hnone,
    fun call step hstep hguild => ServerCall.sameBut_perform hstep hguild s'⟩
  · rw [items_run]
    exact hs.keyless_run h hresets
  · rw [has_eq, hfind]
  · rw [find?_eq, hdistinct.find?_eq_some_iff, key?_eq_some_iff]

/-- A guild brings two roles, of which one is renamed and the other deleted; a user gets a voice
state and a newer one; a member is renamed, leaves and returns, next to one without a user. -/
theorem contents_of_run_of_return :
    let one : Snowflake := ⟨1, by decide⟩
    let two : Snowflake := ⟨2, by decide⟩
    let role (id : Snowflake) (name : String) : Record :=
      ⟨.role, [("id", .id id), ("name", .text name)]⟩
    let state (user : Snowflake) (session : String) : Record :=
      ⟨.voiceState, [("user_id", .id user), ("session_id", .text session)]⟩
    let member (user : Snowflake) (nick : String) : Record :=
      ⟨.guildMember, [("user", .record .user [("id", .id user)]), ("nick", .text nick)]⟩
    let stranger : Record := ⟨.guildMember, [("user", .null), ("nick", .text "x")]⟩
    let guild : Record :=
      ⟨.guild, [("roles", .list [(role one "a").toValue, (role two "b").toValue])]⟩
    let s : Server := ⟨⟨.server, []⟩, [], [member one "a"], [], [], [], []⟩
    let calls : List ServerCall := [.updateGuild guild, .updateRole 1 (role one "c"),
      .updateVoiceState (state one "s"), .addMember stranger, .addMember (member two "b"),
      .deleteRole 2, .updateMember 1 (member one "c"), .deleteMember 1,
      .updateVoiceState (state one "t"), .addMember (member one "e")]
    (ServerCall.run calls s).roles = [role one "c"] ∧
      (ServerCall.run calls s).role? 1 = some (role one "c") ∧
      (ServerCall.run calls s).role? 2 = none ∧
      Keyed.toMap Server.userKey? (ServerCall.run calls s).members =
        [(2, member two "b"), (1, member one "e")] ∧
      Keyed.keyless Server.userKey? (ServerCall.run calls s).members = [stranger] ∧
      (ServerCall.run calls s).voiceState? 1 = some (state one "t") := by
  intro one two role state member stranger guild s calls
  have hroles : roles.FitsAll s calls := ⟨trivial, rfl, trivial, trivial⟩
  have hmembers : members.FitsAll s calls := by
    refine ⟨nofun, fun k hk => ?_, rfl, trivial, fun k hk => ?_, trivial⟩
    · obtain rfl : (2 : Int) = k := Option.some.inj hk
      rw [← Keyed.find?_eq_none_iff]
      rfl
    · obtain rfl : (1 : Int) = k := Option.some.inj hk
      rw [← Keyed.find?_eq_none_iff]
      rfl
  have hvoiceStates : voiceStates.FitsAll s calls := ⟨trivial, trivial, trivial⟩
  have hguilds : ∀ guild', .updateGuild guild' ∈ calls → roles = roles →
      Keyed.Distinct roles.key? (guild'.get "roles").records := by
    rintro guild' hmem -
    obtain rfl : guild' = guild := by simpa [calls] using hmem
    have hkeys : [(1 : Int), 2].Nodup := by decide
    exact hkeys
  obtain ⟨-, -, -, -, hrole, -⟩ :=
    contents_of_run (c := roles) (s := s) List.nodup_nil hroles hguilds
  obtain ⟨-, -, hmap, hkeyless, -⟩ :=
    contents_of_run (c := members) (s := s) (List.nodup_singleton (1 : Int)) hmembers
      fun _ _ h => nomatch h
  obtain ⟨-, -, -, -, hstate, -⟩ :=
    contents_of_run (c := voiceStates) (s := s) List.nodup_nil hvoiceStates fun _ _ h => nomatch h
  exact ⟨rfl, (hrole 1).1.trans rfl, (hrole 2).1.trans rfl, hmap.trans rfl, hkeyless.trans rfl,
    (hstate 1).1.trans rfl⟩

/-- Without the condition on guilds, a guild with two roles of one identifier would leave a server
with one of them. -/
theorem contents_of_run_failed :
    let one : Snowflake := ⟨1, by decide⟩
    let role (name : String) : Record := ⟨.role, [("id", .id one), ("name", .text name)]⟩
    let guild : Record := ⟨.guild, [("roles", .list [(role "a").toValue, (role "b").toValue])]⟩
    let s : Server := ⟨⟨.server, []⟩, [], [], [], [], [], []⟩
    let calls : List ServerCall := [.updateGuild guild]
    Keyed.Distinct roles.key? (roles.items s) ∧ roles.FitsAll s calls ∧
      ¬Keyed.Distinct roles.key? (roles.items (ServerCall.run calls s)) ∧
      (ServerCall.run (calls ++ [.deleteRole 1]) s).role? 1 = some (role "b") := by
  intro one role guild s calls
  refine ⟨List.nodup_nil, ⟨trivial, trivial⟩, fun hdistinct => ?_, rfl⟩
  have hkeys : [(1 : Int), 1].Nodup := hdistinct
  exact absurd hkeys (by decide)

end Collection
end ChatRecords
