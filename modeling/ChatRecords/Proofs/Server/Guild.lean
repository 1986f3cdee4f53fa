import ChatRecords.Proofs.Record.Shallow
import ChatRecords.Proofs.Server.Reached

/-!
# The fields of a guild in a server

A server takes the fields of a guild over in two ways: when it is made of the guild, field by field
with a check of every value, and when it is brought up to date, field by field without one. Both give
it the fields of the guild as they are, and neither gives it or takes from it anything else.

## Main definitions

* `Json.restrict`: the entries of an object with some keys.
* `Server.CarriesGuild`: a server has the fields of a guild, and writes them as the guild does.

## Main results

* `Server.updateGuild_updateGuild`: a guild overrides the guild before it.
* `Server.updateGuild_run`: an operation before it counts only if it is not about roles.
* `Server.guild_of_update`: what a server of a program is after it took over a decoded guild.
-/

namespace ChatRecords

/-- The entries of an object with some keys. -/
def Json.restrict (keys : List String) : Json → Json
  | .object entries => .object (entries.filter fun e => keys.contains e.1)
  | v => v

namespace Server

def guildNames : List String := RecordKind.guild.fields.map Field.name

/-- The server has the fields of a guild, and what is written of it is what is written of the guild,
as far as these fields go. -/
structure CarriesGuild (guild : Record) (s : Server) : Prop where
  get : ∀ f ∈ RecordKind.guild.fields, s.toRecord.get f.name = guild.get f.name
  encode : ∃ j, s.toRecord.encode = .ok j ∧ guild.encode = .ok (j.restrict guildNames)
  /-- The text of each is that of its JSON value. -/
  encodeText : ∀ indent, ∃ j, s.toRecord.encodeText indent = .ok (Json.write indent j) ∧
    guild.encodeText indent = .ok (Json.write indent (j.restrict guildNames))

variable {s : Server} {guild : Record}

/-! ## The fields of a server -/

theorem get_toRecord (h : s.profile.Conforms .server) {f : Field} (hf : f ∈ RecordKind.server.fields) :
    s.toRecord.get f.name = (s.collections.lookup f.name).getD (s.profile.get f.name) :=
  Record.get_setAll s.nodup_collections (h.mem_names hf)

theorem get_profile_updateGuild (h : s.profile.Conforms .server) {f : Field}
    (hf : f ∈ RecordKind.server.fields) : (s.updateGuild guild).profile.get f.name =
      if f.name ∈ guildFields then guild.get f.name else s.profile.get f.name := by
  rw [profile_updateGuild, Record.get_setAll (nodup_guildValues guild) (h.mem_names hf)]
  split
  · next hmem =>
    rw [(lookup_eq_some_iff_mem (nodup_guildValues guild)).2 (List.mem_map_of_mem hmem)]
    rfl
  · next hmem =>
    rw [Record.lookup_eq_none_iff_notMem.2 ((names_guildValues guild).symm ▸ hmem)]
    rfl

theorem conforms_profile_updateGuild (h : s.profile.Conforms .server) (hguild : guild.Conforms .guild) :
    (s.updateGuild guild).profile.Conforms .server := by
  rw [profile_updateGuild]
  exact conforms_updateGuild hguild h

/-- After a guild was taken over, the server has its fields. -/
theorem get_updateGuild (h : s.profile.Conforms .server) (hguild : guild.Conforms .guild) {f : Field}
    (hf : f ∈ RecordKind.guild.fields) :
    (s.updateGuild guild).toRecord.get f.name = guild.get f.name := by
  have hserver : f ∈ RecordKind.server.fields := List.mem_append_left _ hf
  rw [get_toRecord (conforms_profile_updateGuild h hguild) hserver]
  by_cases hroles : f.name = "roles"
  · have hlisting : listing (guild.get "roles").records = guild.get "roles" :=
      (hguild.records roles_mem_fields).2
    rw [hroles, ← hlisting]
    rfl
  · -- no other collection is one of the guild
    have hcollections : ∀ f ∈ RecordKind.guild.fields, f.name ∈ collectionFields → f.name = "roles" := by
      decide
    have hnone : (s.updateGuild guild).collections.lookup f.name = none :=
      Record.lookup_eq_none_iff_notMem.2 (mt (hcollections f hf) hroles)
    rw [hnone, get_profile_updateGuild h hserver, if_pos (mem_guildFields.2 ⟨⟨f, hf, rfl⟩, hroles⟩)]
    rfl

/-- The fields that a guild does not have stay. -/
theorem get_updateGuild_gateway (h : s.profile.Conforms .server) (hguild : guild.Conforms .guild)
    {f : Field} (hf : f ∈ gatewayFields) :
    (s.updateGuild guild).toRecord.get f.name = s.toRecord.get f.name := by
  have hserver : f ∈ RecordKind.server.fields := List.mem_append_right _ hf
  have hother : f.name ∉ guildFields := by
    rintro hmem
    obtain ⟨⟨f', hf', hname⟩, -⟩ := mem_guildFields.1 hmem
    exact name_ne_of_mem hf' hf hname
  have hroles : (f.name == "roles") = false :=
    beq_eq_false_iff_ne.2 (name_ne_of_mem roles_mem_fields hf).symm
  have hcollections : (s.updateGuild guild).collections.lookup f.name = s.collections.lookup f.name := by
    simp only [collections, updateGuild, List.lookup_cons, hroles]
  rw [get_toRecord (conforms_profile_updateGuild h hguild) hserver, get_toRecord h hserver,
    get_profile_updateGuild h hserver, if_neg hother, hcollections]

/-! ## What is written of a server -/

/-- A record that has some of the fields of another is written as the entries of these. -/
theorem restrict_of_encode {r r' : Record} {keys : List String} {j j' : Json}
    (hj : r.toValue.encode = .ok j) (hj' : r'.toValue.encode = .ok j')
    (hfields : r.fields.filter (fun f => keys.contains f.1) = r'.fields) : j.restrict keys = j' := by
  obtain ⟨es, rfl, hes⟩ := Value.encode_record_ok hj
  obtain ⟨es', rfl, hes'⟩ := Value.encode_record_ok hj'
  have hkeys : ∀ (f : String × Value) (e : String × Json), (e.1 = f.1 ∧ f.2.encode = .ok e.2) →
      (keys.contains f.1 = true ↔ keys.contains e.1 = true) := fun f e he => by rw [he.1]
  have hsome := List.rel_filter hkeys hes
  rw [List.filter_comm, hfields, ← Value.encodeFields_ok_iff] at hsome
  rw [← Value.encodeFields_ok_iff, hsome] at hes'
  rw [Json.restrict, Except.ok.inj hes']

/-- A server with the fields of a guild writes them as the guild does. -/
theorem carriesGuild_of_get (hs : s.toRecord.Conforms .server) (hguild : guild.Conforms .guild)
    (hget : ∀ f ∈ RecordKind.guild.fields, s.toRecord.get f.name = guild.get f.name) :
    s.CarriesGuild guild := by
  obtain ⟨j, hj⟩ := hs.exists_encode RecordKind.isShallow_server
  obtain ⟨j', hj'⟩ := hguild.exists_encode RecordKind.isShallow_guild
  have hguildFields : (RecordKind.guild.fields.map fun f => (f.name, s.toRecord.get f.name)).filter
      (fun f => guildNames.contains f.1) = guild.fields := by
    rw [hguild.fields_eq, ← List.map_congr_left fun f hf => congrArg (f.name, ·) (hget f hf),
      List.filter_eq_self, List.forall_mem_map]
    exact fun f hf => List.contains_iff_mem.2 (List.mem_map_of_mem hf)
  have hgateway : (gatewayFields.map fun f => (f.name, s.toRecord.get f.name)).filter
      (fun f => guildNames.contains f.1) = [] := by
    have hother : ∀ f ∈ gatewayFields, guildNames.contains f.name = false := by decide
    rw [List.filter_eq_nil_iff, List.forall_mem_map]
    exact fun f hf => Bool.eq_false_iff.1 (hother f hf)
  have hfields : s.toRecord.fields.filter (fun f => guildNames.contains f.1) = guild.fields := by
    rw [hs.fields_eq, fields_eq, List.map_append, List.filter_append, hguildFields, hgateway,
      List.append_nil]
  rw [← restrict_of_encode (Record.encode_ok hj) (Record.encode_ok hj') hfields] at hj'
  refine ⟨hget, ⟨j, hj, hj'⟩, fun indent => ⟨j, ?_, ?_⟩⟩
  · rw [Record.encodeText_eq, hj]
    rfl
  · rw [Record.encodeText_eq, hj']
    rfl

/-! ## One guild after another -/

/-- A server with another profile and other roles. Whatever the profile is, nothing else of the server
depends on it. -/
def adopt (f : Record → Record) (roles : List Record) (s : Server) : Server :=
  { s with profile := f s.profile, roles }

theorem updateGuild_eq (guild : Record) (s : Server) :
    s.updateGuild guild = s.adopt (Record.setAll (guildValues guild)) (guild.get "roles").records := by
  rw [adopt, ← profile_updateGuild]
  rfl

section Adopt

variable (f : Record → Record) (roles : List Record)

theorem adopt_perform_channels (call : ChannelCall) (s : Server) :
    (call.perform s).adopt f roles = call.perform (s.adopt f roles) := by
  have hchannel? (id : Int) : (s.adopt f roles).channel? id = s.channel? id := rfl
  have hlisted (id : Int) : (s.adopt f roles).isListed id = s.isListed id := rfl
  induction call using ChannelCall.shape with
  | add channel =>
    rw [ChannelCall.perform, ChannelCall.perform, addChannel, addChannel]
    split <;> rfl
  | delete id =>
    rw [ChannelCall.perform, ChannelCall.perform, deleteChannel, deleteChannel, hchannel?, hlisted]
    split
    · rfl
    · split <;> rfl
  | change call id g hchange =>
    rw [ChannelCall.perform_of_change? hchange, ChannelCall.perform_of_change? hchange,
      modifyChannel, modifyChannel, hlisted]
    split <;> rfl
  | idle call _ hperform => rw [hperform, hperform]

/-- An operation that is not on the roles can come before or after. -/
theorem adopt_perform {call : ServerCall} (h : call.target? ≠ some .roles) (s : Server) :
    (call.perform s).adopt f roles = call.perform (s.adopt f roles) := by
  cases call with
  | channels call => exact adopt_perform_channels f roles call s
  | updateVoiceState state =>
    rw [ServerCall.perform, ServerCall.perform, updateVoiceState, updateVoiceState]
    split <;> rfl
  | updateGuild _ | addRole _ | updateRole _ _ | deleteRole _ => exact absurd rfl h
  | _ => rfl

end Adopt

/-- A guild overrides the guild before it. -/
theorem updateGuild_updateGuild (guild other : Record) (s : Server) :
    (s.updateGuild guild).updateGuild other = s.updateGuild other := by
  have hprofile : (s.profile.setAll (guildValues guild)).setAll (guildValues other) =
      s.profile.setAll (guildValues other) :=
    Record.setAll_setAll (nodup_guildValues guild) (by simp only [names_guildValues]) s.profile
  simp only [updateGuild_eq, adopt, hprofile]

/-- An operation on the roles does not count once a guild is taken over. -/
theorem updateGuild_perform_roles {call : ServerCall} (h : call.target? = some .roles)
    (guild : Record) (s : Server) : (call.perform s).updateGuild guild = s.updateGuild guild := by
  cases call with
  | updateGuild other => exact updateGuild_updateGuild other guild s
  | addRole _ | updateRole _ _ | deleteRole _ =>
    rw [updateGuild_eq, updateGuild_eq]
    rfl
  | _ => cases h

/-- Of the operations before a guild is taken over, those on the roles do not count, and the others
might as well come after. -/
theorem updateGuild_run (calls : List ServerCall) (guild : Record) (s : Server) :
    (ServerCall.run calls s).updateGuild guild =
      ServerCall.run (calls.filter fun call => decide (call.target? ≠ some .roles))
        (s.updateGuild guild) := by
  induction calls generalizing s with
  | nil => rfl
  | cons call rest ih =>
    rw [ServerCall.run, List.foldl_cons, ← ServerCall.run, ih]
    by_cases h : call.target? = some .roles
    · rw [List.filter_cons_of_neg (by simp [h]), updateGuild_perform_roles h]
    · rw [List.filter_cons_of_pos (by simp [h]), updateGuild_eq, adopt_perform _ _ h, ← updateGuild_eq]
      rfl

/-! ## Decoded guilds -/

/-- A server that is made of a guild has the fields of the guild and nothing else. -/
theorem exists_ofGuild? (hguild : guild.Conforms .guild) : ∃ t, ofGuild? guild = some t ∧
    t.CarriesGuild guild ∧ (∀ f ∈ gatewayFields, f.fallback = some (t.toRecord.get f.name)) ∧
    t.rooms = [] ∧ t.members = [] ∧ t.presences = [] ∧ t.voiceStates = [] := by
  have hrecord := conforms_guildRecord hguild
  have hshown := toRecord_ofRecord hrecord
  have hempty (e : String × RecordKind) (he : e ∈ collectionKinds) (hname : e.1 ∉ guildNames) :
      ((guildRecord guild).get e.1).records = [] := by
    have hgateway := (List.mem_append.1 (listing_mem_fields e he)).resolve_left fun hmem =>
      hname (List.mem_map_of_mem hmem)
    have hfallback : (guildRecord guild).get e.1 = .list [] :=
      (Option.some.inj (get_guildRecord_gateway hguild hgateway)).symm
    rw [hfallback]
    rfl
  refine ⟨_, ofGuild?_eq hguild, carriesGuild_of_get ?_ hguild ?_, ?_, ?_, ?_, ?_, ?_⟩
  · rwa [hshown]
  · rw [hshown]
    exact fun f hf => get_guildRecord hguild hf
  · rw [hshown]
    exact fun f hf => get_guildRecord_gateway hguild hf
  · rw [rooms, ofRecord, hempty ("channels", .channel) (by simp [collectionKinds]) (by decide),
      hempty ("threads", .channel) (by simp [collectionKinds]) (by decide)]
    rfl
  · exact hempty ("members", .guildMember) (by simp [collectionKinds]) (by decide)
  · exact hempty ("presences", .presenceUpdate) (by simp [collectionKinds]) (by decide)
  · exact hempty ("voice_states", .voiceState) (by simp [collectionKinds]) (by decide)

/-- A server of a program that takes a decoded guild over has its fields, and everything else is as
it was: channels with their messages and indicators, members, presences, voice states and the fields
that a guild does not have. Taking the guild over once more changes nothing, and another guild later
overrides it, whatever happens in between. A decoded guild also makes a server, which has its fields
and the fallbacks of the others. Both servers can be written, and write the fields of the guild as
the guild itself is written. -/
theorem guild_of_update {form : PayloadForm} {p : Payload}
    (hguild : (Record.decode form .guild p).outcome = .ok guild) (hs : s.Reached) :
    let s' := s.updateGuild guild
    s'.CarriesGuild guild ∧
    (∀ f ∈ gatewayFields, s'.toRecord.get f.name = s.toRecord.get f.name) ∧
    (s'.channels = s.channels ∧ s'.threads = s.threads ∧ s'.members = s.members ∧
      s'.presences = s.presences ∧ s'.voiceStates = s.voiceStates) ∧
    s'.updateGuild guild = s' ∧
    (∀ (calls : List ServerCall) (other : Record),
      (ServerCall.run calls s').updateGuild other = (ServerCall.run calls s).updateGuild other) ∧
    ∃ t, ofGuild? guild = some t ∧ t.CarriesGuild guild ∧
      (∀ f ∈ gatewayFields, f.fallback = some (t.toRecord.get f.name)) ∧
      t.rooms = [] ∧ t.members = [] ∧ t.presences = [] ∧ t.voiceStates = [] := by
  intro s'
  have hguild := Record.conforms_of_decode hguild
  have hprofile := hs.isSound.profile
  have htyped : (ServerCall.updateGuild guild).IsTyped := ServerCall.isTyped_of_given? rfl hguild
  have hs' : s'.Reached := .perform hs htyped
  refine ⟨carriesGuild_of_get hs'.isSound.conforms_toRecord hguild fun f hf =>
    get_updateGuild hprofile hguild hf, fun f hf => get_updateGuild_gateway hprofile hguild hf, ?_,
    updateGuild_updateGuild guild guild s, fun calls other => ?_, exists_ofGuild? hguild⟩
  · simp only [s', updateGuild_eq, adopt, and_self]
  · rw [updateGuild_run, updateGuild_run, updateGuild_updateGuild]

/-- A guild with another name and without roles is taken over while somebody is typing. -/
theorem guild_of_update_of_rename :
    let guild := Payload.object [("id", .string "1"), ("name", .string "new"),
      ("owner_id", .string "2")]
    let server := Payload.object [("id", .string "1"), ("name", .string "old"),
      ("owner_id", .string "2"), ("member_count", .integer 5),
      ("channels", .array [.object [("id", .string "7"), ("type", .integer 0)]])]
    let role := Payload.object [("id", .string "3"), ("name", .string "r")]
    let calls (r : Record) : List ServerCall :=
      [.channels (.startTyping (.ofInt 0) 7 4), .addRole r]
    ∃ g record r, (Record.decode .mapping .guild guild).outcome = .ok g ∧
      (Record.decode .mapping .server server).outcome = .ok record ∧
      (Record.decode .mapping .role role).outcome = .ok r ∧
      let s := ServerCall.run (calls r) (ofRecord record)
      (s.updateGuild g).toRecord.get "name" = .text "new" ∧
        (s.updateGuild g).toRecord.get "roles" = .list [] ∧
        (s.updateGuild g).toRecord.get "member_count" = .integer 5 ∧
        (s.updateGuild g).channels.map (fun c => c.typing.present.map Prod.fst) = [[4]] ∧
        ∃ t, ofGuild? g = some t ∧ t.toRecord.get "name" = .text "new" ∧
          t.toRecord.get "member_count" = .integer 0 := by
  intro guild server role calls
  obtain ⟨g, hg, hname, hroles⟩ : ∃ g, (Record.decode .mapping .guild guild).outcome = .ok g ∧
    g.get "name" = .text "new" ∧ g.get "roles" = .list [] := ⟨_, rfl, rfl, rfl⟩
  obtain ⟨r, hr⟩ : ∃ r, (Record.decode .mapping .role role).outcome = .ok r := ⟨_, rfl⟩
  obtain ⟨record, hrecord, hcount, htyping⟩ :
      ∃ record, (Record.decode .mapping .server server).outcome = .ok record ∧
        (ServerCall.run (calls r) (ofRecord record)).toRecord.get "member_count" = .integer 5 ∧
        (ServerCall.run (calls r) (ofRecord record)).channels.map
          (fun c => c.typing.present.map Prod.fst) = [[4]] := ⟨_, rfl, rfl, rfl⟩
  refine ⟨g, record, r, hg, hrecord, hr, ?_⟩
  intro s
  have hreached : s.Reached := by
    refine .run ?_ (.decoded hrecord)
    simp only [calls, List.forall_mem_cons, List.not_mem_nil, false_imp_iff, implies_true, and_true]
    exact ⟨(fun _ _ h => nomatch h), ServerCall.isTyped_of_given? rfl (Record.conforms_of_decode hr)⟩
  have hmembers : Field.withDefault "member_count" .integer (.integer 0) ∈ gatewayFields := by
    simp [gatewayFields, RecordKind.fields, Catalog.server, Catalog.guild]
  obtain ⟨hcarries, hgateway, ⟨hchannels, -⟩, -, -, t, ht, htcarries, hfallback, -⟩ :=
    guild_of_update hg hreached
  have hnames : "name" ∈ RecordKind.guild.fields.map Field.name := by decide
  obtain ⟨f, hf, hfname⟩ := List.mem_map.1 hnames
  refine ⟨?_, ?_, ?_, ?_, t, ht, ?_, ?_⟩
  · rw [← hfname, hcarries.get f hf, hfname, hname]
  · exact (hcarries.get _ roles_mem_fields).trans hroles
  · exact (hgateway _ hmembers).trans hcount
  · rw [hchannels]
    exact htyping
  · rw [← hfname, htcarries.get f hf, hfname, hname]
  · exact (Option.some.inj (hfallback _ hmembers)).symm

end Server
end ChatRecords
