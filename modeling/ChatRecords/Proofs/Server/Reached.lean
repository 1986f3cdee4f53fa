import ChatRecords.Proofs.Record.Setting
import ChatRecords.Proofs.Server.Collections

/-!
# The servers of a program

A program decodes a server or makes it of a guild, and gives records of the right kinds to it. All
records that the server holds then are of their kinds, and so is the record that shows it.

## Main definitions

* `ServerCall.given?`, `ServerCall.IsTyped`: the record that is given to a server, and that it is one
  of its kind.
* `Server.IsSound`: what a server holds is of its kind.
* `Server.Reached`: the servers of a program.

## Main results

* `Server.IsSound.perform`: an operation keeps a server sound.
* `Server.Reached.isSound`: what a server of a program holds is of its kind.
* `Server.IsSound.conforms_toRecord`: a sound server is shown as a record of its kind.
* `Server.toRecord_ofRecord`: a server shows the record that it was made of.
-/

namespace ChatRecords

/-! ## Records that are given to a server -/

/-- The record that is given to the channels of a server, and the kind that it should be of. -/
def ChannelCall.given? : ChannelCall → Option (RecordKind × Record)
  | addChannel channel | updateChannel _ channel => some (.channel, channel)
  | addMessage message | updateMessage message => some (.message, message)
  | _ => none

namespace ServerCall

/-- The record that is given to a server, and the kind that it should be of. -/
def given? : ServerCall → Option (RecordKind × Record)
  | channels call => call.given?
  | updateGuild guild => some (.guild, guild)
  | addRole role | updateRole _ role => some (.role, role)
  | addMember member | updateMember _ member => some (.guildMember, member)
  | addPresence presence | updatePresence _ presence => some (.presenceUpdate, presence)
  | addVoiceState state | updateVoiceState state => some (.voiceState, state)
  | deleteRole _ | deleteMember _ => none

/-- The record that is given to a server, if any is, is one of its kind. -/
def IsTyped (call : ServerCall) : Prop :=
  ∀ kind r, call.given? = some (kind, r) → r.Conforms kind

theorem isTyped_of_given? {call : ServerCall} {kind : RecordKind} {r : Record}
    (hgiven : call.given? = some (kind, r)) (h : r.Conforms kind) : call.IsTyped := by
  intro kind' r' hgiven'
  rw [hgiven] at hgiven'
  cases hgiven'
  exact h

end ServerCall

/-- The kind of the records of a collection. -/
def Collection.kind : Collection → RecordKind
  | roles => .role
  | members => .guildMember
  | presences => .presenceUpdate
  | voiceStates => .voiceState

/-- The items that a step brings in. -/
def Keyed.Call.given {α κ : Type} : Keyed.Call α κ → List α
  | add a | replace _ a | put a => [a]
  | erase _ => []
  | reset items => items

theorem Keyed.Call.mem_perform {α κ : Type} [DecidableEq κ] {key : α → Option κ} {items : List α}
    {a : α} {call : Keyed.Call α κ} (h : a ∈ call.perform key items) :
    a ∈ items ∨ a ∈ call.given := by
  have hreplace (k : κ) (b : α) (h : a ∈ Keyed.replace key k b items) : a ∈ items ∨ a ∈ [b] := by
    refine (Keyed.mem_modify h).imp_right ?_
    rintro ⟨_, -, rfl⟩
    exact List.mem_singleton_self _
  cases call with
  | add new => exact List.mem_append.1 h
  | replace k new => exact hreplace _ _ h
  | erase k => exact .inl (List.mem_of_mem_eraseP h)
  | reset new => exact .inr h
  | put new =>
    rw [perform] at h
    split at h
    · rw [Keyed.upsert] at h
      split at h
      · exact hreplace _ _ h
      · exact List.mem_append.1 h
    · exact List.mem_append.1 h

/-- The records in a list of records are all that is in it. -/
theorem Value.Fits.listing_records {good : Ready → Prop} {item : RecordKind} {v : Value}
    (h : v.Fits good (.list (.record item))) :
    (∀ r ∈ v.records, r.toValue.Fits good (.record item)) ∧ Server.listing v.records = v := by
  cases h with
  | @list _ items h =>
    induction items with
    | nil => exact ⟨nofun, rfl⟩
    | cons v rest ih =>
      rw [List.forall_mem_cons] at h
      obtain ⟨hrecords, hlisting⟩ := ih h.2
      obtain ⟨hv, -⟩ := h
      cases v with
      | record kind fields =>
        have hrest : (Value.list rest).records.map Record.toValue = rest := Value.list.inj hlisting
        exact ⟨List.forall_mem_cons.2 ⟨hv, hrecords⟩,
          congrArg (fun vs => Value.list (.record kind fields :: vs)) hrest⟩
      | _ => cases hv

/-- The records in a list field of a record are of their kind. -/
theorem Record.Conforms.records {kind item : RecordKind} {r : Record} (h : r.Conforms kind)
    {name : String} (hf : Field.listing name (.record item) ∈ kind.fields) :
    (∀ r' ∈ (r.get name).records, r'.Conforms item) ∧
      Server.listing (r.get name).records = r.get name :=
  (h.admits_get hf).1.listing_records

/-! ## Sound servers -/

namespace Server

/-- Everything that a server holds is of its kind. -/
structure IsSound (s : Server) : Prop where
  profile : s.profile.Conforms .server
  items : ∀ c : Collection, ∀ r ∈ c.items s, r.Conforms c.kind
  /-- The messages of a channel are not shown with it. -/
  rooms : ∀ c ∈ s.rooms, c.profile.Conforms .channel

/-- A server of a program: it was decoded or made of a guild, and then records of the right kinds
were given to it. -/
inductive Reached : Server → Prop
  | decoded {form : PayloadForm} {p : Payload} {r : Record}
      (h : (Record.decode form .server p).outcome = .ok r) : Reached (ofRecord r)
  | ofGuild {guild : Record} {s : Server} (hguild : guild.Conforms .guild)
      (h : ofGuild? guild = some s) : Reached s
  | perform {s : Server} {call : ServerCall} (hs : Reached s) (hcall : call.IsTyped) :
      Reached (call.perform s)

/-! ### The record of a server -/

/-- The fields of the collections, with the kinds of the records in them. -/
def collectionKinds : List (String × RecordKind) :=
  [("roles", .role), ("members", .guildMember), ("presences", .presenceUpdate),
   ("voice_states", .voiceState), ("channels", .channel), ("threads", .channel)]

/-- The collections, each with the name of its field and as the value of that field. -/
def collections (s : Server) : List (String × Value) :=
  [("roles", listing s.roles), ("members", listing s.members), ("presences", listing s.presences),
   ("voice_states", listing s.voiceStates), ("channels", listing (s.channels.map CachedChannel.profile)),
   ("threads", listing (s.threads.map CachedChannel.profile))]

theorem toRecord_eq (s : Server) : s.toRecord = s.profile.setAll s.collections := rfl

theorem bare_eq (r : Record) : bare r = r.setAll (collectionFields.map (·, .list [])) := by
  rw [bare, Record.setAll, List.foldl_map]

theorem nodup_collections (s : Server) : (s.collections.map Prod.fst).Nodup := by
  change collectionFields.Nodup
  decide

theorem listing_mem_fields :
    ∀ e ∈ collectionKinds, Field.listing e.1 (.record e.2) ∈ RecordKind.server.fields := by
  have hfields : RecordKind.server.fields = Catalog.server := rfl
  simp [collectionKinds, hfields, Catalog.server, Catalog.guild]

theorem records_listing (records : List Record) : (listing records).records = records := by
  simp only [listing, Value.records, Value.items, List.filterMap_map]
  exact List.filterMap_some

/-- A list of records of a kind is what a field that lists such records admits. -/
theorem admits_listing {kind item : RecordKind} {records : List Record}
    (h : ∀ r ∈ records, r.Conforms item) (name : String) :
    (Field.listing name (.record item)).Admits kind (listing records) := by
  refine ⟨.list fun v hv => ?_, fun _ => rfl⟩
  obtain ⟨r, hr, rfl⟩ := List.mem_map.1 hv
  exact h r hr

variable {s : Server} {r : Record}

theorem conforms_bare (h : r.Conforms .server) : (bare r).Conforms .server := by
  have hnames : collectionFields = collectionKinds.map Prod.fst := rfl
  rw [bare_eq, hnames, List.map_map]
  refine h.setAll fun e he => ?_
  obtain ⟨⟨name, kind⟩, hmem, rfl⟩ := List.mem_map.1 he
  have hempty : ∀ r ∈ ([] : List Record), r.Conforms kind := nofun
  exact ⟨_, listing_mem_fields _ hmem, rfl, admits_listing hempty name⟩

theorem isSound_ofRecord (h : r.Conforms .server) : (ofRecord r).IsSound := by
  have hrecords (e : String × RecordKind) (he : e ∈ collectionKinds) :=
    (h.records (listing_mem_fields e he)).1
  refine ⟨conforms_bare h, fun c => ?_, fun c hc => ?_⟩
  · cases c with
    | roles => exact hrecords ("roles", .role) (by simp [collectionKinds])
    | members => exact hrecords ("members", .guildMember) (by simp [collectionKinds])
    | presences => exact hrecords ("presences", .presenceUpdate) (by simp [collectionKinds])
    | voiceStates => exact hrecords ("voice_states", .voiceState) (by simp [collectionKinds])
  · rcases List.mem_append.1 hc with hc | hc
    · obtain ⟨channel, hchannel, rfl⟩ := List.mem_map.1 hc
      exact hrecords ("channels", .channel) (by simp [collectionKinds]) channel hchannel
    · obtain ⟨channel, hchannel, rfl⟩ := List.mem_map.1 hc
      exact hrecords ("threads", .channel) (by simp [collectionKinds]) channel hchannel

/-- A server shows the record that it was made of. -/
theorem toRecord_ofRecord (h : r.Conforms .server) : (ofRecord r).toRecord = r := by
  have hlistings (e : String × RecordKind) (he : e ∈ collectionKinds) :=
    (h.records (listing_mem_fields e he)).2
  have hbare : (bare r).setAll (ofRecord r).collections = r.setAll (ofRecord r).collections := by
    have hnodup : ((collectionFields.map (·, Value.list [])).map Prod.fst).Nodup := by decide
    have hnames : (ofRecord r).collections.map Prod.fst =
        (collectionFields.map (·, Value.list [])).map Prod.fst := rfl
    rw [bare_eq, Record.setAll_setAll hnodup hnames]
  refine (toRecord_eq _).trans (hbare.trans (Record.setAll_eq_self h.nodup_names ?_))
  have hprofiles (records : List Record) :
      (records.map CachedChannel.ofRecord).map CachedChannel.profile = records := by
    rw [List.map_map]
    exact List.map_id _
  simp only [collections, List.forall_mem_cons, ofRecord, hprofiles]
  simp only [collectionKinds, List.forall_mem_cons] at hlistings
  obtain ⟨hroles, hmembers, hpresences, hvoice, hchannels, hthreads, -⟩ := hlistings
  exact ⟨hroles.symm, hmembers.symm, hpresences.symm, hvoice.symm, hchannels.symm, hthreads.symm,
    nofun⟩

/-- A sound server is shown as a record of its kind. -/
theorem IsSound.conforms_toRecord (hs : s.IsSound) : s.toRecord.Conforms .server := by
  have hprofiles (channels : List CachedChannel) (hmem : ∀ c ∈ channels, c ∈ s.rooms) :
      ∀ r ∈ channels.map CachedChannel.profile, r.Conforms .channel := by
    rw [List.forall_mem_map]
    exact fun c hc => hs.rooms c (hmem c hc)
  have hadmits : List.Forall₂ (fun e k => e.1 = k.1 ∧
      (Field.listing k.1 (.record k.2)).Admits .server e.2) s.collections collectionKinds :=
    .cons ⟨rfl, admits_listing (hs.items .roles) _⟩
      (.cons ⟨rfl, admits_listing (hs.items .members) _⟩
      (.cons ⟨rfl, admits_listing (hs.items .presences) _⟩
      (.cons ⟨rfl, admits_listing (hs.items .voiceStates) _⟩
      (.cons ⟨rfl, admits_listing (hprofiles _ fun c => List.mem_append_left _) _⟩
      (.cons ⟨rfl, admits_listing (hprofiles _ fun c => List.mem_append_right _) _⟩ .nil)))))
  rw [toRecord_eq]
  refine hs.profile.setAll fun e he => ?_
  obtain ⟨k, hk, hname, hv⟩ := exists_right_of_forall₂ hadmits he
  exact ⟨_, listing_mem_fields k hk, hname.symm, hv⟩

end Server

/-! ## What an operation keeps -/

namespace ChannelCall

theorem profile_perform (call : ChannelCall) (s : Server) : (call.perform s).profile = s.profile := by
  induction call using shape with
  | add channel =>
    rw [perform, Server.addChannel]
    split <;> rfl
  | delete id =>
    rw [perform, Server.deleteChannel]
    split
    · rfl
    · split <;> rfl
  | change call id f hchange =>
    rw [perform_of_change? hchange, Server.modifyChannel]
    split <;> rfl
  | idle call _ hperform => rw [hperform]

/-- The record of a channel was there before, or it is the one that is given. -/
theorem mem_rooms_perform {call : ChannelCall} {s : Server} {c : CachedChannel}
    (h : c ∈ (call.perform s).rooms) : (∃ old ∈ s.rooms, c.profile = old.profile) ∨
      call.given? = some (.channel, c.profile) := by
  induction call using shape with
  | add channel =>
    rcases List.mem_append.1 ((Server.rooms_addChannel channel s).mem_iff.2 h) with hc | hc
    · exact .inl ⟨c, hc, rfl⟩
    · obtain rfl := List.mem_singleton.1 hc
      exact .inr rfl
  | delete id =>
    rw [perform, Server.rooms_deleteChannel] at h
    exact .inl ⟨c, List.mem_of_mem_eraseP h, rfl⟩
  | change call id f hchange =>
    rw [perform_of_change? hchange, Server.rooms_modifyChannel] at h
    rcases Keyed.mem_modify h with hc | ⟨old, hold, rfl⟩
    · exact .inl ⟨c, hc, rfl⟩
    · by_cases hupdate : ∃ channel, call = updateChannel id channel
      · obtain ⟨channel, rfl⟩ := hupdate
        cases hchange
        exact .inr rfl
      · exact .inl ⟨old, List.mem_of_find?_eq_some hold,
          profile_of_change? hchange (not_exists.1 hupdate) old⟩
  | idle call _ hperform =>
    rw [hperform] at h
    exact .inl ⟨c, h, rfl⟩

end ChannelCall

namespace Server

variable {s : Server} {call : ServerCall}

theorem roles_mem_fields : Field.listing "roles" (.record .role) ∈ RecordKind.guild.fields := by
  have hfields : RecordKind.guild.fields = Catalog.guild := rfl
  simp [hfields, Catalog.guild]

/-- Records of the right kinds come into a collection. -/
theorem conforms_of_step? {c : Collection} {step : Keyed.Call Record Int}
    (hstep : c.step? call = some step) (hcall : call.IsTyped) :
    ∀ r ∈ step.given, r.Conforms c.kind := by
  cases c <;> cases call <;> cases hstep <;>
    first
    | exact (Record.Conforms.records (hcall _ _ rfl) roles_mem_fields).1
    | exact List.forall_mem_singleton.2 (hcall _ _ rfl)
    | exact nofun

/-- The records of a collection stay of their kind. -/
theorem conforms_items_perform {c : Collection} (hcall : call.IsTyped)
    (hitems : ∀ r ∈ c.items s, r.Conforms c.kind) :
    ∀ r ∈ c.items (call.perform s), r.Conforms c.kind := by
  intro r hr
  cases hstep : c.step? call with
  | none =>
    rw [Collection.items_perform_of_ne (Collection.target?_ne_of_step? hstep)] at hr
    exact hitems r hr
  | some step =>
    rw [Collection.items_perform hstep] at hr
    exact (Keyed.Call.mem_perform hr).elim (hitems r) (conforms_of_step? hstep hcall r)

theorem mem_guildFields {name : String} : name ∈ guildFields ↔
    (∃ f ∈ RecordKind.guild.fields, f.name = name) ∧ name ≠ "roles" := by
  rw [guildFields, List.mem_filter, List.mem_map, decide_eq_true_iff]

/-- The fields of a guild but for its roles, with what the guild holds there. -/
def guildValues (guild : Record) : List (String × Value) :=
  guildFields.map fun name => (name, guild.get name)

theorem names_guildValues (guild : Record) : (guildValues guild).map Prod.fst = guildFields := by
  rw [guildValues, List.map_map]
  exact List.map_id _

theorem nodup_guildValues (guild : Record) : ((guildValues guild).map Prod.fst).Nodup := by
  rw [names_guildValues]
  exact RecordKind.guild.nodup_names.filter _

theorem profile_updateGuild (guild : Record) (s : Server) :
    (s.updateGuild guild).profile = s.profile.setAll (guildValues guild) := by
  rw [Record.setAll, guildValues, List.foldl_map]
  rfl

theorem rooms_updateGuild (guild : Record) (s : Server) : (s.updateGuild guild).rooms = s.rooms := by
  simp only [rooms, updateGuild]

/-- The fields of a guild are fields of servers, too. -/
theorem conforms_updateGuild {guild profile : Record} (hguild : guild.Conforms .guild)
    (h : profile.Conforms .server) :
    (profile.setAll (guildValues guild)).Conforms .server := by
  refine h.setAll fun e he => ?_
  obtain ⟨name, hname, rfl⟩ := List.mem_map.1 he
  obtain ⟨⟨f, hf, rfl⟩, -⟩ := mem_guildFields.1 hname
  obtain ⟨hfits, hown⟩ := hguild.admits_get hf
  exact ⟨f, List.mem_append_left _ hf, rfl, hfits, fun _ => hown rfl⟩

/-- An operation that gives a record of the right kind keeps a server sound. -/
theorem IsSound.perform (hs : s.IsSound) (hcall : call.IsTyped) : (call.perform s).IsSound := by
  have hitems (c : Collection) := conforms_items_perform hcall (hs.items c)
  cases call with
  | channels call =>
    refine ⟨?_, hitems, fun c hc => ?_⟩
    · rw [ServerCall.perform, call.profile_perform]
      exact hs.profile
    · rcases ChannelCall.mem_rooms_perform hc with ⟨old, hold, hprofile⟩ | hgiven
      · rw [hprofile]
        exact hs.rooms old hold
      · exact hcall _ _ hgiven
  | updateGuild guild =>
    refine ⟨?_, hitems, ?_⟩
    · rw [ServerCall.perform, profile_updateGuild]
      exact conforms_updateGuild (hcall _ _ rfl) hs.profile
    · rw [ServerCall.perform, rooms_updateGuild]
      exact hs.rooms
  | updateVoiceState state =>
    rw [ServerCall.perform, updateVoiceState] at hitems ⊢
    split at hitems
    · exact ⟨hs.profile, hitems, hs.rooms⟩
    · exact ⟨hs.profile, hitems, hs.rooms⟩
  | _ => exact ⟨hs.profile, hitems, hs.rooms⟩

/-! ## Servers of guilds -/

/-- The fields of a server that a guild does not have. -/
def gatewayFields : List Field := RecordKind.server.fields.drop RecordKind.guild.fields.length

theorem fields_eq : RecordKind.server.fields = RecordKind.guild.fields ++ gatewayFields := rfl

theorem exists_fallback {f : Field} (hf : f ∈ gatewayFields) : ∃ v, f.fallback = some v := by
  have hall : gatewayFields.all (fun f => f.fallback.isSome) = true := by decide
  exact Option.isSome_iff_exists.1 (List.all_eq_true.1 hall f hf)

theorem name_ne_of_mem {f f' : Field} (hf : f ∈ RecordKind.guild.fields) (hf' : f' ∈ gatewayFields) :
    f.name ≠ f'.name := by
  have hnodup := RecordKind.server.nodup_names
  rw [fields_eq, List.map_append] at hnodup
  exact (List.nodup_append.1 hnodup).2.2 _ (List.mem_map_of_mem hf) _ (List.mem_map_of_mem hf')

/-- The record of a server of which nothing but the guild is known. -/
def guildRecord (guild : Record) : Record :=
  ⟨.server, guild.fields ++ gatewayFields.map fun f => (f.name, f.fallback.getD .null)⟩

variable {guild : Record}

theorem conforms_guildRecord (h : guild.Conforms .guild) : (guildRecord guild).Conforms .server := by
  refine Record.conforms_iff.2 ⟨rfl, List.rel_append ?_ ?_⟩
  · refine (Record.conforms_iff.1 h).2.imp fun f e hfield => ⟨hfield.1, hfield.2.1, fun _ => ?_⟩
    exact hfield.2.2 rfl
  · refine List.forall₂_map_right_iff.2 (List.forall₂_same.2 fun f hf => ⟨rfl, ?_⟩)
    obtain ⟨v, hv⟩ := exists_fallback hf
    rw [hv]
    exact Field.admits_fallback (List.mem_append_right _ hf) hv

theorem get_guildRecord (h : guild.Conforms .guild) {f : Field} (hf : f ∈ RecordKind.guild.fields) :
    (guildRecord guild).get f.name = guild.get f.name := by
  refine (conforms_guildRecord h).get_eq_of_mem (List.mem_append_left _ ?_)
  rw [h.fields_eq]
  exact List.mem_map_of_mem hf

theorem get_guildRecord_gateway (h : guild.Conforms .guild) {f : Field} (hf : f ∈ gatewayFields) :
    f.fallback = some ((guildRecord guild).get f.name) := by
  obtain ⟨v, hv⟩ := exists_fallback hf
  have hget : (guildRecord guild).get f.name = f.fallback.getD .null :=
    (conforms_guildRecord h).get_eq_of_mem (List.mem_append_right _ (List.mem_map_of_mem hf))
  rw [hget, hv]
  rfl

/-- A guild makes a server that has its fields, and the fallbacks of the others. -/
theorem ofGuild?_eq (h : guild.Conforms .guild) :
    ofGuild? guild = some (ofRecord (guildRecord guild)) := by
  have hnames : ((RecordKind.guild.fields.map fun f => (f.name, guild.get f.name)).map Prod.fst) =
      RecordKind.guild.fields.map Field.name := by
    rw [List.map_map]
    rfl
  rw [ofGuild?, (conforms_guildRecord h).build?_eq fun f hf => ?_, Option.map_some]
  rcases List.mem_append.1 hf with hguild | hgateway
  · refine .inl ?_
    rw [get_guildRecord h hguild, lookup_eq_some_iff_mem (hnames ▸ RecordKind.guild.nodup_names)]
    exact List.mem_map_of_mem hguild
  · refine .inr ⟨?_, get_guildRecord_gateway h hgateway⟩
    rw [Record.lookup_eq_none_iff_notMem, hnames]
    intro hmem
    obtain ⟨f', hf', hname⟩ := List.mem_map.1 hmem
    exact name_ne_of_mem hf' hgateway hname

/-! ## Servers of a program -/

theorem Reached.run {calls : List ServerCall} (hcalls : ∀ call ∈ calls, call.IsTyped)
    (hs : s.Reached) : (ServerCall.run calls s).Reached := by
  induction calls generalizing s with
  | nil => exact hs
  | cons call rest ih =>
    rw [List.forall_mem_cons] at hcalls
    exact ih hcalls.2 (.perform hs hcalls.1)

theorem Reached.isSound (hs : s.Reached) : s.IsSound := by
  induction hs with
  | decoded h => exact isSound_ofRecord (Record.conforms_of_decode h)
  | ofGuild hguild h =>
    rw [ofGuild?_eq hguild] at h
    obtain rfl := Option.some.inj h
    exact isSound_ofRecord (conforms_guildRecord hguild)
  | perform _ hcall ih => exact ih.perform hcall

end Server
end ChatRecords
