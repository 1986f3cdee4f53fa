import ChatRecords.Proofs.Keyed.Slot
import ChatRecords.Proofs.Typing.History
import ChatRecords.Server.Channels
import Mathlib.Data.List.Induction

/-!
# The channels of a server under its operations

Channels and threads lie in two lists, and what is known of a channel is carried from record to
record. Seen by its identifier, every channel has a history of its own all the same: a record that
was given last, and messages that came and went since the channel was added.

## Main definitions

* `ChannelCall`: the operations, with `ChannelCall.perform` and `Server.run`.
* `Server.Orderly`: identifiers are distinct, and threads are kept apart from other channels.
* `ChannelCall.Fits`: an operation is one that keeps a server orderly.
* `ChannelCall.tell`: what an operation makes of the channel with an identifier.
* `Server.LastRecord`: the record that a channel was given last.
* `Server.Since`: the operations since a channel was added, and its messages then.

## Main results

* `Server.Orderly.perform`: operations that fit keep a server orderly.
* `Server.Orderly.channel?_perform`: each does to a channel what it tells it.
* `Server.channels_of_run`: what holds after any operations in a row.
-/

namespace ChatRecords

/-- An operation on the channels of a server. -/
inductive ChannelCall where
  | addChannel (channel : Record)
  | updateChannel (id : Int) (channel : Record)
  | deleteChannel (id : Int)
  | addMessage (message : Record)
  | updateMessage (message : Record)
  | deleteMessage (channel id : Int)
  /-- A user started to type at a time. -/
  | startTyping (now : Double) (channel user : Int)
  | stopTyping (channel user : Int)

namespace ChannelCall

def perform : ChannelCall → Server → Server
  | addChannel channel, s => s.addChannel channel
  | updateChannel id channel, s => s.updateChannel id channel
  | deleteChannel id, s => (s.deleteChannel id).2
  | addMessage message, s => s.addMessage message
  | updateMessage message, s => s.updateMessage message
  | deleteMessage channel id, s => (s.deleteMessage channel id).2
  | startTyping now channel user, s => s.startTyping now channel user
  | stopTyping channel user, s => s.stopTyping channel user

/-- The change of a channel that an operation asks for, and the identifier of that channel. -/
def change? : ChannelCall → Option (Int × (CachedChannel → CachedChannel))
  | addChannel _ | deleteChannel _ => none
  | updateChannel id channel => some (id, .inherit channel)
  | addMessage message => (message.idNumber? "channel_id").map (·, .addMessage message)
  | updateMessage message => (message.idNumber? "channel_id").map (·, .updateMessage message)
  | deleteMessage channel id => some (channel, fun c => (c.deleteMessage id).2)
  | startTyping now channel user => some (channel, .startTyping now user)
  | stopTyping channel user => some (channel, .stopTyping user)

/-- The identifier of the channel that an operation is about, if it should be there already. -/
def target? : ChannelCall → Option Int
  | deleteChannel id => some id
  | call => call.change?.map Prod.fst

/-- An operation is one that keeps a server orderly: a channel is added under a new identifier, and
a newer record has the identifier of the old one and is a thread if that is one. -/
def Fits (s : Server) : ChannelCall → Prop
  | addChannel channel => ∃ id, channel.idNumber? "id" = some id ∧ s.channel? id = none
  | updateChannel id channel => channel.idNumber? "id" = some id ∧
      ∀ old, s.channel? id = some old → Channel.isThread channel = old.isThread
  | _ => True

/-- What an operation makes of the channel with an identifier, if there is one. -/
def tell (k : Int) (call : ChannelCall) (cached : Option CachedChannel) : Option CachedChannel :=
  match call with
  | addChannel channel =>
    if channel.idNumber? "id" = some k then some (.ofRecord channel) else cached
  | deleteChannel id => if k = id then none else cached
  | call =>
    match call.change? with
    | some (id, f) => if k = id then cached.map f else cached
    | none => cached

/-- An operation is about the record of the channel with an identifier. -/
def Touches (k : Int) : ChannelCall → Prop
  | addChannel channel => channel.idNumber? "id" = some k
  | updateChannel id _ | deleteChannel id => id = k
  | _ => False

/-- An operation gives a record to the channel with an identifier, which a newer record needs to be
there. -/
def Gives (k : Int) (r : Record) (cached : Option CachedChannel) : ChannelCall → Prop
  | addChannel channel => channel = r ∧ channel.idNumber? "id" = some k
  | updateChannel id channel => channel = r ∧ id = k ∧ cached.isSome = true
  | _ => False

end ChannelCall

/-- An operation on the messages of one channel. -/
inductive CacheCall where
  | add (message : Record)
  | update (message : Record)
  | delete (id : Int)

/-- The messages in the order of their arrival, after an operation. -/
def CacheCall.perform : CacheCall → List Record → List Record
  | add message, messages => messages ++ [message]
  | update message, messages =>
    match CachedChannel.messageId? message with
    | some id => Keyed.upsert CachedChannel.messageId? id message messages
    | none => messages ++ [message]
  | delete id, messages => Keyed.erase CachedChannel.messageId? id messages

namespace ChannelCall

/-- What an operation is for the messages of the channel with an identifier, if it is addressed to
that channel. -/
def cacheCall? (k : Int) : ChannelCall → Option CacheCall
  | addMessage message =>
    if message.idNumber? "channel_id" = some k then some (.add message) else none
  | updateMessage message =>
    if message.idNumber? "channel_id" = some k then some (.update message) else none
  | deleteMessage channel id => if channel = k then some (.delete id) else none
  | _ => none

/-- The messages of the channel with an identifier after some operations: those that are addressed to
it count, and nothing else does. -/
def cacheAfter (k : Int) (calls : List ChannelCall) (messages : List Record) : List Record :=
  (calls.filterMap (cacheCall? k)).foldl (fun messages call => call.perform messages) messages

end ChannelCall

namespace Server

/-- The server after some operations. -/
def run (calls : List ChannelCall) (s : Server) : Server := calls.foldl (fun s call => call.perform s) s

/-- Each of some operations fits the server that it is performed on. -/
def FitsAll : Server → List ChannelCall → Prop
  | _, [] => True
  | s, call :: rest => call.Fits s ∧ FitsAll (call.perform s) rest

/-- The channels and the threads, in the order in which they are searched. -/
def rooms (s : Server) : List CachedChannel := s.channels ++ s.threads

/-- Channels and threads have distinct identifiers and are kept apart. -/
structure Orderly (s : Server) : Prop where
  distinct : Keyed.Distinct CachedChannel.id? s.rooms
  channels : ∀ c ∈ s.channels, c.isThread = false
  /-- Threads are in the list of threads only. -/
  threads : ∀ c ∈ s.threads, c.isThread = true

/-- The record that the channel with an identifier was given last, and it was not deleted since. -/
def LastRecord (s : Server) (calls : List ChannelCall) (k : Int) (r : Record) : Prop :=
  ((s.channel? k).map CachedChannel.profile = some r ∧ ∀ call ∈ calls, ¬call.Touches k) ∨
    ∃ before call after, calls = before ++ call :: after ∧
      call.Gives k r ((s.run before).channel? k) ∧ ∀ later ∈ after, ¬later.Touches k

/-- The operations since a channel was added, and its messages then, if it was not deleted since. A
channel that was there from the start has the messages from then. -/
def Since (s : Server) (calls : List ChannelCall) (k : Int) (since : List ChannelCall)
    (start : List Record) : Prop :=
  .deleteChannel k ∉ since ∧
    ((since = calls ∧ ∃ c, s.channel? k = some c ∧ c.messages = start) ∨
      (start = [] ∧ ∃ before channel, calls = before ++ .addChannel channel :: since ∧
        channel.idNumber? "id" = some k))

variable {s : Server}

/-! ## Operations on the lists -/

theorem channel?_eq (k : Int) (s : Server) :
    s.channel? k = Keyed.find? CachedChannel.id? k s.rooms := by
  rw [channel?, Keyed.find?, Keyed.find?, Keyed.find?, rooms, List.find?_append, Option.orElse_eq_or]

theorem rooms_modifyChannel (id : Int) (f : CachedChannel → CachedChannel) (s : Server) :
    (s.modifyChannel id f).rooms = Keyed.modify CachedChannel.id? id f s.rooms := by
  rw [modifyChannel]
  split
  · next h => exact (Keyed.modify_append_of_isSome f h s.threads).symm
  · next h =>
    rw [isListed, Option.not_isSome_iff_eq_none, Keyed.find?_eq_none_iff] at h
    exact (Keyed.modify_append_of_lacks f h s.threads).symm

theorem deleteChannel_of_none {id : Int} (h : s.channel? id = none) :
    s.deleteChannel id = (none, s) := by
  rw [deleteChannel, h]

theorem deleteChannel_of_some {id : Int} {c : CachedChannel} (h : s.channel? id = some c) :
    s.deleteChannel id = (some c.closeTyping,
      if s.isListed id then { s with channels := Keyed.erase CachedChannel.id? id s.channels }
      else { s with threads := Keyed.erase CachedChannel.id? id s.threads }) := by
  rw [deleteChannel, h]

theorem rooms_deleteChannel (id : Int) (s : Server) :
    (s.deleteChannel id).2.rooms = Keyed.erase CachedChannel.id? id s.rooms := by
  cases hfound : s.channel? id with
  | none =>
    rw [deleteChannel_of_none hfound]
    rw [channel?_eq, Keyed.find?_eq_none_iff] at hfound
    exact hfound.erase_eq.symm
  | some c =>
    rw [deleteChannel_of_some hfound]
    by_cases hlisted : s.isListed id = true
    · rw [if_pos hlisted]
      exact (Keyed.erase_append_of_isSome hlisted s.threads).symm
    · rw [if_neg hlisted]
      rw [isListed, Option.not_isSome_iff_eq_none, Keyed.find?_eq_none_iff] at hlisted
      exact (Keyed.erase_append_of_lacks hlisted s.threads).symm

theorem rooms_addChannel (channel : Record) (s : Server) :
    (s.rooms ++ [CachedChannel.ofRecord channel]).Perm (s.addChannel channel).rooms := by
  rw [addChannel]
  split
  · exact .of_eq (List.append_assoc _ _ _)
  · rw [rooms, rooms, List.append_assoc, List.append_assoc]
    exact List.perm_append_comm.append_left _

/-! ## What an operation does to a channel -/

theorem channel?_modifyChannel {id : Int} {f : CachedChannel → CachedChannel}
    (hf : ∀ c : CachedChannel, c.id? = some id → (f c).id? = some id) (s : Server) (k : Int) :
    (s.modifyChannel id f).channel? k = if k = id then (s.channel? id).map f else s.channel? k := by
  rw [channel?_eq, rooms_modifyChannel, Keyed.find?_modify hf, ← channel?_eq, ← channel?_eq]

/-- A change of a channel that is not there changes nothing. -/
theorem modifyChannel_of_none {id : Int} (h : s.channel? id = none)
    (f : CachedChannel → CachedChannel) : s.modifyChannel id f = s := by
  rw [channel?_eq, Keyed.find?_eq_none_iff] at h
  have hthreads : Keyed.Lacks CachedChannel.id? id s.threads := fun c hc =>
    h c (List.mem_append_right _ hc)
  have hchannels : Keyed.Lacks CachedChannel.id? id s.channels := fun c hc =>
    h c (List.mem_append_left _ hc)
  rw [modifyChannel, hthreads.modify_eq, hchannels.modify_eq, ite_self]

variable (hs : s.Orderly)

include hs

theorem Orderly.channel?_deleteChannel (id k : Int) :
    (s.deleteChannel id).2.channel? k = if k = id then none else s.channel? k := by
  rw [channel?_eq, rooms_deleteChannel, hs.distinct.find?_erase, ← channel?_eq]

theorem Orderly.distinct_appended {channel : Record} {id : Int}
    (hid : channel.idNumber? "id" = some id) (hnew : s.channel? id = none) :
    Keyed.Distinct CachedChannel.id? (s.rooms ++ [CachedChannel.ofRecord channel]) := by
  rw [channel?_eq, Keyed.find?_eq_none_iff] at hnew
  exact hnew.distinct_appended hs.distinct hid

theorem Orderly.channel?_addChannel {channel : Record} {id : Int}
    (hid : channel.idNumber? "id" = some id) (hnew : s.channel? id = none) (k : Int) :
    (s.addChannel channel).channel? k =
      if channel.idNumber? "id" = some k then some (.ofRecord channel) else s.channel? k := by
  have hdistinct := hs.distinct_appended hid hnew
  rw [channel?_eq, hdistinct.find?_of_perm (rooms_addChannel channel s), Keyed.find?,
    List.find?_append, ← Keyed.find?, ← channel?_eq]
  split
  · next hk =>
    obtain rfl : id = k := Option.some.inj (hid.symm.trans hk)
    rw [hnew, Option.none_or]
    exact List.find?_cons_of_pos (decide_eq_true hid)
  · next hk =>
    have hother : ¬Keyed.HasKey CachedChannel.id? k (CachedChannel.ofRecord channel) := hk
    rw [List.find?_cons_of_neg (by simpa using hother), List.find?_nil, Option.or_none]

/-! ## Order -/

theorem Orderly.modifyChannel {id : Int} {f : CachedChannel → CachedChannel}
    (hid : ∀ c : CachedChannel, c.id? = some id → (f c).id? = some id)
    (hthread : ∀ c, s.channel? id = some c → (f c).isThread = c.isThread) :
    (s.modifyChannel id f).Orderly := by
  have hdistinct : Keyed.Distinct CachedChannel.id? (s.modifyChannel id f).rooms := by
    rw [Keyed.Distinct, rooms_modifyChannel, Keyed.filterMap_modify hid]
    exact hs.distinct
  by_cases hlisted : s.isListed id = true
  · rw [Server.modifyChannel, if_pos hlisted] at hdistinct ⊢
    refine ⟨hdistinct, fun c hc => ?_, hs.threads⟩
    rcases Keyed.mem_modify hc with hc | ⟨old, hold, rfl⟩
    · exact hs.channels c hc
    · have hfound : s.channel? id = some old := by rw [channel?, hold, Option.orElse_some]
      rw [hthread old hfound]
      exact hs.channels old (List.mem_of_find?_eq_some hold)
  · rw [Server.modifyChannel, if_neg hlisted] at hdistinct ⊢
    refine ⟨hdistinct, hs.channels, fun c hc => ?_⟩
    rcases Keyed.mem_modify hc with hc | ⟨old, hold, rfl⟩
    · exact hs.threads c hc
    · have hfound : s.channel? id = some old := by
        rw [isListed, Option.not_isSome_iff_eq_none] at hlisted
        rw [channel?, hlisted, Option.orElse_none, hold]
      rw [hthread old hfound]
      exact hs.threads old (List.mem_of_find?_eq_some hold)

theorem Orderly.deleteChannel (id : Int) : (s.deleteChannel id).2.Orderly := by
  have hdistinct : Keyed.Distinct CachedChannel.id? (s.deleteChannel id).2.rooms := by
    rw [rooms_deleteChannel]
    exact hs.distinct.of_sublist List.eraseP_sublist
  cases hfound : s.channel? id with
  | none => rwa [deleteChannel_of_none hfound]
  | some c =>
    rw [deleteChannel_of_some hfound] at hdistinct ⊢
    by_cases hlisted : s.isListed id = true
    · rw [if_pos hlisted] at hdistinct ⊢
      exact ⟨hdistinct, fun c hc => hs.channels c (List.mem_of_mem_eraseP hc), hs.threads⟩
    · rw [if_neg hlisted] at hdistinct ⊢
      exact ⟨hdistinct, hs.channels, fun c hc => hs.threads c (List.mem_of_mem_eraseP hc)⟩

theorem Orderly.addChannel {channel : Record} {id : Int}
    (hid : channel.idNumber? "id" = some id) (hnew : s.channel? id = none) :
    (s.addChannel channel).Orderly := by
  have hdistinct := (hs.distinct_appended hid hnew).of_perm (rooms_addChannel channel s)
  by_cases hthread : (CachedChannel.ofRecord channel).isThread = true
  · rw [Server.addChannel, if_pos hthread] at hdistinct ⊢
    refine ⟨hdistinct, hs.channels, fun c hc => ?_⟩
    rcases List.mem_append.1 hc with hc | hc
    · exact hs.threads c hc
    · rwa [List.mem_singleton.1 hc]
  · rw [Server.addChannel, if_neg hthread] at hdistinct ⊢
    refine ⟨hdistinct, fun c hc => ?_, hs.threads⟩
    rcases List.mem_append.1 hc with hc | hc
    · exact hs.channels c hc
    · rwa [List.mem_singleton.1 hc, ← Bool.not_eq_true]

end Server

/-! ## Operations -/

namespace ChannelCall

@[simp] theorem profile_updateMessage (message : Record) (c : CachedChannel) :
    (c.updateMessage message).profile = c.profile := by
  rw [CachedChannel.updateMessage]
  split <;> rfl

theorem perform_of_change? {call : ChannelCall} {id : Int} {f : CachedChannel → CachedChannel}
    (h : call.change? = some (id, f)) (s : Server) : call.perform s = s.modifyChannel id f := by
  cases call with
  | addChannel _ | deleteChannel _ => cases h
  | addMessage message =>
    obtain ⟨_, hid, ⟨⟩⟩ := Option.map_eq_some_iff.1 h
    rw [perform, Server.addMessage, hid]
  | updateMessage message =>
    obtain ⟨_, hid, ⟨⟩⟩ := Option.map_eq_some_iff.1 h
    rw [perform, Server.updateMessage, hid]
  | _ =>
    cases h
    rfl

theorem tell_of_change? {call : ChannelCall} {id : Int} {f : CachedChannel → CachedChannel}
    (h : call.change? = some (id, f)) (k : Int) (cached : Option CachedChannel) :
    call.tell k cached = if k = id then cached.map f else cached := by
  cases call with
  | addChannel _ | deleteChannel _ => cases h
  | _ => simp only [tell, h]

theorem target?_of_change? {call : ChannelCall} {id : Int} {f : CachedChannel → CachedChannel}
    (h : call.change? = some (id, f)) : call.target? = some id := by
  cases call with
  | deleteChannel _ => cases h
  | _ => exact congrArg (Option.map Prod.fst) h

/-- An operation adds a channel, deletes one, changes one, or does nothing at all. -/
@[elab_as_elim]
theorem shape {motive : ChannelCall → Prop} (add : ∀ channel, motive (addChannel channel))
    (delete : ∀ id, motive (deleteChannel id))
    (change : ∀ call id f, call.change? = some (id, f) → motive call)
    (idle : ∀ call, call.change? = none → (∀ s, call.perform s = s) →
      (∀ k cached, call.tell k cached = cached) → motive call) (call : ChannelCall) :
    motive call := by
  cases hchange : call.change? with
  | some e => exact change call e.1 e.2 hchange
  | none =>
    cases call with
    | addChannel channel => exact add channel
    | deleteChannel id => exact delete id
    | addMessage message =>
      have hid : message.idNumber? "channel_id" = none := Option.map_eq_none_iff.1 hchange
      refine idle _ hchange (fun s => ?_) fun k cached => ?_
      · rw [perform, Server.addMessage, hid]
      · simp only [tell, hchange]
    | updateMessage message =>
      have hid : message.idNumber? "channel_id" = none := Option.map_eq_none_iff.1 hchange
      refine idle _ hchange (fun s => ?_) fun k cached => ?_
      · rw [perform, Server.updateMessage, hid]
      · simp only [tell, hchange]
    | _ => cases hchange

/-- Only a newer record changes the record of a channel. -/
theorem profile_of_change? {call : ChannelCall} {id : Int} {f : CachedChannel → CachedChannel}
    (h : call.change? = some (id, f)) (hupdate : ∀ channel, call ≠ updateChannel id channel)
    (c : CachedChannel) : (f c).profile = c.profile := by
  cases call with
  | addChannel _ | deleteChannel _ => cases h
  | updateChannel id channel =>
    cases h
    exact absurd rfl (hupdate channel)
  | addMessage message =>
    obtain ⟨_, -, ⟨⟩⟩ := Option.map_eq_some_iff.1 h
    rfl
  | updateMessage message =>
    obtain ⟨_, -, ⟨⟩⟩ := Option.map_eq_some_iff.1 h
    exact profile_updateMessage message c
  | _ =>
    cases h
    rfl

/-- A change that fits keeps the identifier of the channel and whether it is a thread. -/
theorem keeps_of_change? {s : Server} {call : ChannelCall} {id : Int}
    {f : CachedChannel → CachedChannel} (h : call.change? = some (id, f)) (hfits : call.Fits s) :
    (∀ c : CachedChannel, c.id? = some id → (f c).id? = some id) ∧
      ∀ c, s.channel? id = some c → (f c).isThread = c.isThread := by
  by_cases hupdate : ∃ channel, call = updateChannel id channel
  · obtain ⟨channel, rfl⟩ := hupdate
    cases h
    exact ⟨fun _ _ => hfits.1, hfits.2⟩
  · have hprofile := profile_of_change? h (not_exists.1 hupdate)
    simp only [CachedChannel.id?, CachedChannel.isThread, hprofile]
    exact ⟨fun _ hid => hid, fun _ _ => trivial⟩

/-- What an operation is for the messages of the channel that it changes. -/
theorem messages_of_change? {call : ChannelCall} {id : Int} {f : CachedChannel → CachedChannel}
    (h : call.change? = some (id, f)) (c : CachedChannel) :
    (f c).messages = cacheAfter id [call] c.messages := by
  cases call with
  | addChannel _ | deleteChannel _ => cases h
  | addMessage message =>
    obtain ⟨_, hid, ⟨⟩⟩ := Option.map_eq_some_iff.1 h
    simp [cacheAfter, cacheCall?, hid, CacheCall.perform, CachedChannel.addMessage]
  | updateMessage message =>
    obtain ⟨_, hid, ⟨⟩⟩ := Option.map_eq_some_iff.1 h
    simp only [cacheAfter, List.filterMap_cons, cacheCall?, hid, if_true, List.filterMap_nil,
      List.foldl_cons, List.foldl_nil, CacheCall.perform, CachedChannel.updateMessage]
    cases CachedChannel.messageId? message <;> rfl
  | deleteMessage channel id =>
    cases h
    simp [cacheAfter, cacheCall?, CacheCall.perform, CachedChannel.deleteMessage]
  | _ =>
    cases h
    rfl

/-- An operation that does not change a channel is none on its messages. -/
theorem cacheAfter_of_not_changed {call : ChannelCall} {k : Int}
    (h : ∀ f, call.change? ≠ some (k, f)) (messages : List Record) :
    cacheAfter k [call] messages = messages := by
  have hnone : call.cacheCall? k = none := by
    cases call with
    | addMessage message | updateMessage message =>
      refine if_neg fun hid => ?_
      exact h _ (by rw [change?, hid]; rfl)
    | deleteMessage channel id =>
      refine if_neg fun hid => ?_
      exact h _ (by rw [change?, hid])
    | _ => rfl
  rw [cacheAfter, List.filterMap_cons, hnone]
  rfl

theorem cacheAfter_cons (k : Int) (call : ChannelCall) (rest : List ChannelCall)
    (messages : List Record) :
    cacheAfter k (call :: rest) messages = cacheAfter k rest (cacheAfter k [call] messages) := by
  rw [cacheAfter, cacheAfter, cacheAfter, ← List.foldl_append, ← List.filterMap_append]
  rfl

theorem touches_of_gives {call : ChannelCall} {k : Int} {r : Record}
    {cached : Option CachedChannel} (h : call.Gives k r cached) : call.Touches k := by
  cases call with
  | addChannel _ => exact h.2
  | updateChannel _ _ => exact h.2.1
  | _ => exact False.elim h

/-- An operation that is not about the record of a channel leaves it as it is. -/
theorem profile_tell_of_not_touches {call : ChannelCall} {k : Int} (h : ¬call.Touches k)
    (cached : Option CachedChannel) :
    (call.tell k cached).map CachedChannel.profile = cached.map CachedChannel.profile := by
  induction call using shape with
  | add channel =>
    have hid : ¬channel.idNumber? "id" = some k := h
    rw [tell, if_neg hid]
  | delete id =>
    have hid : ¬k = id := Ne.symm h
    rw [tell, if_neg hid]
  | change call id f hchange =>
    rw [tell_of_change? hchange]
    split
    · next hk =>
      have hprofile := profile_of_change? hchange (by rintro channel rfl; exact h hk.symm)
      rw [Option.map_map]
      exact Option.map_congr fun c _ => hprofile c
    · rfl
  | idle call _ _ htell => rw [htell]

/-- The record of a channel after an operation: the one that the operation gives, or the one before
if the operation is not about it. -/
theorem profile_tell_eq_some_iff {call : ChannelCall} {k : Int} {cached : Option CachedChannel}
    {r : Record} : (call.tell k cached).map CachedChannel.profile = some r ↔
      call.Gives k r cached ∨ (cached.map CachedChannel.profile = some r ∧ ¬call.Touches k) := by
  by_cases htouches : call.Touches k
  · simp only [htouches, not_true_eq_false, and_false, or_false]
    cases call with
    | addChannel channel =>
      have hid : channel.idNumber? "id" = some k := htouches
      simp [tell, Gives, hid, CachedChannel.ofRecord]
    | updateChannel id channel =>
      obtain rfl : id = k := htouches
      cases cached <;> simp [tell, change?, Gives, CachedChannel.inherit]
    | deleteChannel id =>
      obtain rfl : id = k := htouches
      simp [tell, Gives]
    | _ => exact False.elim htouches
  · rw [profile_tell_of_not_touches htouches]
    simp [htouches, mt touches_of_gives htouches]

/-- A channel that is there after an operation that does not add it was there before. -/
theorem of_isSome_tell {call : ChannelCall} {k : Int} {cached : Option CachedChannel}
    (hadd : ∀ channel, call = addChannel channel → channel.idNumber? "id" ≠ some k)
    (h : (call.tell k cached).isSome = true) : call ≠ deleteChannel k ∧ cached.isSome = true := by
  have hdelete : call ≠ deleteChannel k := by
    rintro rfl
    rw [tell, if_pos rfl] at h
    cases h
  refine ⟨hdelete, ?_⟩
  induction call using shape with
  | add channel => rwa [tell, if_neg (hadd channel rfl)] at h
  | delete id =>
    have hid : ¬k = id := fun hk => hdelete (by rw [hk])
    rwa [tell, if_neg hid] at h
  | change call id f hchange =>
    rw [tell_of_change? hchange] at h
    split at h
    · rwa [Option.isSome_map] at h
    · exact h
  | idle call _ _ htell => rwa [htell] at h

/-- What becomes of the messages of a channel that is neither added nor deleted. -/
theorem messages_tell {call : ChannelCall} {k : Int}
    (hadd : ∀ channel, call = addChannel channel → channel.idNumber? "id" ≠ some k)
    (hdelete : call ≠ deleteChannel k) (c : CachedChannel) :
    ∃ c', call.tell k (some c) = some c' ∧ c'.messages = cacheAfter k [call] c.messages := by
  induction call using shape with
  | add channel => exact ⟨c, if_neg (hadd channel rfl), rfl⟩
  | delete id =>
    refine ⟨c, if_neg ?_, rfl⟩
    rintro rfl
    exact hdelete rfl
  | change call id f hchange =>
    rw [tell_of_change? hchange]
    split
    · next hk =>
      rw [hk]
      exact ⟨f c, rfl, messages_of_change? hchange c⟩
    · next hk =>
      refine ⟨c, rfl, (cacheAfter_of_not_changed (fun g hg => hk ?_) _).symm⟩
      exact (congrArg Prod.fst (Option.some.inj (hchange.symm.trans hg))).symm
  | idle call hchange _ htell =>
    exact ⟨c, htell k _, (cacheAfter_of_not_changed (by simp [hchange]) _).symm⟩

end ChannelCall

namespace Server

variable {s : Server} {call : ChannelCall} {calls : List ChannelCall} {k : Int}

/-- Operations that fit keep a server orderly. -/
theorem Orderly.perform (hs : s.Orderly) (h : call.Fits s) : (call.perform s).Orderly := by
  induction call using ChannelCall.shape with
  | add channel =>
    obtain ⟨id, hid, hnew⟩ := h
    exact hs.addChannel hid hnew
  | delete id => exact hs.deleteChannel id
  | change call id f hchange =>
    obtain ⟨hid, hthread⟩ := ChannelCall.keeps_of_change? hchange h
    rw [ChannelCall.perform_of_change? hchange]
    exact hs.modifyChannel hid hthread
  | idle call _ hperform _ => rwa [hperform]

/-- An operation that fits does to a channel what it tells it. -/
theorem Orderly.channel?_perform (hs : s.Orderly) (h : call.Fits s) (k : Int) :
    (call.perform s).channel? k = call.tell k (s.channel? k) := by
  induction call using ChannelCall.shape with
  | add channel =>
    obtain ⟨id, hid, hnew⟩ := h
    exact hs.channel?_addChannel hid hnew k
  | delete id => exact hs.channel?_deleteChannel id k
  | change call id f hchange =>
    obtain ⟨hid, -⟩ := ChannelCall.keeps_of_change? hchange h
    rw [ChannelCall.perform_of_change? hchange, channel?_modifyChannel hid,
      ChannelCall.tell_of_change? hchange]
    split
    · next hk => rw [hk]
    · rfl
  | idle call _ hperform htell => rw [hperform, htell]

/-! ## Runs -/

theorem run_append (before after : List ChannelCall) (s : Server) :
    s.run (before ++ after) = (s.run before).run after :=
  List.foldl_append

theorem fitsAll_append_iff {before after : List ChannelCall} :
    FitsAll s (before ++ after) ↔ FitsAll s before ∧ FitsAll (s.run before) after := by
  induction before generalizing s with
  | nil => simp [FitsAll, run]
  | cons first rest ih =>
    rw [List.cons_append, FitsAll, FitsAll, ih, and_assoc]
    rfl

theorem Orderly.run (hs : s.Orderly) (hcalls : FitsAll s calls) : (s.run calls).Orderly := by
  induction calls generalizing s with
  | nil => exact hs
  | cons call rest ih => exact ih (hs.perform hcalls.1) hcalls.2

/-- The record given last, after one more operation. -/
theorem lastRecord_append_singleton_iff {r : Record} :
    LastRecord s (calls ++ [call]) k r ↔ call.Gives k r ((s.run calls).channel? k) ∨
      (LastRecord s calls k r ∧ ¬call.Touches k) := by
  have hlast := exists_last_append_singleton_iff (l := calls) (e := call)
    (P := fun before call => call.Gives k r ((s.run before).channel? k))
    (Q := fun call => ¬call.Touches k)
  have hnone : (∀ c ∈ calls ++ [call], ¬c.Touches k) ↔
      (∀ c ∈ calls, ¬c.Touches k) ∧ ¬call.Touches k := by
    simp [or_imp, forall_and]
  rw [LastRecord, LastRecord, hlast, hnone, or_and_right, and_assoc]
  exact or_left_comm

/-- The record of a channel is the one that it was given last. -/
theorem Orderly.profile_run_iff (hs : s.Orderly) (hcalls : FitsAll s calls) (k : Int) (r : Record) :
    ((s.run calls).channel? k).map CachedChannel.profile = some r ↔ LastRecord s calls k r := by
  induction calls using List.reverseRecOn with
  | nil => simp [Server.run, LastRecord]
  | append_singleton calls call ih =>
    obtain ⟨hbefore, hcall⟩ := fitsAll_append_iff.1 hcalls
    rw [lastRecord_append_singleton_iff, ← ih hbefore, run_append]
    change ((call.perform (s.run calls)).channel? k).map CachedChannel.profile = some r ↔ _
    rw [(hs.run hbefore).channel?_perform hcall.1, ChannelCall.profile_tell_eq_some_iff]

/-- A channel that is not deleted keeps its messages but for what operations on them do. -/
theorem Orderly.messages_run (hs : s.Orderly) (hcalls : FitsAll s calls) {c : CachedChannel}
    (hc : s.channel? k = some c) (hdelete : .deleteChannel k ∉ calls) :
    ∃ c', (s.run calls).channel? k = some c' ∧
      c'.messages = ChannelCall.cacheAfter k calls c.messages := by
  induction calls generalizing s c with
  | nil => exact ⟨c, hc, rfl⟩
  | cons call rest ih =>
    obtain ⟨hcall, hrest⟩ := hcalls
    rw [List.mem_cons, not_or] at hdelete
    have hadd : ∀ channel, call = .addChannel channel → channel.idNumber? "id" ≠ some k := by
      rintro channel rfl hid
      -- a channel that is there is not added again
      obtain ⟨id, hid', hnew⟩ := hcall
      obtain rfl : id = k := Option.some.inj (hid'.symm.trans hid)
      cases hnew.symm.trans hc
    obtain ⟨c₁, hc₁, hmessages⟩ := ChannelCall.messages_tell hadd (Ne.symm hdelete.1) c
    rw [← hc, ← hs.channel?_perform hcall] at hc₁
    obtain ⟨c', hc', hmessages'⟩ := ih (hs.perform hcall) hrest hc₁ hdelete.2
    exact ⟨c', hc', by rw [hmessages', hmessages, ← ChannelCall.cacheAfter_cons]⟩

/-- The messages of a channel are those that it had when it was added, but for what operations on
them did since. -/
theorem Orderly.messages_since (hs : s.Orderly) (hcalls : FitsAll s calls) {since : List ChannelCall}
    {start : List Record} (h : Since s calls k since start) :
    ∃ c, (s.run calls).channel? k = some c ∧
      c.messages = ChannelCall.cacheAfter k since start := by
  obtain ⟨hdelete, ⟨rfl, c, hc, rfl⟩ | ⟨rfl, before, channel, rfl, hid⟩⟩ := h
  · exact hs.messages_run hcalls hc hdelete
  · obtain ⟨hbefore, hcall, hrest⟩ := fitsAll_append_iff.1 hcalls
    have hs' := hs.run hbefore
    have hadded := hs'.channel?_perform hcall k
    rw [ChannelCall.tell, if_pos hid] at hadded
    rw [run_append]
    exact (hs'.perform hcall).messages_run hrest hadded hdelete

/-- A channel that is there was added, or was there from the start, and was not deleted since. -/
theorem Orderly.exists_since (hs : s.Orderly) (hcalls : FitsAll s calls)
    (h : ((s.run calls).channel? k).isSome = true) : ∃ since start, Since s calls k since start := by
  induction calls using List.reverseRecOn with
  | nil =>
    obtain ⟨c, hc⟩ := Option.isSome_iff_exists.1 h
    exact ⟨[], c.messages, List.not_mem_nil, .inl ⟨rfl, c, hc, rfl⟩⟩
  | append_singleton calls call ih =>
    obtain ⟨hbefore, hcall, -⟩ := fitsAll_append_iff.1 hcalls
    rw [run_append] at h
    change ((call.perform (s.run calls)).channel? k).isSome = true at h
    rw [(hs.run hbefore).channel?_perform hcall] at h
    by_cases hadd : ∃ channel, call = .addChannel channel ∧ channel.idNumber? "id" = some k
    · obtain ⟨channel, rfl, hid⟩ := hadd
      exact ⟨[], [], List.not_mem_nil, .inr ⟨rfl, calls, channel, rfl, hid⟩⟩
    · obtain ⟨hdelete, hpresent⟩ := ChannelCall.of_isSome_tell (by simpa using hadd) h
      obtain ⟨since, start, hkept, hsince⟩ := ih hbefore hpresent
      refine ⟨since ++ [call], start, by simp [hkept, Ne.symm hdelete], ?_⟩
      refine hsince.imp (fun ⟨heq, hstart⟩ => ⟨by rw [heq], hstart⟩) ?_
      rintro ⟨hstart, before, channel, rfl, hid⟩
      exact ⟨hstart, before, channel, by simp, hid⟩

/-! ## The channels of a server -/

/-- An operation that asks for a channel that is not there changes nothing. -/
theorem perform_of_unknown (h : call.target? = some k) (hnone : s.channel? k = none) :
    call.perform s = s := by
  induction call using ChannelCall.shape with
  | add channel => cases h
  | delete id =>
    obtain rfl : id = k := Option.some.inj h
    rw [ChannelCall.perform, deleteChannel_of_none hnone]
  | change call id f hchange =>
    obtain rfl : id = k := Option.some.inj ((ChannelCall.target?_of_change? hchange).symm.trans h)
    rw [ChannelCall.perform_of_change? hchange, modifyChannel_of_none hnone]
  | idle call _ hperform _ => exact hperform s

/-- What holds of the channels of a server, whatever operations that fit are performed. It stays
orderly. A channel that is looked up has the record that it was given last, if it was not deleted
since. Its messages are those that operations addressed to it left, in the order of their arrival,
since it was added; of a channel that is not there, there are none. A newer record changes neither
the messages nor the users who are typing, in any channel. A deleted channel has its indicator
closed and is not found any more. Operations on a channel that is not there change nothing. -/
theorem channels_of_run (hs : s.Orderly) (hcalls : FitsAll s calls) :
    let s' := s.run calls
    s'.Orderly ∧
    (∀ k r, (s'.channel? k).map CachedChannel.profile = some r ↔ LastRecord s calls k r) ∧
    (∀ k, (s'.channel? k).isSome = true ↔ ∃ since start, Since s calls k since start) ∧
    (∀ k since start m, Since s calls k since start → s'.message? k m =
      Keyed.find? CachedChannel.messageId? m (ChannelCall.cacheAfter k since start)) ∧
    (∀ k m, s'.channel? k = none → s'.message? k m = none) ∧
    (∀ id channel k, (ChannelCall.updateChannel id channel).Fits s' →
      ((s'.updateChannel id channel).channel? k).map (fun c => (c.messages, c.typing)) =
        (s'.channel? k).map fun c => (c.messages, c.typing)) ∧
    (∀ id c, s'.channel? id = some c → (s'.deleteChannel id).1 = some c.closeTyping ∧
      c.closeTyping.typing.closed = true ∧ (s'.deleteChannel id).2.channel? id = none) ∧
    ∀ (call : ChannelCall) k, call.target? = some k → s'.channel? k = none → call.perform s' = s' := by
  intro s'
  have hs' : s'.Orderly := hs.run hcalls
  refine ⟨hs', hs.profile_run_iff hcalls, fun k => ⟨hs.exists_since hcalls, ?_⟩, ?_, ?_, ?_, ?_, ?_⟩
  · rintro ⟨since, start, hsince⟩
    obtain ⟨c, hc, -⟩ := hs.messages_since hcalls hsince
    exact Option.isSome_iff_exists.2 ⟨c, hc⟩
  · intro k since start m hsince
    obtain ⟨c, hc, hmessages⟩ := hs.messages_since hcalls hsince
    rw [message?, hc, Option.bind_some, CachedChannel.message?, hmessages]
  · intro k m hnone
    rw [message?, hnone, Option.bind_none]
  · intro id channel k hfits
    have hperform := hs'.channel?_perform hfits k
    rw [ChannelCall.perform, ChannelCall.tell_of_change? rfl] at hperform
    rw [hperform]
    split
    · rw [Option.map_map]
      rfl
    · rfl
  · intro id c hc
    refine ⟨by rw [deleteChannel_of_some hc], ?_, ?_⟩
    · rw [CachedChannel.closeTyping, TypingIndicator.close]
      split
      · assumption
      · rfl
    · rw [hs'.channel?_deleteChannel, if_pos rfl]
  · exact fun call k htarget hnone => perform_of_unknown htarget hnone

/-- A channel gets a newer record while a message is in it; another is deleted and added again, and
its first message is forgotten. -/
theorem channels_of_run_of_return :
    let channel (id : Fin 100) (name : String) : Record :=
      ⟨.channel, [("id", .id ⟨id, by omega⟩), ("type", .code (.number 0)), ("name", .text name)]⟩
    let message (id channel : Fin 100) : Record :=
      ⟨.message, [("id", .id ⟨id, by omega⟩), ("channel_id", .id ⟨channel, by omega⟩)]⟩
    let s : Server := ⟨⟨.server, []⟩, [], [], [], [], [.ofRecord (channel 1 "a")], []⟩
    let calls : List ChannelCall := [.addMessage (message 10 1), .addChannel (channel 2 "b"),
      .addMessage (message 20 2), .startTyping (.ofInt 0) 1 7, .updateChannel 1 (channel 1 "c"),
      .deleteChannel 2, .addChannel (channel 2 "d"), .updateMessage (message 21 2)]
    ((s.run calls).channel? 1).map CachedChannel.profile = some (channel 1 "c") ∧
      (s.run calls).message? 1 10 = some (message 10 1) ∧ (s.run calls).message? 2 20 = none ∧
      (s.run calls).message? 2 21 = some (message 21 2) := by
  intro channel message s calls
  have hs : s.Orderly := by
    refine ⟨List.nodup_singleton (1 : Int), fun c hc => ?_, fun c hc => by cases hc⟩
    rw [List.mem_singleton.1 hc]
    rfl
  have hcalls : FitsAll s calls := by
    refine ⟨trivial, ⟨2, rfl, ?_⟩, trivial, trivial, ⟨rfl, fun old hold => ?_⟩, trivial,
      ⟨2, rfl, ?_⟩, trivial, trivial⟩
    · decide
    · obtain rfl := Option.some.inj hold
      rfl
    · decide
  obtain ⟨-, hrecord, -, hmessages, -⟩ := channels_of_run hs hcalls
  have hsince : Since s calls 1 calls [] := ⟨by simp [calls], .inl ⟨rfl, _, rfl, rfl⟩⟩
  have hreturned : Since s calls 2 [.updateMessage (message 21 2)] [] :=
    ⟨by simp, .inr ⟨rfl, calls.take 6, channel 2 "d", rfl, rfl⟩⟩
  refine ⟨(hrecord 1 _).2 (.inr ⟨calls.take 4, .updateChannel 1 (channel 1 "c"), calls.drop 5, rfl,
    ⟨rfl, rfl, rfl⟩, ?_⟩), ?_, ?_, ?_⟩
  · have hother : (2 : Int) ≠ 1 := by decide
    simp only [calls, List.drop, List.forall_mem_cons]
    exact ⟨hother, fun h => hother (Option.some.inj h), id, by simp⟩
  · rw [hmessages 1 _ _ _ hsince]
    rfl
  · rw [hmessages 2 _ _ _ hreturned]
    rfl
  · rw [hmessages 2 _ _ _ hreturned]
    rfl

end Server
end ChatRecords
