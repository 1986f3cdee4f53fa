import ChatRecords.Emoji
import ChatRecords.Fault
import ChatRecords.Keyed
import ChatRecords.Record.Construction

/-!
# Reactions

How often users reacted to a message with one emoji, and the list of these counts. A reaction is
addressed by the identity of its emoji; one whose emoji has none stays in the list but cannot
be addressed.

## Main definitions

* `Reaction`: the counts of one emoji, with `Reaction.ofRecord` and `Reaction.toRecord`.
* `Reactions.find`, `Reactions.upsert`, `Reactions.erase`: the list by emoji.
* `Reactions.recordAdd`, `Reactions.recordRemove`: the list after one more or one less reaction.

## Design notes

An operation refuses an emoji without identity and then leaves the list as it was, so it returns
a new list or a fault.
-/

namespace ChatRecords

/-- The reactions to a message with one emoji. -/
structure Reaction where
  emoji : Record
  count : Int
  burst : Int
  normal : Int
  /-- The current user is among the normal ones. -/
  me : Bool
  /-- The current user is among the burst ones. -/
  meBurst : Bool
  burstColors : List String

namespace Reaction

def ofRecord (r : Record) : Reaction :=
  let details := (r.get "count_details").record?.getD ⟨.reactionCountDetails, []⟩
  { emoji := (r.get "emoji").record?.getD ⟨.emoji, []⟩
    count := (r.get "count").integer?.getD 0
    burst := (details.get "burst").integer?.getD 0
    normal := (details.get "normal").integer?.getD 0
    me := (r.get "me").isTrue
    meBurst := (r.get "me_burst").isTrue
    burstColors := (r.get "burst_colors").items.filterMap Value.text? }

def toRecord (r : Reaction) : Record :=
  let details := Record.make .reactionCountDetails
    [("burst", .integer r.burst), ("normal", .integer r.normal)]
  Record.make .reaction
    [("count", .integer r.count), ("count_details", details.toValue), ("me", .truth r.me),
     ("me_burst", .truth r.meBurst), ("emoji", r.emoji.toValue),
     ("burst_colors", .list (r.burstColors.map Value.text))]

/-- The identity of the emoji, if it has one. -/
def identity? (r : Reaction) : Option EmojiIdentity := Emoji.identity? r.emoji

def start (emoji : Record) (burstColors : List String) : Reaction :=
  ⟨emoji, 0, 0, 0, false, false, burstColors⟩

def more (burst me : Bool) (r : Reaction) : Reaction :=
  if burst then
    { r with count := r.count + 1, burst := r.burst + 1, meBurst := r.meBurst || me }
  else { r with count := r.count + 1, normal := r.normal + 1, me := r.me || me }

/-- One reaction less; no count falls below zero. -/
def less (burst me : Bool) (r : Reaction) : Reaction :=
  if burst then
    { r with count := max (r.count - 1) 0, burst := max (r.burst - 1) 0,
             meBurst := r.meBurst && !me }
  else
    { r with count := max (r.count - 1) 0, normal := max (r.normal - 1) 0, me := r.me && !me }

end Reaction

namespace Reactions

/-- The identity of an emoji that is to be addressed. -/
def address (emoji : Record) : Except Fault EmojiIdentity :=
  match Emoji.identity? emoji with
  | some k => .ok k
  | none => .error .invalidEmoji

def get? (k : EmojiIdentity) (rs : List Reaction) : Option Reaction :=
  Keyed.find? Reaction.identity? k rs

def find (emoji : Record) (rs : List Reaction) : Except Fault (Option Reaction) :=
  (address emoji).map fun k => get? k rs

/-- The list with a reaction: in the place of the one with its emoji, or at the end. -/
def upsert (r : Reaction) (rs : List Reaction) : Except Fault (List Reaction) :=
  (address r.emoji).map fun k => Keyed.upsert Reaction.identity? k r rs

/-- The list without the reaction with an emoji. -/
def erase (emoji : Record) (rs : List Reaction) : Except Fault (List Reaction) :=
  (address emoji).map fun k => Keyed.erase Reaction.identity? k rs

/-- The reaction with an emoji after one more, and the list with it. A reaction that is new takes
the colours of the burst. -/
def recordAdd (emoji : Record) (burst me : Bool) (burstColors : List String)
    (rs : List Reaction) : Except Fault (Reaction × List Reaction) :=
  (address emoji).map fun k =>
    match get? k rs with
    | some r =>
      let r := r.more burst me
      (r, Keyed.replace Reaction.identity? k r rs)
    | none =>
      let r := (Reaction.start emoji burstColors).more burst me
      (r, rs ++ [r])

/-- The reaction with an emoji after one less, and the list with it. A reaction whose count
reaches zero leaves the list. -/
def recordRemove (emoji : Record) (burst me : Bool) (rs : List Reaction) :
    Except Fault (Option Reaction × List Reaction) :=
  (address emoji).map fun k =>
    match get? k rs with
    | none => (none, rs)
    | some r =>
      let r := r.less burst me
      if r.count = 0 then (none, Keyed.erase Reaction.identity? k rs)
      else (some r, Keyed.replace Reaction.identity? k r rs)

/-- The list with the count of the reaction with an emoji set, if there is one. -/
def setCount (emoji : Record) (count : Int) (rs : List Reaction) :
    Except Fault (Option (List Reaction)) :=
  (address emoji).map fun k =>
    (get? k rs).map fun r => Keyed.replace Reaction.identity? k { r with count := count } rs

end Reactions

namespace Message

def reactions (message : Record) : List Reaction :=
  (message.get "reactions").records.map Reaction.ofRecord

def withReactions (message : Record) (rs : List Reaction) : Record :=
  message.set "reactions" (.list (rs.map fun r => r.toRecord.toValue))

end Message
end ChatRecords
