import ChatRecords.Double.Arithmetic
import ChatRecords.Guild.Basic
import ChatRecords.Typing.Indicator

/-!
# Channels with what is known about them

A channel together with what its record does not carry: the messages seen in it and the users who
are typing in it.

## Main definitions

* `CachedChannel`: the record, the messages in the order of their arrival and the typing indicator.
* `CachedChannel.message?`, `addMessage`, `updateMessage`, `deleteMessage`: the messages by
  identifier.
* `CachedChannel.inherit`: a newer record with the messages and the indicator of an older one.
* `CachedChannel.startTyping`, `stopTyping`, `closeTyping`: the indicator.
-/

namespace ChatRecords

/-- A channel with its messages and the users who are typing in it. -/
structure CachedChannel where
  profile : Record
  /-- The messages, in the order of their arrival. -/
  messages : List Record
  typing : TypingIndicator Int Double

namespace CachedChannel

/-- How many seconds a user stays in the indicator of a channel. -/
def typingSeconds : Double := .ofInt 15

/-- A channel of which only the record is known. -/
def ofRecord (channel : Record) : CachedChannel := ⟨channel, [], .empty "" typingSeconds⟩

def id? (c : CachedChannel) : Option Int := c.profile.idNumber? "id"

def isThread (c : CachedChannel) : Bool := Channel.isThread c.profile

def messageId? (message : Record) : Option Int := message.idNumber? "id"

def message? (id : Int) (c : CachedChannel) : Option Record := Keyed.find? messageId? id c.messages

def addMessage (message : Record) (c : CachedChannel) : CachedChannel :=
  { c with messages := c.messages ++ [message] }

/-- The channel with a message in the place of the one with its identifier. A message that was
not seen yet arrives. -/
def updateMessage (message : Record) (c : CachedChannel) : CachedChannel :=
  match messageId? message with
  | some id => { c with messages := Keyed.upsert messageId? id message c.messages }
  | none => c.addMessage message

/-- The first message with an identifier, and the channel without it. -/
def deleteMessage (id : Int) (c : CachedChannel) : Option Record × CachedChannel :=
  (c.message? id, { c with messages := Keyed.erase messageId? id c.messages })

/-- The channel with a newer record. Its messages and its indicator stay, as the record carries
neither. -/
def inherit (channel : Record) (old : CachedChannel) : CachedChannel :=
  { old with profile := channel }

/-- The channel after a user started to type. -/
def startTyping (now : Double) (user : Int) (c : CachedChannel) : CachedChannel :=
  { c with typing := c.typing.add now user }

def stopTyping (user : Int) (c : CachedChannel) : CachedChannel :=
  { c with typing := c.typing.remove user }

def closeTyping (c : CachedChannel) : CachedChannel := { c with typing := c.typing.close }

end CachedChannel
end ChatRecords
