import ChatRecords.Record.Construction

/-!
# Messages

## Main definitions

* `Message.deletable`, `Message.isReply`: facts about a message.
* `Embed.addField`, `Component.actionRow`, `Poll.answerCount`: the parts of a message.
-/

namespace ChatRecords
namespace Message

def deletable (message : Record) : Bool :=
  match (message.get "type").messageType? with
  | some t => t.deletable
  | none => false

def isReply (message : Record) : Bool :=
  decide ((message.get "type").messageType? = some .reply) &&
    !(message.get "message_reference").isNull

end Message

namespace Embed

def addField (embed : Record) (name value : String) (inline : Option Bool) : Record :=
  let field := Record.make .embedField
    [("name", .text name), ("value", .text value),
     ("inline", (inline.map Value.truth).getD .null)]
  embed.set "fields" (.list ((embed.get "fields").items ++ [field.toValue]))

end Embed

namespace Component

def actionRow (components : List Record) : Record :=
  Record.make .messageComponent
    [("type", .code (.number 1)), ("components", .list (components.map Record.toValue))]

end Component

namespace Poll

/-- How often an answer was given, as far as the results tell: the first count with its number. -/
def answerCount (poll : Record) (answer : Int) : Int :=
  match (poll.get "results").record? with
  | none => 0
  | some results =>
    match (results.get "answer_counts").records.find? fun counted =>
        (counted.get "id").integer? = some answer with
    | some counted => ((counted.get "count").integer?).getD 0
    | none => 0

end Poll
end ChatRecords
