import ChatRecords.Fault
import ChatRecords.Flags.Catalog
import ChatRecords.Record.Construction

/-!
# Answers to interactions

An answer has a type and data. A setting gives a value to one field of the answer or of its data,
which is made when the first field of it is set; some settings are refused and then leave the answer
as it was.

## Main definitions

* `Response`: an answer, with `Response.ofRecord` and `Response.toRecord`.
* `ResponseSetting`: what can be set, with `ResponseSetting.refusal?`.
* `Response.apply`: the answer after a setting, or why it is refused.
-/

namespace ChatRecords

/-- An answer to an interaction. -/
structure Response where
  type : Code
  data : Option Record

/-- What can be set in an answer. -/
inductive ResponseSetting where
  | type (code : Code)
  | tts (value : Option Bool)
  | content (text : Option String)
  | embeds (embeds : List Record)
  | allowedMentions (mentions : Option Record)
  | flags (flags : FlagSet)
  | components (components : List Record)
  | attachments (attachments : List Record)
  | poll (poll : Option Record)

namespace Response

/-- The type of an answer that only says that it was heard. -/
def pong : Code := .number 1

def noData : Record := Record.make .interactionResponseData []

def start : Response := ⟨pong, some noData⟩

def ofRecord (r : Record) : Response :=
  ⟨((r.get "type").code?).getD pong, (r.get "data").record?⟩

def toRecord (r : Response) : Record :=
  Record.make .interactionResponse
    [("type", .code r.type), ("data", (r.data.map Record.toValue).getD .null)]

def maxEmbeds : Nat := 10

def takenFlags : List String := ["EPHEMERAL", "SUPPRESS_EMBEDS", "SUPPRESS_NOTIFICATIONS"]

/-- The flags that an answer takes, as masks. Flags are compared as numbers. -/
def takenMasks : List Nat := takenFlags.filterMap FlagClass.messageFlag.bit?

/-- The members of a set that an answer does not take; one without a name is shown by its
value. -/
def flagsRefused (s : FlagSet) : List String :=
  s.toList.filterMap fun m =>
    if m.2 ∈ takenMasks then none else some (m.1.getD (toString m.2))

/-- Why an answer does not take some embeds, if it does not. -/
def embedsRefusal? (embeds : List Record) : Option ResponseFault :=
  if maxEmbeds < embeds.length then some (.tooManyEmbeds maxEmbeds embeds.length) else none

/-- Why an answer does not take a flag set, if it does not. -/
def flagsRefusal? (flags : FlagSet) : Option ResponseFault :=
  let refused := flagsRefused flags
  if refused.isEmpty && flags.unknown == 0 then none else some (.flagsNotTaken refused)

def valueOf {α : Type} (make : α → Value) (a : Option α) : Value := (a.map make).getD .null

/-- The answer with a field of its data set. -/
def setData (name : String) (v : Value) (r : Response) : Response :=
  { r with data := some ((r.data.getD noData).set name v) }

end Response

namespace ResponseSetting

open Response (valueOf)

/-- Why a setting is refused, if it is. -/
def refusal? : ResponseSetting → Option ResponseFault
  | .embeds records => Response.embedsRefusal? records
  | .flags s => Response.flagsRefusal? s
  | _ => none

/-- The field of the data that is set, with its value; nothing for the type, which is no data. -/
def written? : ResponseSetting → Option (String × Value)
  | .type _ => none
  | .tts value => some ("tts", valueOf Value.truth value)
  | .content text => some ("content", valueOf Value.text text)
  | .embeds records => some ("embeds", .list (records.map Record.toValue))
  | .allowedMentions record => some ("allowed_mentions", valueOf Record.toValue record)
  | .flags s => some ("flags", .flags s)
  | .components records => some ("components", .list (records.map Record.toValue))
  | .attachments records => some ("attachments", .list (records.map Record.toValue))
  | .poll record => some ("poll", valueOf Record.toValue record)

end ResponseSetting

namespace Response

/-- The answer with something set, whether it takes that or not. -/
def put (r : Response) : ResponseSetting → Response
  | .type code => { r with type := code }
  | s => (s.written?.map fun e => r.setData e.1 e.2).getD r

/-- The answer after a setting, or why it is refused. -/
def apply (r : Response) (s : ResponseSetting) : Except ResponseFault Response :=
  match s.refusal? with
  | some fault => .error fault
  | none => .ok (r.put s)

end Response
end ChatRecords
