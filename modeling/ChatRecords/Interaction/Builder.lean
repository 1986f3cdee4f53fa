import ChatRecords.Interaction.Response

/-!
# Building answers to interactions

The setters of an answer are given lists and flag sets that their caller may change later, so the
answer keeps copies of its own. A setter looks at what it is given before it changes anything, and
raises if the answer does not take it.

## Main definitions

* `Objects`: the objects of one type that the caller has made and those that the answer has.
* `Builder`: an answer and the objects around it, with `Builder.response`.
* `ResponseCall`: the calls of the setters, with `ResponseCall.setter`.
* `Builder.step`, `Builder.run`: calls, with changes by the caller in between.

## Design notes

An object is known by its place; where there is none, a list or a flag set without members is read.
Records are values here: setters pass them on and do not look into them.
-/

namespace ChatRecords

instance : Inhabited FlagSet := ⟨.empty .messageFlag⟩

/-- The place of an object: one that the caller has made, or one of the answer. -/
inductive Place where
  | passed (i : Nat)
  | own (i : Nat)
deriving DecidableEq

/-- The objects of one type, in the order in which they were made. -/
structure Objects (α : Type) where
  passed : List α
  own : List α

namespace Objects

variable {α : Type}

def none : Objects α := ⟨[], []⟩

/-- What the object at a place holds now. -/
def get [Inhabited α] (objects : Objects α) : Place → α
  | .passed i => objects.passed.getD i default
  | .own i => objects.own.getD i default

/-- The objects with a new one of the caller. -/
def make (a : α) (objects : Objects α) : Objects α :=
  { objects with passed := objects.passed ++ [a] }

/-- The objects after the caller has changed one of its own. -/
def change (i : Nat) (a : α) (objects : Objects α) : Objects α :=
  { objects with passed := objects.passed.set i a }

/-- The objects with a new one of the answer. -/
def keep (a : α) (objects : Objects α) : Objects α := { objects with own := objects.own ++ [a] }

end Objects

/-- What a field of the data of an answer holds. -/
inductive Held where
  | value (v : Value)
  /-- A list of records. -/
  | records (place : Place)
  | flags (place : Place)

/-- An answer with the lists and flag sets that it and its caller have. -/
structure Builder where
  lists : Objects (List Record)
  flagSets : Objects FlagSet
  type : Code
  data : Option (List (String × Held))

/-- What a setter does: it changes the answer or raises, and what it changed before it raises stays
changed. -/
abbrev Setter := EStateM ResponseFault Builder Unit

namespace Builder

def hold (fields : List (String × Value)) : List (String × Held) :=
  fields.map fun f => (f.1, .value f.2)

/-- An answer before any setter is called. -/
def ofResponse (r : Response) : Builder :=
  ⟨.none, .none, r.type, r.data.map fun data => hold data.fields⟩

/-- What a field holds, as the object at its place is now. -/
def read (b : Builder) : Held → Value
  | .value v => v
  | .records place => .list ((b.lists.get place).map Record.toValue)
  | .flags place => .flags (b.flagSets.get place)

/-- The answer as it is now. -/
def response (b : Builder) : Response :=
  ⟨b.type, b.data.map fun fields =>
    ⟨.interactionResponseData, fields.map fun f => (f.1, b.read f.2)⟩⟩

/-! ## Setters -/

def setType (code : Code) : Setter := modify fun b => { b with type := code }

/-- The fields of the data, which is made if there is none. -/
def fields (b : Builder) : List (String × Held) := b.data.getD (hold Response.noData.fields)

/-- Sets a field of the data. -/
def setField (name : String) (h : Held) : Setter := modify fun b =>
  { b with data := some (b.fields.map fun f => if f.1 = name then (name, h) else f) }

/-- Sets a field to a new list with what the list at a place holds. -/
def setRecords (name : String) (place : Place) : Setter := do
  let b ← get
  set { b with lists := b.lists.keep (b.lists.get place) }
  setField name (.records (.own b.lists.own.length))

/-- Raises if there is a reason to, and else goes on. -/
def unlessRefused (refusal : Option ResponseFault) (setter : Setter) : Setter :=
  match refusal with
  | some fault => throw fault
  | none => setter

def setEmbeds (place : Place) : Setter := do
  let b ← get
  unlessRefused (Response.embedsRefusal? (b.lists.get place)) (setRecords "embeds" place)

/-- Sets the flags to a copy of the flag set at a place. -/
def copyFlags (place : Place) : Setter := do
  let b ← get
  set { b with flagSets := b.flagSets.keep (b.flagSets.get place).copy }
  setField "flags" (.flags (.own b.flagSets.own.length))

def setFlags (place : Place) : Setter := do
  let b ← get
  unlessRefused (Response.flagsRefusal? (b.flagSets.get place)) (copyFlags place)

end Builder

/-- A call of a setter. Lists and flag sets are given by their places. -/
inductive ResponseCall where
  | type (code : Code)
  | tts (value : Option Bool)
  | content (text : Option String)
  | embeds (place : Place)
  | allowedMentions (mentions : Option Record)
  | flags (place : Place)
  | components (place : Place)
  | attachments (place : Place)
  | poll (poll : Option Record)

namespace ResponseCall

open Response (valueOf)

def setter : ResponseCall → Setter
  | .type code => Builder.setType code
  | .tts value => Builder.setField "tts" (.value (valueOf Value.truth value))
  | .content text => Builder.setField "content" (.value (valueOf Value.text text))
  | .embeds place => Builder.setEmbeds place
  | .allowedMentions record =>
    Builder.setField "allowed_mentions" (.value (valueOf Record.toValue record))
  | .flags place => Builder.setFlags place
  | .components place => Builder.setRecords "components" place
  | .attachments place => Builder.setRecords "attachments" place
  | .poll record => Builder.setField "poll" (.value (valueOf Record.toValue record))

end ResponseCall

/-- What happens to an answer and to what its caller has. -/
inductive BuilderStep where
  | call (c : ResponseCall)
  | makeList (records : List Record)
  | makeFlags (flags : FlagSet)
  /-- The caller changes a list of its own in any way. -/
  | changeList (i : Nat) (records : List Record)
  /-- The caller changes a flag set of its own in any way. -/
  | changeFlags (i : Nat) (flags : FlagSet)

namespace Builder

/-- What is there after a step, and what the setter that was called has raised. -/
def step (b : Builder) : BuilderStep → Builder × Option ResponseFault
  | .call c =>
    match c.setter.run b with
    | .ok _ b' => (b', none)
    | .error fault b' => (b', some fault)
  | .makeList records => ({ b with lists := b.lists.make records }, none)
  | .makeFlags flags => ({ b with flagSets := b.flagSets.make flags }, none)
  | .changeList i records => ({ b with lists := b.lists.change i records }, none)
  | .changeFlags i flags => ({ b with flagSets := b.flagSets.change i flags }, none)

def run (b : Builder) (steps : List BuilderStep) : Builder :=
  steps.foldl (fun b s => (b.step s).1) b

end Builder
end ChatRecords
