import ChatRecords.Record.Value

/-!
# Emoji

An emoji is told apart from others by its identifier if it has one, else by its name. An
emoji with neither can stand in a message but cannot be addressed.

## Main definitions

* `EmojiIdentity`: what tells emoji apart.
* `Emoji.identity?`: the identity of an emoji record.
* `Emoji.mention`: the text that shows an emoji in a message.
-/

namespace ChatRecords

/-- What tells emoji apart. -/
inductive EmojiIdentity where
  | id (value : Snowflake)
  /-- The name of an emoji without identifier. -/
  | name (value : String)
deriving DecidableEq

namespace Emoji

/-- The identity of an emoji record: its identifier, else its name. -/
def identity? (emoji : Record) : Option EmojiIdentity :=
  match (emoji.get "id").id?, (emoji.get "name").text? with
  | some x, _ => some (.id x)
  | none, some s => some (.name s)
  | none, none => none

/-- The text that shows an emoji in a message: its name alone, or its name and identifier with a
mark for those that move. -/
def mention (emoji : Record) : String :=
  let name := ((emoji.get "name").text?).getD ""
  match (emoji.get "id").id? with
  | none => name
  | some x =>
    "<" ++ (if (emoji.get "animated").isTrue then "a" else "") ++ ":" ++
      (if name = "" then "_" else name) ++ ":" ++ x.format ++ ">"

end Emoji
end ChatRecords
