import ChatRecords.Record.Construction

/-!
# Users and members

## Main definitions

* `User.displayName`, `User.handle`: the names of a user.
* `Member.userId?`: the user behind a membership.
* `Interaction.invoker?`: the user who triggered an interaction.
-/

namespace ChatRecords
namespace User

/-- The name that is shown: the global name, unless it is missing or empty. -/
def displayName (user : Record) : String :=
  match (user.get "global_name").text? with
  | some "" | none => ((user.get "username").text?).getD ""
  | some name => name

/-- The name that users are told apart by: the user name, and the discriminator of those that
still have one. -/
def handle (user : Record) : String :=
  let name := ((user.get "username").text?).getD ""
  match (user.get "discriminator").text? with
  | none | some "" | some "0" => name
  | some discriminator => name ++ "#" ++ discriminator

end User

namespace Member

/-- The user behind a membership, if the payload told. -/
def user? (member : Record) : Option Record := (member.get "user").record?

/-- The identifier of the user behind a membership. -/
def userId? (member : Record) : Option Snowflake :=
  (user? member).bind fun user => (user.get "id").id?

end Member

namespace Interaction

/-- The user who triggered an interaction, in a guild or outside of any. -/
def invoker? (interaction : Record) : Option Record :=
  match (interaction.get "member").record?.bind Member.user? with
  | some user => some user
  | none => (interaction.get "user").record?

end Interaction
end ChatRecords
