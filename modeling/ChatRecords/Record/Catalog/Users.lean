import ChatRecords.Record.Schema

/-!
# Users, emojis, roles, members and teams

The fields of these kinds of record, in the order in which they are read and written.
-/

namespace ChatRecords
namespace Catalog

def avatarDecorationData : List Field :=
  [.required "asset" .text, .required "sku_id" .id]

def user : List Field :=
  [.required "id" .id, .required "username" .text, .withDefault "discriminator" .text (.text "0"),
   .optional "global_name" .text, .optional "avatar" .text, .optional "bot" .truth,
   .optional "system" .truth, .optional "mfa_enabled" .truth, .optional "banner" .text,
   .optional "accent_color" .integer, .optional "locale" .text, .optional "verified" .truth,
   .optional "email" .text, .optional "flags" (.flags .userFlag),
   .optional "premium_type" (.code .premiumType), .optional "public_flags" (.flags .userFlag),
   .optional "avatar_decoration_data" (.record .avatarDecorationData)]

def partialUser : List Field :=
  [.required "id" .id, .optional "username" .text, .optional "discriminator" .text,
   .optional "global_name" .text, .optional "avatar" .text, .optional "bot" .truth]

def emoji : List Field :=
  [.optional "id" .id, .optional "name" .text, .optional "roles" (.list .id),
   .optional "user" (.record .user), .optional "require_colons" .truth,
   .optional "managed" .truth, .optional "animated" .truth, .optional "available" .truth]

def roleTags : List Field :=
  [.optional "bot_id" .id, .optional "integration_id" .id,
   .withDefault "premium_subscriber" .truth (.truth false),
   .optional "subscription_listing_id" .id,
   .withDefault "available_for_purchase" .truth (.truth false),
   .withDefault "guild_connections" .truth (.truth false)]

def role : List Field :=
  [.required "id" .id, .required "name" .text, .withDefault "color" .integer (.integer 0),
   .withDefault "hoist" .truth (.truth false), .optional "icon" .text,
   .optional "unicode_emoji" .text, .withDefault "position" .integer (.integer 0),
   .flagging "permissions" .permission, .withDefault "managed" .truth (.truth false),
   .withDefault "mentionable" .truth (.truth false), .optional "tags" (.record .roleTags),
   .flagging "flags" .roleFlag]

def guildMember : List Field :=
  [.optional "user" (.record .user), .optional "nick" .text, .optional "avatar" .text,
   .listing "roles" .id, .optional "joined_at" .moment, .optional "premium_since" .moment,
   .withDefault "deaf" .truth (.truth false), .withDefault "mute" .truth (.truth false),
   .flagging "flags" .guildMemberFlag, .optional "pending" .truth,
   .optional "permissions" (.flags .permission), .optional "communication_disabled_until" .moment,
   .optional "avatar_decoration_data" (.record .avatarDecorationData)]

def teamMember : List Field :=
  [.required "membership_state" (.code .membershipState), .required "team_id" .id,
   .required "user" (.record .user), .required "role" .text]

def team : List Field :=
  [.required "id" .id, .optional "icon" .text, .listing "members" (.record .teamMember),
   .required "name" .text, .required "owner_user_id" .id]

end Catalog
end ChatRecords
