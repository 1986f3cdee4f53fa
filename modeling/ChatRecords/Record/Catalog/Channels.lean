import ChatRecords.Record.Schema

/-!
# Channels and threads

The fields of these kinds of record, in the order in which they are read and written.
-/

namespace ChatRecords
namespace Catalog

def overwrite : List Field :=
  [.required "id" .id, .required "type" (.code .overwriteType), .flagging "allow" .permission,
   .flagging "deny" .permission]

def threadMetadata : List Field :=
  [.withDefault "archived" .truth (.truth false),
   .withDefault "auto_archive_duration" .integer (.integer 1440),
   .required "archive_timestamp" .moment, .withDefault "locked" .truth (.truth false),
   .optional "invitable" .truth, .optional "create_timestamp" .moment]

def threadMember : List Field :=
  [.optional "id" .id, .optional "user_id" .id, .required "join_timestamp" .moment,
   .withDefault "flags" .integer (.integer 0), .optional "member" (.record .guildMember)]

def forumTag : List Field :=
  [.required "id" .id, .required "name" .text, .withDefault "moderated" .truth (.truth false),
   .optional "emoji_id" .id, .optional "emoji_name" .text]

def defaultReaction : List Field :=
  [.optional "emoji_id" .id, .optional "emoji_name" .text]

def channel : List Field :=
  [.required "id" .id, .required "type" (.code .channelType), .optional "guild_id" .id,
   .optional "position" .integer, .listing "permission_overwrites" (.record .overwrite),
   .optional "name" .text, .optional "topic" .text, .optional "nsfw" .truth,
   .optional "last_message_id" .id, .optional "bitrate" .integer, .optional "user_limit" .integer,
   .optional "rate_limit_per_user" .integer, .listing "recipients" (.record .user),
   .optional "icon" .text, .optional "owner_id" .id, .optional "application_id" .id,
   .optional "managed" .truth, .optional "parent_id" .id, .optional "last_pin_timestamp" .moment,
   .optional "rtc_region" .text, .optional "video_quality_mode" (.code .videoQualityMode),
   .optional "message_count" .integer, .optional "member_count" .integer,
   .optional "thread_metadata" (.record .threadMetadata),
   .optional "member" (.record .threadMember), .optional "default_auto_archive_duration" .integer,
   .optional "permissions" (.flags .permission), .optional "flags" (.flags .channelFlag),
   .optional "total_message_sent" .integer, .listing "available_tags" (.record .forumTag),
   .listing "applied_tags" .id, .optional "default_reaction_emoji" (.record .defaultReaction),
   .optional "default_thread_rate_limit_per_user" .integer,
   .optional "default_sort_order" (.code .sortOrderType),
   .optional "default_forum_layout" (.code .forumLayoutType)]

end Catalog
end ChatRecords
