import ChatRecords.Record.Schema

/-!
# Guilds, their stickers, welcome screens and integrations

The fields of these kinds of record, in the order in which they are read and written.
-/

namespace ChatRecords
namespace Catalog

def sticker : List Field :=
  [.required "id" .id, .optional "pack_id" .id, .required "name" .text,
   .optional "description" .text, .withDefault "tags" .text (.text ""), .optional "asset" .text,
   .required "type" (.code .stickerType), .required "format_type" (.code .stickerFormatType),
   .optional "available" .truth, .optional "guild_id" .id, .optional "user" (.record .user),
   .optional "sort_value" .integer]

def stickerItem : List Field :=
  [.required "id" .id, .required "name" .text, .required "format_type" (.code .stickerFormatType)]

def welcomeScreenChannel : List Field :=
  [.required "channel_id" .id, .required "description" .text, .optional "emoji_id" .id,
   .optional "emoji_name" .text]

def welcomeScreen : List Field :=
  [.optional "description" .text, .listing "welcome_channels" (.record .welcomeScreenChannel)]

def integrationAccount : List Field :=
  [.required "id" .text, .required "name" .text]

def integrationApplication : List Field :=
  [.required "id" .id, .required "name" .text, .optional "icon" .text,
   .withDefault "description" .text (.text ""), .optional "bot" (.record .user)]

def integration : List Field :=
  [.required "id" .id, .required "name" .text, .required "type" .text,
   .withDefault "enabled" .truth (.truth false), .optional "syncing" .truth,
   .optional "role_id" .id, .optional "enable_emoticons" .truth,
   .optional "expire_behavior" .integer, .optional "expire_grace_period" .integer,
   .optional "user" (.record .user), .optional "account" (.record .integrationAccount),
   .optional "synced_at" .moment, .optional "subscriber_count" .integer,
   .optional "revoked" .truth, .optional "application" (.record .integrationApplication),
   .optional "scopes" (.list .text),
   .optional "integration_type" (.code .applicationIntegrationType)]

def guild : List Field :=
  [.required "id" .id, .required "name" .text, .optional "icon" .text,
   .optional "icon_hash" .text, .optional "splash" .text, .optional "discovery_splash" .text,
   .optional "owner" .truth, .required "owner_id" .id, .optional "permissions" .text,
   .optional "region" .text, .optional "afk_channel_id" .id,
   .withDefault "afk_timeout" .integer (.integer 0), .optional "widget_enabled" .truth,
   .optional "widget_channel_id" .id,
   .withDefault "verification_level" (.code .verificationLevel) (.code (.number 0)),
   .withDefault "default_message_notifications" (.code .defaultMessageNotificationLevel) (.code (.number 0)),
   .withDefault "explicit_content_filter" (.code .explicitContentFilterLevel) (.code (.number 0)),
   .listing "roles" (.record .role), .listing "emojis" (.record .emoji),
   .listing "features" .text, .withDefault "mfa_level" (.code .mfaLevel) (.code (.number 0)),
   .optional "application_id" .id, .optional "system_channel_id" .id,
   .flagging "system_channel_flags" .systemChannelFlag, .optional "rules_channel_id" .id,
   .optional "max_presences" .integer, .optional "max_members" .integer,
   .optional "vanity_url_code" .text, .optional "description" .text, .optional "banner" .text,
   .withDefault "premium_tier" (.code .premiumTier) (.code (.number 0)),
   .optional "premium_subscription_count" .integer,
   .withDefault "preferred_locale" .text (.text "en-US"),
   .optional "public_updates_channel_id" .id, .optional "max_video_channel_users" .integer,
   .optional "max_stage_video_channel_users" .integer,
   .optional "approximate_member_count" .integer, .optional "approximate_presence_count" .integer,
   .optional "welcome_screen" (.record .welcomeScreen),
   .withDefault "nsfw_level" (.code .nsfwLevel) (.code (.number 0)),
   .listing "stickers" (.record .sticker),
   .withDefault "premium_progress_bar_enabled" .truth (.truth false),
   .optional "safety_alerts_channel_id" .id]

def server : List Field :=
  guild ++
  [.optional "joined_at" .moment, .withDefault "large" .truth (.truth false),
   .optional "unavailable" .truth, .withDefault "member_count" .integer (.integer 0),
   .listing "voice_states" (.record .voiceState), .listing "members" (.record .guildMember),
   .listing "channels" (.record .channel), .listing "threads" (.record .channel),
   .listing "presences" (.record .presenceUpdate),
   .listing "stage_instances" (.record .stageInstance),
   .listing "guild_scheduled_events" (.record .guildScheduledEvent)]

end Catalog
end ChatRecords
