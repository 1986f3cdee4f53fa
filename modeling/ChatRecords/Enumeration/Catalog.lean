import ChatRecords.Enumeration.Basic

/-!
# Enumerations of the records

The closed lists of values that records carry, apart from the kinds of message.

## Main definitions

* `Enumeration.catalog`: all of them.
-/

namespace ChatRecords
namespace Enumeration

def interactionType : Enumeration := ofNumbers "InteractionType"
  [("PING", 1), ("APPLICATION_COMMAND", 2), ("MESSAGE_COMPONENT", 3),
   ("APPLICATION_COMMAND_AUTOCOMPLETE", 4), ("MODAL_SUBMIT", 5)]

def applicationIntegrationType : Enumeration := ofNumbers "ApplicationIntegrationType"
  [("GUILD_INSTALL", 0), ("USER_INSTALL", 1)]

def interactionContextType : Enumeration := ofNumbers "InteractionContextType"
  [("GUILD", 0), ("BOT_DM", 1), ("PRIVATE_CHANNEL", 2)]

def premiumType : Enumeration := ofNumbers "PremiumType"
  [("NONE", 0), ("NITRO_CLASSIC", 1), ("NITRO", 2), ("NITRO_BASIC", 3)]

def emojiAnimationType : Enumeration := ofNumbers "EmojiAnimationType"
  [("PREMIUM", 1), ("BASIC", 2)]

def verificationLevel : Enumeration := ofNumbers "VerificationLevel"
  [("NONE", 0), ("LOW", 1), ("MEDIUM", 2), ("HIGH", 3), ("VERY_HIGH", 4)]

def defaultMessageNotificationLevel : Enumeration := ofNumbers "DefaultMessageNotificationLevel"
  [("ALL_MESSAGES", 0), ("ONLY_MENTIONS", 1)]

def explicitContentFilterLevel : Enumeration := ofNumbers "ExplicitContentFilterLevel"
  [("DISABLED", 0), ("MEMBERS_WITHOUT_ROLES", 1), ("ALL_MEMBERS", 2)]

def mfaLevel : Enumeration := ofNumbers "MFALevel"
  [("NONE", 0), ("ELEVATED", 1)]

def nsfwLevel : Enumeration := ofNumbers "NSFWLevel"
  [("DEFAULT", 0), ("EXPLICIT", 1), ("SAFE", 2), ("AGE_RESTRICTED", 3)]

def premiumTier : Enumeration := ofNumbers "PremiumTier"
  [("NONE", 0), ("TIER_1", 1), ("TIER_2", 2), ("TIER_3", 3)]

def guildFeature : Enumeration := ofWords "GuildFeature"
  [("ANIMATED_BANNER", "ANIMATED_BANNER"), ("ANIMATED_ICON", "ANIMATED_ICON"),
   ("APPLICATION_COMMAND_PERMISSIONS_V2", "APPLICATION_COMMAND_PERMISSIONS_V2"),
   ("AUTO_MODERATION", "AUTO_MODERATION"), ("BANNER", "BANNER"), ("COMMUNITY", "COMMUNITY"),
   ("CREATOR_MONETIZABLE_PROVISIONAL", "CREATOR_MONETIZABLE_PROVISIONAL"),
   ("CREATOR_STORE_PAGE", "CREATOR_STORE_PAGE"),
   ("DEVELOPER_SUPPORT_SERVER", "DEVELOPER_SUPPORT_SERVER"), ("DISCOVERABLE", "DISCOVERABLE"),
   ("FEATURABLE", "FEATURABLE"), ("INVITES_DISABLED", "INVITES_DISABLED"),
   ("INVITE_SPLASH", "INVITE_SPLASH"),
   ("MEMBER_VERIFICATION_GATE_ENABLED", "MEMBER_VERIFICATION_GATE_ENABLED"),
   ("MORE_STICKERS", "MORE_STICKERS"), ("NEWS", "NEWS"), ("PARTNERED", "PARTNERED"),
   ("PREVIEW_ENABLED", "PREVIEW_ENABLED"), ("RAID_ALERTS_DISABLED", "RAID_ALERTS_DISABLED"),
   ("ROLE_ICONS", "ROLE_ICONS"),
   ("ROLE_SUBSCRIPTIONS_AVAILABLE_FOR_PURCHASE", "ROLE_SUBSCRIPTIONS_AVAILABLE_FOR_PURCHASE"),
   ("ROLE_SUBSCRIPTIONS_ENABLED", "ROLE_SUBSCRIPTIONS_ENABLED"),
   ("TICKETED_EVENTS_ENABLED", "TICKETED_EVENTS_ENABLED"), ("VANITY_URL", "VANITY_URL"),
   ("VERIFIED", "VERIFIED"), ("VIP_REGIONS", "VIP_REGIONS"),
   ("WELCOME_SCREEN_ENABLED", "WELCOME_SCREEN_ENABLED")]

def channelType : Enumeration := ofNumbers "ChannelType"
  [("GUILD_TEXT", 0), ("DM", 1), ("GUILD_VOICE", 2), ("GROUP_DM", 3), ("GUILD_CATEGORY", 4),
   ("GUILD_ANNOUNCEMENT", 5), ("ANNOUNCEMENT_THREAD", 10), ("PUBLIC_THREAD", 11),
   ("PRIVATE_THREAD", 12), ("GUILD_STAGE_VOICE", 13), ("GUILD_DIRECTORY", 14),
   ("GUILD_FORUM", 15), ("GUILD_MEDIA", 16)]

def sortOrderType : Enumeration := ofNumbers "SortOrderType"
  [("LATEST_ACTIVITY", 0), ("CREATION_DATE", 1)]

def forumLayoutType : Enumeration := ofNumbers "ForumLayoutType"
  [("NOT_SET", 0), ("LIST_VIEW", 1), ("GALLERY_VIEW", 2)]

def videoQualityMode : Enumeration := ofNumbers "VideoQualityMode"
  [("AUTO", 1), ("FULL", 2)]

def overwriteType : Enumeration := ofNumbers "OverwriteType"
  [("ROLE", 0), ("MEMBER", 1)]

def membershipState : Enumeration := ofNumbers "MembershipState"
  [("INVITED", 1), ("ACCEPTED", 2)]

def embedType : Enumeration := ofWords "EmbedType"
  [("RICH", "rich"), ("IMAGE", "image"), ("VIDEO", "video"), ("GIFV", "gifv"),
   ("ARTICLE", "article"), ("LINK", "link"), ("POLL_RESULT", "poll_result")]

def pollLayoutType : Enumeration := ofNumbers "PollLayoutType"
  [("DEFAULT", 1)]

def stickerType : Enumeration := ofNumbers "StickerType"
  [("STANDARD", 1), ("GUILD", 2)]

def stickerFormatType : Enumeration := ofNumbers "StickerFormatType"
  [("PNG", 1), ("APNG", 2), ("LOTTIE", 3), ("GIF", 4)]

def activityType : Enumeration := ofNumbers "ActivityType"
  [("PLAYING", 0), ("STREAMING", 1), ("LISTENING", 2), ("WATCHING", 3), ("CUSTOM", 4),
   ("COMPETING", 5)]

def activityLocationKind : Enumeration := ofWords "ActivityLocationKind"
  [("GUILD_CHANNEL", "gc"), ("PRIVATE_CHANNEL", "pc")]

def userStatus : Enumeration := ofWords "UserStatus"
  [("ONLINE", "online"), ("DND", "dnd"), ("IDLE", "idle"), ("INVISIBLE", "invisible"),
   ("OFFLINE", "offline")]

def allowedMentionType : Enumeration := ofWords "AllowedMentionType"
  [("ROLES", "roles"), ("USERS", "users"), ("EVERYONE", "everyone")]

def messageActivityType : Enumeration := ofNumbers "MessageActivityType"
  [("JOIN", 1), ("SPECTATE", 2), ("LISTEN", 3), ("JOIN_REQUEST", 5)]

def messageReferenceType : Enumeration := ofNumbers "MessageReferenceType"
  [("DEFAULT", 0), ("FORWARD", 1)]

def messageComponentType : Enumeration := ofNumbers "MessageComponentType"
  [("ACTION_ROW", 1), ("BUTTON", 2), ("STRING_SELECT", 3), ("TEXT_INPUT", 4), ("USER_SELECT", 5),
   ("ROLE_SELECT", 6), ("MENTIONABLE_SELECT", 7), ("CHANNEL_SELECT", 8)]

def buttonStyle : Enumeration := ofNumbers "ButtonStyle"
  [("PRIMARY", 1), ("SECONDARY", 2), ("SUCCESS", 3), ("DANGER", 4), ("LINK", 5), ("PREMIUM", 6)]

def applicationCommandType : Enumeration := ofNumbers "ApplicationCommandType"
  [("CHAT_INPUT", 1), ("USER", 2), ("MESSAGE", 3), ("PRIMARY_ENTRY_POINT", 4)]

def applicationCommandOptionType : Enumeration := ofNumbers "ApplicationCommandOptionType"
  [("SUB_COMMAND", 1), ("SUB_COMMAND_GROUP", 2), ("STRING", 3), ("INTEGER", 4), ("BOOLEAN", 5),
   ("USER", 6), ("CHANNEL", 7), ("ROLE", 8), ("MENTIONABLE", 9), ("NUMBER", 10),
   ("ATTACHMENT", 11)]

def entryPointCommandHandlerType : Enumeration := ofNumbers "EntryPointCommandHandlerType"
  [("APP_HANDLER", 1), ("DISCORD_LAUNCH_ACTIVITY", 2)]

def entitlementType : Enumeration := ofNumbers "EntitlementType"
  [("PURCHASE", 1), ("PREMIUM_SUBSCRIPTION", 2), ("DEVELOPER_GIFT", 3), ("TEST_MODE_PURCHASE", 4),
   ("FREE_PURCHASE", 5), ("USER_GIFT", 6), ("PREMIUM_PURCHASE", 7),
   ("APPLICATION_SUBSCRIPTION", 8)]

def interactionResponseType : Enumeration := ofNumbers "InteractionResponseType"
  [("PONG", 1), ("CHANNEL_MESSAGE_WITH_SOURCE", 4), ("DEFERRED_CHANNEL_MESSAGE_WITH_SOURCE", 5),
   ("DEFERRED_UPDATE_MESSAGE", 6), ("UPDATE_MESSAGE", 7),
   ("APPLICATION_COMMAND_AUTOCOMPLETE_RESULT", 8), ("MODAL", 9), ("PREMIUM_REQUIRED", 10),
   ("LAUNCH_ACTIVITY", 12)]

def autoModerationEventType : Enumeration := ofNumbers "AutoModerationEventType"
  [("MESSAGE_SEND", 1), ("MEMBER_UPDATE", 2)]

def autoModerationTriggerType : Enumeration := ofNumbers "AutoModerationTriggerType"
  [("KEYWORD", 1), ("SPAM", 3), ("KEYWORD_PRESET", 4), ("MENTION_SPAM", 5), ("MEMBER_PROFILE", 6)]

def keywordPresetType : Enumeration := ofNumbers "KeywordPresetType"
  [("PROFANITY", 1), ("SEXUAL_CONTENT", 2), ("SLURS", 3)]

def autoModerationActionType : Enumeration := ofNumbers "AutoModerationActionType"
  [("BLOCK_MESSAGE", 1), ("SEND_ALERT_MESSAGE", 2), ("TIMEOUT", 3),
   ("BLOCK_MEMBER_INTERACTION", 4)]

def guildScheduledEventPrivacyLevel : Enumeration := ofNumbers "GuildScheduledEventPrivacyLevel"
  [("GUILD_ONLY", 2)]

def guildScheduledEventStatus : Enumeration := ofNumbers "GuildScheduledEventStatus"
  [("SCHEDULED", 1), ("ACTIVE", 2), ("COMPLETED", 3), ("CANCELED", 4)]

def guildScheduledEventEntityType : Enumeration := ofNumbers "GuildScheduledEventEntityType"
  [("STAGE_INSTANCE", 1), ("VOICE", 2), ("EXTERNAL", 3)]

def recurrenceRuleFrequency : Enumeration := ofNumbers "RecurrenceRuleFrequency"
  [("YEARLY", 0), ("MONTHLY", 1), ("WEEKLY", 2), ("DAILY", 3)]

def recurrenceRuleWeekday : Enumeration := ofNumbers "RecurrenceRuleWeekday"
  [("MONDAY", 0), ("TUESDAY", 1), ("WEDNESDAY", 2), ("THURSDAY", 3), ("FRIDAY", 4),
   ("SATURDAY", 5), ("SUNDAY", 6)]

def recurrenceRuleMonth : Enumeration := ofNumbers "RecurrenceRuleMonth"
  [("JANUARY", 1), ("FEBRUARY", 2), ("MARCH", 3), ("APRIL", 4), ("MAY", 5), ("JUNE", 6),
   ("JULY", 7), ("AUGUST", 8), ("SEPTEMBER", 9), ("OCTOBER", 10), ("NOVEMBER", 11),
   ("DECEMBER", 12)]

def stageInstancePrivacyLevel : Enumeration := ofNumbers "StageInstancePrivacyLevel"
  [("PUBLIC", 1), ("GUILD_ONLY", 2)]

def auditLogEvent : Enumeration := ofNumbers "AuditLogEvent"
  [("GUILD_UPDATE", 1), ("CHANNEL_CREATE", 10), ("CHANNEL_UPDATE", 11), ("CHANNEL_DELETE", 12),
   ("CHANNEL_OVERWRITE_CREATE", 13), ("CHANNEL_OVERWRITE_UPDATE", 14),
   ("CHANNEL_OVERWRITE_DELETE", 15), ("MEMBER_KICK", 20), ("MEMBER_PRUNE", 21),
   ("MEMBER_BAN_ADD", 22), ("MEMBER_BAN_REMOVE", 23), ("MEMBER_UPDATE", 24),
   ("MEMBER_ROLE_UPDATE", 25), ("MEMBER_MOVE", 26), ("MEMBER_DISCONNECT", 27), ("BOT_ADD", 28),
   ("ROLE_CREATE", 30), ("ROLE_UPDATE", 31), ("ROLE_DELETE", 32), ("INVITE_CREATE", 40),
   ("INVITE_UPDATE", 41), ("INVITE_DELETE", 42), ("WEBHOOK_CREATE", 50), ("WEBHOOK_UPDATE", 51),
   ("WEBHOOK_DELETE", 52), ("EMOJI_CREATE", 60), ("EMOJI_UPDATE", 61), ("EMOJI_DELETE", 62),
   ("MESSAGE_DELETE", 72), ("MESSAGE_BULK_DELETE", 73), ("MESSAGE_PIN", 74),
   ("MESSAGE_UNPIN", 75), ("INTEGRATION_CREATE", 80), ("INTEGRATION_UPDATE", 81),
   ("INTEGRATION_DELETE", 82), ("STAGE_INSTANCE_CREATE", 83), ("STAGE_INSTANCE_UPDATE", 84),
   ("STAGE_INSTANCE_DELETE", 85), ("STICKER_CREATE", 90), ("STICKER_UPDATE", 91),
   ("STICKER_DELETE", 92), ("GUILD_SCHEDULED_EVENT_CREATE", 100),
   ("GUILD_SCHEDULED_EVENT_UPDATE", 101), ("GUILD_SCHEDULED_EVENT_DELETE", 102),
   ("THREAD_CREATE", 110), ("THREAD_UPDATE", 111), ("THREAD_DELETE", 112),
   ("APPLICATION_COMMAND_PERMISSION_UPDATE", 121), ("SOUNDBOARD_SOUND_CREATE", 130),
   ("SOUNDBOARD_SOUND_UPDATE", 131), ("SOUNDBOARD_SOUND_DELETE", 132),
   ("AUTO_MODERATION_RULE_CREATE", 140), ("AUTO_MODERATION_RULE_UPDATE", 141),
   ("AUTO_MODERATION_RULE_DELETE", 142), ("AUTO_MODERATION_BLOCK_MESSAGE", 143),
   ("AUTO_MODERATION_FLAG_TO_CHANNEL", 144), ("AUTO_MODERATION_USER_COMMUNICATION_DISABLED", 145),
   ("CREATOR_MONETIZATION_REQUEST_CREATED", 150), ("CREATOR_MONETIZATION_TERMS_ACCEPTED", 151),
   ("ONBOARDING_PROMPT_CREATE", 163), ("ONBOARDING_PROMPT_UPDATE", 164),
   ("ONBOARDING_PROMPT_DELETE", 165), ("ONBOARDING_CREATE", 166), ("ONBOARDING_UPDATE", 167),
   ("HOME_SETTINGS_CREATE", 190), ("HOME_SETTINGS_UPDATE", 191)]

def webhookType : Enumeration := ofNumbers "WebhookType"
  [("INCOMING", 1), ("CHANNEL_FOLLOWER", 2), ("APPLICATION", 3)]

def inviteType : Enumeration := ofNumbers "InviteType"
  [("GUILD", 0), ("GROUP_DM", 1), ("FRIEND", 2)]

def inviteTargetType : Enumeration := ofNumbers "InviteTargetType"
  [("STREAM", 1), ("EMBEDDED_APPLICATION", 2)]

def oauth2Scope : Enumeration := ofWords "OAuth2Scope"
  [("ACTIVITIES_READ", "activities.read"), ("ACTIVITIES_WRITE", "activities.write"),
   ("APPLICATIONS_BUILDS_READ", "applications.builds.read"),
   ("APPLICATIONS_BUILDS_UPLOAD", "applications.builds.upload"),
   ("APPLICATIONS_COMMANDS", "applications.commands"),
   ("APPLICATIONS_COMMANDS_UPDATE", "applications.commands.update"),
   ("APPLICATIONS_COMMANDS_PERMISSIONS_UPDATE", "applications.commands.permissions.update"),
   ("APPLICATIONS_ENTITLEMENTS", "applications.entitlements"),
   ("APPLICATIONS_STORE_UPDATE", "applications.store.update"), ("BOT", "bot"),
   ("CONNECTIONS", "connections"), ("DM_CHANNELS_READ", "dm_channels.read"), ("EMAIL", "email"),
   ("GDM_JOIN", "gdm.join"), ("GUILDS", "guilds"), ("GUILDS_JOIN", "guilds.join"),
   ("GUILDS_MEMBERS_READ", "guilds.members.read"), ("IDENTIFY", "identify"),
   ("MESSAGES_READ", "messages.read"), ("RELATIONSHIPS_READ", "relationships.read"),
   ("ROLE_CONNECTIONS_WRITE", "role_connections.write"), ("RPC", "rpc"),
   ("RPC_ACTIVITIES_WRITE", "rpc.activities.write"),
   ("RPC_NOTIFICATIONS_READ", "rpc.notifications.read"), ("RPC_VOICE_READ", "rpc.voice.read"),
   ("RPC_VOICE_WRITE", "rpc.voice.write"), ("VOICE", "voice"),
   ("WEBHOOK_INCOMING", "webhook.incoming")]

def catalog : List Enumeration :=
  [interactionType, applicationIntegrationType, interactionContextType, premiumType,
   emojiAnimationType, verificationLevel, defaultMessageNotificationLevel,
   explicitContentFilterLevel, mfaLevel, nsfwLevel, premiumTier, guildFeature, channelType,
   sortOrderType, forumLayoutType, videoQualityMode, overwriteType, membershipState, embedType,
   pollLayoutType, stickerType, stickerFormatType, activityType, activityLocationKind, userStatus,
   allowedMentionType, messageActivityType, messageReferenceType, messageComponentType,
   buttonStyle, applicationCommandType, applicationCommandOptionType,
   entryPointCommandHandlerType, entitlementType, interactionResponseType,
   autoModerationEventType, autoModerationTriggerType, keywordPresetType,
   autoModerationActionType, guildScheduledEventPrivacyLevel, guildScheduledEventStatus,
   guildScheduledEventEntityType, recurrenceRuleFrequency, recurrenceRuleWeekday,
   recurrenceRuleMonth, stageInstancePrivacyLevel, auditLogEvent, webhookType, inviteType,
   inviteTargetType, oauth2Scope]

end Enumeration
end ChatRecords
