import ChatRecords.Flags.Basic

/-!
# Flag classes

The named bits of the flag sets that records carry.

## Main definitions

* `FlagClass.catalog`: all classes.
-/

namespace ChatRecords
namespace FlagClass

def userFlag : FlagClass := ⟨"UserFlag",
  [("STAFF", 0), ("PARTNER", 1), ("HYPESQUAD", 2), ("BUG_HUNTER_LEVEL_1", 3),
   ("HYPESQUAD_ONLINE_HOUSE_1", 6), ("HYPESQUAD_ONLINE_HOUSE_2", 7),
   ("HYPESQUAD_ONLINE_HOUSE_3", 8), ("PREMIUM_EARLY_SUPPORTER", 9), ("TEAM_PSEUDO_USER", 10),
   ("BUG_HUNTER_LEVEL_2", 14), ("VERIFIED_BOT", 16), ("VERIFIED_DEVELOPER", 17),
   ("CERTIFIED_MODERATOR", 18), ("BOT_HTTP_INTERACTIONS", 19), ("ACTIVE_DEVELOPER", 22)]⟩

def permission : FlagClass := ⟨"Permission",
  [("CREATE_INSTANT_INVITE", 0), ("KICK_MEMBERS", 1), ("BAN_MEMBERS", 2), ("ADMINISTRATOR", 3),
   ("MANAGE_CHANNELS", 4), ("MANAGE_GUILD", 5), ("ADD_REACTIONS", 6), ("VIEW_AUDIT_LOG", 7),
   ("PRIORITY_SPEAKER", 8), ("STREAM", 9), ("VIEW_CHANNEL", 10), ("SEND_MESSAGES", 11),
   ("SEND_TTS_MESSAGES", 12), ("MANAGE_MESSAGES", 13), ("EMBED_LINKS", 14), ("ATTACH_FILES", 15),
   ("READ_MESSAGE_HISTORY", 16), ("MENTION_EVERYONE", 17), ("USE_EXTERNAL_EMOJIS", 18),
   ("VIEW_GUILD_INSIGHTS", 19), ("CONNECT", 20), ("SPEAK", 21), ("MUTE_MEMBERS", 22),
   ("DEAFEN_MEMBERS", 23), ("MOVE_MEMBERS", 24), ("USE_VAD", 25), ("CHANGE_NICKNAME", 26),
   ("MANAGE_NICKNAMES", 27), ("MANAGE_ROLES", 28), ("MANAGE_WEBHOOKS", 29),
   ("MANAGE_GUILD_EXPRESSIONS", 30), ("USE_APPLICATION_COMMANDS", 31), ("REQUEST_TO_SPEAK", 32),
   ("MANAGE_EVENTS", 33), ("MANAGE_THREADS", 34), ("CREATE_PUBLIC_THREADS", 35),
   ("CREATE_PRIVATE_THREADS", 36), ("USE_EXTERNAL_STICKERS", 37),
   ("SEND_MESSAGES_IN_THREADS", 38), ("USE_EMBEDDED_ACTIVITIES", 39), ("MODERATE_MEMBERS", 40),
   ("VIEW_CREATOR_MONETIZATION_ANALYTICS", 41), ("USE_SOUNDBOARD", 42),
   ("CREATE_GUILD_EXPRESSIONS", 43), ("CREATE_EVENTS", 44), ("USE_EXTERNAL_SOUNDS", 45),
   ("SEND_VOICE_MESSAGES", 46), ("SEND_POLLS", 49), ("USE_EXTERNAL_APPS", 50)]⟩

def roleFlag : FlagClass := ⟨"RoleFlag",
  [("IN_PROMPT", 0)]⟩

def guildMemberFlag : FlagClass := ⟨"GuildMemberFlag",
  [("DID_REJOIN", 0), ("COMPLETED_ONBOARDING", 1), ("BYPASSES_VERIFICATION", 2),
   ("STARTED_ONBOARDING", 3), ("IS_GUEST", 4), ("STARTED_HOME_ACTIONS", 5),
   ("COMPLETED_HOME_ACTIONS", 6), ("AUTOMOD_QUARANTINED_USERNAME", 7),
   ("DM_SETTINGS_UPSELL_ACKNOWLEDGED", 9)]⟩

def systemChannelFlag : FlagClass := ⟨"SystemChannelFlag",
  [("SUPPRESS_JOIN_NOTIFICATIONS", 0), ("SUPPRESS_PREMIUM_SUBSCRIPTIONS", 1),
   ("SUPPRESS_GUILD_REMINDER_NOTIFICATIONS", 2), ("SUPPRESS_JOIN_NOTIFICATION_REPLIES", 3),
   ("SUPPRESS_ROLE_SUBSCRIPTION_PURCHASE_NOTIFICATIONS", 4),
   ("SUPPRESS_ROLE_SUBSCRIPTION_PURCHASE_NOTIFICATION_REPLIES", 5)]⟩

def channelFlag : FlagClass := ⟨"ChannelFlag",
  [("PINNED", 1), ("REQUIRE_TAG", 4), ("HIDE_MEDIA_DOWNLOAD_OPTIONS", 15)]⟩

def applicationFlag : FlagClass := ⟨"ApplicationFlag",
  [("APPLICATION_AUTO_MODERATION_RULE_CREATE_BADGE", 6), ("GATEWAY_PRESENCE", 12),
   ("GATEWAY_PRESENCE_LIMITED", 13), ("GATEWAY_GUILD_MEMBERS", 14),
   ("GATEWAY_GUILD_MEMBERS_LIMITED", 15), ("VERIFICATION_PENDING_GUILD_LIMIT", 16),
   ("EMBEDDED", 17), ("GATEWAY_MESSAGE_CONTENT", 18), ("GATEWAY_MESSAGE_CONTENT_LIMITED", 19),
   ("APPLICATION_COMMAND_BADGE", 23)]⟩

def activityFlag : FlagClass := ⟨"ActivityFlag",
  [("INSTANCE", 0), ("JOIN", 1), ("SPECTATE", 2), ("JOIN_REQUEST", 3), ("SYNC", 4), ("PLAY", 5),
   ("PARTY_PRIVACY_FRIENDS", 6), ("PARTY_PRIVACY_VOICE_CHANNEL", 7), ("EMBEDDED", 8)]⟩

def messageFlag : FlagClass := ⟨"MessageFlag",
  [("CROSSPOSTED", 0), ("IS_CROSSPOST", 1), ("SUPPRESS_EMBEDS", 2), ("SOURCE_MESSAGE_DELETED", 3),
   ("URGENT", 4), ("HAS_THREAD", 5), ("EPHEMERAL", 6), ("LOADING", 7),
   ("FAILED_TO_MENTION_SOME_ROLES_IN_THREAD", 8), ("SUPPRESS_NOTIFICATIONS", 12),
   ("IS_VOICE_MESSAGE", 13)]⟩

def attachmentFlag : FlagClass := ⟨"AttachmentFlag",
  [("IS_REMIX", 2)]⟩

def intent : FlagClass := ⟨"Intent",
  [("GUILDS", 0), ("GUILD_MEMBERS", 1), ("GUILD_MODERATION", 2), ("GUILD_EMOJIS_AND_STICKERS", 3),
   ("GUILD_INTEGRATIONS", 4), ("GUILD_WEBHOOKS", 5), ("GUILD_INVITES", 6),
   ("GUILD_VOICE_STATES", 7), ("GUILD_PRESENCES", 8), ("GUILD_MESSAGES", 9),
   ("GUILD_MESSAGE_REACTIONS", 10), ("GUILD_MESSAGE_TYPING", 11), ("DIRECT_MESSAGES", 12),
   ("DIRECT_MESSAGE_REACTIONS", 13), ("DIRECT_MESSAGE_TYPING", 14), ("MESSAGE_CONTENT", 15),
   ("GUILD_SCHEDULED_EVENTS", 16), ("AUTO_MODERATION_CONFIGURATION", 20),
   ("AUTO_MODERATION_EXECUTION", 21), ("GUILD_MESSAGE_POLLS", 24), ("DIRECT_MESSAGE_POLLS", 25)]⟩

def catalog : List FlagClass :=
  [userFlag, permission, roleFlag, guildMemberFlag, systemChannelFlag, channelFlag,
   applicationFlag, activityFlag, messageFlag, attachmentFlag, intent]

def find? (name : String) : Option FlagClass := catalog.find? (·.name = name)

end FlagClass
end ChatRecords
