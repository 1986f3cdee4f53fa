/-!
# Kinds of record

Every record is of one kind, which fixes its fields. Most kinds can be decoded on their own; a
few only occur inside others.

## Main definitions

* `RecordKind`: the kinds.
* `RecordKind.name`, `RecordKind.ofName?`: their names.
* `RecordKind.keepsUnknownBits`, `RecordKind.acceptsLabel`: the rules that differ by kind.
-/

namespace ChatRecords

/-- The kinds of record. -/
inductive RecordKind where
  | avatarDecorationData
  | user
  | partialUser
  | emoji
  | roleTags
  | role
  | guildMember
  | teamMember
  | team
  | sticker
  | stickerItem
  | welcomeScreenChannel
  | welcomeScreen
  | integrationAccount
  | integrationApplication
  | integration
  | guild
  | installParams
  | applicationIntegrationTypeConfig
  | application
  | overwrite
  | threadMetadata
  | threadMember
  | forumTag
  | defaultReaction
  | channel
  | embedFooter
  | embedImage
  | embedThumbnail
  | embedVideo
  | embedProvider
  | embedAuthor
  | embedField
  | embed
  | pollMedia
  | pollAnswer
  | pollAnswerCount
  | pollResults
  | poll
  | pollCreate
  | activityTimestamps
  | activityEmoji
  | activityParty
  | activityAssets
  | activitySecrets
  | activityButton
  | activity
  | activityLocation
  | activityInstance
  | clientStatus
  | presenceUpdate
  | gatewayPresenceUpdate
  | attachment
  | channelMention
  | allowedMentions
  | messageActivity
  | messageCall
  | roleSubscriptionData
  | messageReference
  | messageInteractionMetadata
  | messageInteraction
  | selectOption
  | selectDefaultValue
  | messageComponent
  | reactionCountDetails
  | reaction
  | resolvedData
  | snapshotMessage
  | messageSnapshot
  | message
  | applicationCommandOptionChoice
  | applicationCommandOption
  | applicationCommand
  | entitlement
  | applicationCommandInteractionDataOption
  | interactionData
  | interaction
  | interactionResponseData
  | interactionResponse
  | interactionCallbackObject
  | interactionActivityInstance
  | interactionCallbackResource
  | interactionCallbackResponse
  | autoModerationTriggerMetadata
  | autoModerationActionMetadata
  | autoModerationAction
  | autoModerationRule
  | recurrenceRuleNWeekday
  | guildScheduledEventRecurrenceRule
  | guildScheduledEventMetadata
  | guildScheduledEvent
  | stageInstance
  | voiceState
  | voiceRegion
  | webhookSourceGuild
  | webhookSourceChannel
  | webhook
  | auditLogChange
  | optionalAuditEntryInfo
  | auditLogEntry
  | auditLog
  | inviteGuild
  | inviteStageInstance
  | invite
  | server
deriving DecidableEq

namespace RecordKind

def name : RecordKind → String
  | .avatarDecorationData => "AvatarDecorationData"
  | .user => "User"
  | .partialUser => "PartialUser"
  | .emoji => "Emoji"
  | .roleTags => "RoleTags"
  | .role => "Role"
  | .guildMember => "GuildMember"
  | .teamMember => "TeamMember"
  | .team => "Team"
  | .sticker => "Sticker"
  | .stickerItem => "StickerItem"
  | .welcomeScreenChannel => "WelcomeScreenChannel"
  | .welcomeScreen => "WelcomeScreen"
  | .integrationAccount => "IntegrationAccount"
  | .integrationApplication => "IntegrationApplication"
  | .integration => "Integration"
  | .guild => "Guild"
  | .installParams => "InstallParams"
  | .applicationIntegrationTypeConfig => "ApplicationIntegrationTypeConfig"
  | .application => "Application"
  | .overwrite => "Overwrite"
  | .threadMetadata => "ThreadMetadata"
  | .threadMember => "ThreadMember"
  | .forumTag => "ForumTag"
  | .defaultReaction => "DefaultReaction"
  | .channel => "Channel"
  | .embedFooter => "EmbedFooter"
  | .embedImage => "EmbedImage"
  | .embedThumbnail => "EmbedThumbnail"
  | .embedVideo => "EmbedVideo"
  | .embedProvider => "EmbedProvider"
  | .embedAuthor => "EmbedAuthor"
  | .embedField => "EmbedField"
  | .embed => "Embed"
  | .pollMedia => "PollMedia"
  | .pollAnswer => "PollAnswer"
  | .pollAnswerCount => "PollAnswerCount"
  | .pollResults => "PollResults"
  | .poll => "Poll"
  | .pollCreate => "PollCreate"
  | .activityTimestamps => "ActivityTimestamps"
  | .activityEmoji => "ActivityEmoji"
  | .activityParty => "ActivityParty"
  | .activityAssets => "ActivityAssets"
  | .activitySecrets => "ActivitySecrets"
  | .activityButton => "ActivityButton"
  | .activity => "Activity"
  | .activityLocation => "ActivityLocation"
  | .activityInstance => "ActivityInstance"
  | .clientStatus => "ClientStatus"
  | .presenceUpdate => "PresenceUpdate"
  | .gatewayPresenceUpdate => "GatewayPresenceUpdate"
  | .attachment => "Attachment"
  | .channelMention => "ChannelMention"
  | .allowedMentions => "AllowedMentions"
  | .messageActivity => "MessageActivity"
  | .messageCall => "MessageCall"
  | .roleSubscriptionData => "RoleSubscriptionData"
  | .messageReference => "MessageReference"
  | .messageInteractionMetadata => "MessageInteractionMetadata"
  | .messageInteraction => "MessageInteraction"
  | .selectOption => "SelectOption"
  | .selectDefaultValue => "SelectDefaultValue"
  | .messageComponent => "MessageComponent"
  | .reactionCountDetails => "ReactionCountDetails"
  | .reaction => "Reaction"
  | .resolvedData => "ResolvedData"
  | .snapshotMessage => "SnapshotMessage"
  | .messageSnapshot => "MessageSnapshot"
  | .message => "Message"
  | .applicationCommandOptionChoice => "ApplicationCommandOptionChoice"
  | .applicationCommandOption => "ApplicationCommandOption"
  | .applicationCommand => "ApplicationCommand"
  | .entitlement => "Entitlement"
  | .applicationCommandInteractionDataOption => "ApplicationCommandInteractionDataOption"
  | .interactionData => "InteractionData"
  | .interaction => "Interaction"
  | .interactionResponseData => "InteractionResponseData"
  | .interactionResponse => "InteractionResponse"
  | .interactionCallbackObject => "InteractionCallbackObject"
  | .interactionActivityInstance => "InteractionActivityInstance"
  | .interactionCallbackResource => "InteractionCallbackResource"
  | .interactionCallbackResponse => "InteractionCallbackResponse"
  | .autoModerationTriggerMetadata => "AutoModerationTriggerMetadata"
  | .autoModerationActionMetadata => "AutoModerationActionMetadata"
  | .autoModerationAction => "AutoModerationAction"
  | .autoModerationRule => "AutoModerationRule"
  | .recurrenceRuleNWeekday => "RecurrenceRuleNWeekday"
  | .guildScheduledEventRecurrenceRule => "GuildScheduledEventRecurrenceRule"
  | .guildScheduledEventMetadata => "GuildScheduledEventMetadata"
  | .guildScheduledEvent => "GuildScheduledEvent"
  | .stageInstance => "StageInstance"
  | .voiceState => "VoiceState"
  | .voiceRegion => "VoiceRegion"
  | .webhookSourceGuild => "WebhookSourceGuild"
  | .webhookSourceChannel => "WebhookSourceChannel"
  | .webhook => "Webhook"
  | .auditLogChange => "AuditLogChange"
  | .optionalAuditEntryInfo => "OptionalAuditEntryInfo"
  | .auditLogEntry => "AuditLogEntry"
  | .auditLog => "AuditLog"
  | .inviteGuild => "InviteGuild"
  | .inviteStageInstance => "InviteStageInstance"
  | .invite => "Invite"
  | .server => "Server"

/-- The kinds that can be decoded on their own, in the alphabetical order of their names. -/
def standalone : List RecordKind :=
  [.activity, .activityAssets, .activityButton, .activityEmoji, .activityInstance,
   .activityLocation, .activityParty, .activitySecrets, .activityTimestamps, .allowedMentions,
   .application, .applicationCommand, .applicationCommandInteractionDataOption,
   .applicationCommandOption, .applicationCommandOptionChoice, .applicationIntegrationTypeConfig,
   .attachment, .auditLog, .auditLogChange, .auditLogEntry, .autoModerationAction,
   .autoModerationActionMetadata, .autoModerationRule, .autoModerationTriggerMetadata,
   .avatarDecorationData, .channel, .channelMention, .clientStatus, .defaultReaction, .embed,
   .embedAuthor, .embedField, .embedFooter, .embedImage, .embedProvider, .embedThumbnail,
   .embedVideo, .emoji, .entitlement, .forumTag, .gatewayPresenceUpdate, .guild, .guildMember,
   .guildScheduledEvent, .guildScheduledEventRecurrenceRule, .installParams, .integration,
   .interaction, .interactionCallbackObject, .interactionCallbackResource,
   .interactionCallbackResponse, .interactionData, .interactionResponse, .interactionResponseData,
   .invite, .inviteGuild, .message, .messageActivity, .messageCall, .messageComponent,
   .messageInteraction, .messageInteractionMetadata, .messageReference, .messageSnapshot,
   .optionalAuditEntryInfo, .overwrite, .partialUser, .poll, .pollAnswer, .pollAnswerCount,
   .pollCreate, .pollMedia, .pollResults, .presenceUpdate, .reaction, .reactionCountDetails,
   .recurrenceRuleNWeekday, .resolvedData, .role, .roleSubscriptionData, .roleTags, .server,
   .snapshotMessage, .stageInstance, .sticker, .stickerItem, .team, .teamMember, .threadMember,
   .threadMetadata, .user, .voiceRegion, .voiceState, .webhook, .welcomeScreen,
   .welcomeScreenChannel]

/-- The kind with a name, among those that can be decoded on their own. -/
def ofName? (name : String) : Option RecordKind := standalone.find? (·.name = name)

/-- Whether records of the kind keep the bits of their flag sets that have no name. Permissions
are extended often, so the kinds that carry them do. -/
def keepsUnknownBits : RecordKind → Bool
  | .role | .overwrite => true
  | _ => false

/-- Whether a record of the kind may come as its label alone, a string. -/
def acceptsLabel : RecordKind → Bool
  | .activityButton => true
  | _ => false

end RecordKind
end ChatRecords
