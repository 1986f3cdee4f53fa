import ChatRecords.Record.Catalog.Applications
import ChatRecords.Record.Catalog.Channels
import ChatRecords.Record.Catalog.Embeds
import ChatRecords.Record.Catalog.Events
import ChatRecords.Record.Catalog.Guilds
import ChatRecords.Record.Catalog.Interactions
import ChatRecords.Record.Catalog.Messages
import ChatRecords.Record.Catalog.Moderation
import ChatRecords.Record.Catalog.Presence
import ChatRecords.Record.Catalog.Users

/-!
# The fields of every kind of record

## Main definitions

* `RecordKind.fields`: the fields of a kind.
-/

namespace ChatRecords

/-- The fields of a kind of record, in the order in which they are read and written. -/
def RecordKind.fields : RecordKind → List Field
  | .avatarDecorationData => Catalog.avatarDecorationData
  | .user => Catalog.user
  | .partialUser => Catalog.partialUser
  | .emoji => Catalog.emoji
  | .roleTags => Catalog.roleTags
  | .role => Catalog.role
  | .guildMember => Catalog.guildMember
  | .teamMember => Catalog.teamMember
  | .team => Catalog.team
  | .sticker => Catalog.sticker
  | .stickerItem => Catalog.stickerItem
  | .welcomeScreenChannel => Catalog.welcomeScreenChannel
  | .welcomeScreen => Catalog.welcomeScreen
  | .integrationAccount => Catalog.integrationAccount
  | .integrationApplication => Catalog.integrationApplication
  | .integration => Catalog.integration
  | .guild => Catalog.guild
  | .installParams => Catalog.installParams
  | .applicationIntegrationTypeConfig => Catalog.applicationIntegrationTypeConfig
  | .application => Catalog.application
  | .overwrite => Catalog.overwrite
  | .threadMetadata => Catalog.threadMetadata
  | .threadMember => Catalog.threadMember
  | .forumTag => Catalog.forumTag
  | .defaultReaction => Catalog.defaultReaction
  | .channel => Catalog.channel
  | .embedFooter => Catalog.embedFooter
  | .embedImage => Catalog.embedImage
  | .embedThumbnail => Catalog.embedThumbnail
  | .embedVideo => Catalog.embedVideo
  | .embedProvider => Catalog.embedProvider
  | .embedAuthor => Catalog.embedAuthor
  | .embedField => Catalog.embedField
  | .embed => Catalog.embed
  | .pollMedia => Catalog.pollMedia
  | .pollAnswer => Catalog.pollAnswer
  | .pollAnswerCount => Catalog.pollAnswerCount
  | .pollResults => Catalog.pollResults
  | .poll => Catalog.poll
  | .pollCreate => Catalog.pollCreate
  | .activityTimestamps => Catalog.activityTimestamps
  | .activityEmoji => Catalog.activityEmoji
  | .activityParty => Catalog.activityParty
  | .activityAssets => Catalog.activityAssets
  | .activitySecrets => Catalog.activitySecrets
  | .activityButton => Catalog.activityButton
  | .activity => Catalog.activity
  | .activityLocation => Catalog.activityLocation
  | .activityInstance => Catalog.activityInstance
  | .clientStatus => Catalog.clientStatus
  | .presenceUpdate => Catalog.presenceUpdate
  | .gatewayPresenceUpdate => Catalog.gatewayPresenceUpdate
  | .attachment => Catalog.attachment
  | .channelMention => Catalog.channelMention
  | .allowedMentions => Catalog.allowedMentions
  | .messageActivity => Catalog.messageActivity
  | .messageCall => Catalog.messageCall
  | .roleSubscriptionData => Catalog.roleSubscriptionData
  | .messageReference => Catalog.messageReference
  | .messageInteractionMetadata => Catalog.messageInteractionMetadata
  | .messageInteraction => Catalog.messageInteraction
  | .selectOption => Catalog.selectOption
  | .selectDefaultValue => Catalog.selectDefaultValue
  | .messageComponent => Catalog.messageComponent
  | .reactionCountDetails => Catalog.reactionCountDetails
  | .reaction => Catalog.reaction
  | .resolvedData => Catalog.resolvedData
  | .snapshotMessage => Catalog.snapshotMessage
  | .messageSnapshot => Catalog.messageSnapshot
  | .message => Catalog.message
  | .applicationCommandOptionChoice => Catalog.applicationCommandOptionChoice
  | .applicationCommandOption => Catalog.applicationCommandOption
  | .applicationCommand => Catalog.applicationCommand
  | .entitlement => Catalog.entitlement
  | .applicationCommandInteractionDataOption => Catalog.applicationCommandInteractionDataOption
  | .interactionData => Catalog.interactionData
  | .interaction => Catalog.interaction
  | .interactionResponseData => Catalog.interactionResponseData
  | .interactionResponse => Catalog.interactionResponse
  | .interactionCallbackObject => Catalog.interactionCallbackObject
  | .interactionActivityInstance => Catalog.interactionActivityInstance
  | .interactionCallbackResource => Catalog.interactionCallbackResource
  | .interactionCallbackResponse => Catalog.interactionCallbackResponse
  | .autoModerationTriggerMetadata => Catalog.autoModerationTriggerMetadata
  | .autoModerationActionMetadata => Catalog.autoModerationActionMetadata
  | .autoModerationAction => Catalog.autoModerationAction
  | .autoModerationRule => Catalog.autoModerationRule
  | .recurrenceRuleNWeekday => Catalog.recurrenceRuleNWeekday
  | .guildScheduledEventRecurrenceRule => Catalog.guildScheduledEventRecurrenceRule
  | .guildScheduledEventMetadata => Catalog.guildScheduledEventMetadata
  | .guildScheduledEvent => Catalog.guildScheduledEvent
  | .stageInstance => Catalog.stageInstance
  | .voiceState => Catalog.voiceState
  | .voiceRegion => Catalog.voiceRegion
  | .webhookSourceGuild => Catalog.webhookSourceGuild
  | .webhookSourceChannel => Catalog.webhookSourceChannel
  | .webhook => Catalog.webhook
  | .auditLogChange => Catalog.auditLogChange
  | .optionalAuditEntryInfo => Catalog.optionalAuditEntryInfo
  | .auditLogEntry => Catalog.auditLogEntry
  | .auditLog => Catalog.auditLog
  | .inviteGuild => Catalog.inviteGuild
  | .inviteStageInstance => Catalog.inviteStageInstance
  | .invite => Catalog.invite
  | .server => Catalog.server

end ChatRecords
