import ChatRecords.Enumeration.Basic

/-!
# Kinds of message

A message is of one kind, which travels as a number. Numbers between those listed are reserved
by the platform.

## Main definitions

* `MessageType`: the kinds.
* `MessageType.value`, `MessageType.ofValue?`: the numbers they travel as.
* `MessageType.deletable`: whether a message of the kind can be deleted.
-/

namespace ChatRecords

/-- The kinds of message. -/
inductive MessageType where
  | ordinary
  | recipientAdd
  | recipientRemove
  | call
  | channelNameChange
  | channelIconChange
  | channelPinnedMessage
  | userJoin
  | guildBoost
  | guildBoostTier1
  | guildBoostTier2
  | guildBoostTier3
  | channelFollowAdd
  | guildDiscoveryDisqualified
  | guildDiscoveryRequalified
  | guildDiscoveryGracePeriodInitialWarning
  | guildDiscoveryGracePeriodFinalWarning
  | threadCreated
  | reply
  | chatInputCommand
  | threadStarterMessage
  | guildInviteReminder
  | contextMenuCommand
  | autoModerationAction
  | roleSubscriptionPurchase
  | interactionPremiumUpsell
  | stageStart
  | stageEnd
  | stageSpeaker
  | stageTopic
  | guildApplicationPremiumSubscription
  | guildIncidentAlertModeEnabled
  | guildIncidentAlertModeDisabled
  | guildIncidentReportRaid
  | guildIncidentReportFalseAlarm
  | purchaseNotification
deriving DecidableEq

namespace MessageType

/-- All kinds, in the order of their numbers. -/
def all : List MessageType :=
  [.ordinary, .recipientAdd, .recipientRemove, .call, .channelNameChange, .channelIconChange,
   .channelPinnedMessage, .userJoin, .guildBoost, .guildBoostTier1, .guildBoostTier2,
   .guildBoostTier3, .channelFollowAdd, .guildDiscoveryDisqualified, .guildDiscoveryRequalified,
   .guildDiscoveryGracePeriodInitialWarning, .guildDiscoveryGracePeriodFinalWarning,
   .threadCreated, .reply, .chatInputCommand, .threadStarterMessage, .guildInviteReminder,
   .contextMenuCommand, .autoModerationAction, .roleSubscriptionPurchase,
   .interactionPremiumUpsell, .stageStart, .stageEnd, .stageSpeaker, .stageTopic,
   .guildApplicationPremiumSubscription, .guildIncidentAlertModeEnabled,
   .guildIncidentAlertModeDisabled, .guildIncidentReportRaid, .guildIncidentReportFalseAlarm,
   .purchaseNotification]

def value : MessageType → Int
  | .ordinary => 0
  | .recipientAdd => 1
  | .recipientRemove => 2
  | .call => 3
  | .channelNameChange => 4
  | .channelIconChange => 5
  | .channelPinnedMessage => 6
  | .userJoin => 7
  | .guildBoost => 8
  | .guildBoostTier1 => 9
  | .guildBoostTier2 => 10
  | .guildBoostTier3 => 11
  | .channelFollowAdd => 12
  | .guildDiscoveryDisqualified => 14
  | .guildDiscoveryRequalified => 15
  | .guildDiscoveryGracePeriodInitialWarning => 16
  | .guildDiscoveryGracePeriodFinalWarning => 17
  | .threadCreated => 18
  | .reply => 19
  | .chatInputCommand => 20
  | .threadStarterMessage => 21
  | .guildInviteReminder => 22
  | .contextMenuCommand => 23
  | .autoModerationAction => 24
  | .roleSubscriptionPurchase => 25
  | .interactionPremiumUpsell => 26
  | .stageStart => 27
  | .stageEnd => 28
  | .stageSpeaker => 29
  | .stageTopic => 31
  | .guildApplicationPremiumSubscription => 32
  | .guildIncidentAlertModeEnabled => 36
  | .guildIncidentAlertModeDisabled => 37
  | .guildIncidentReportRaid => 38
  | .guildIncidentReportFalseAlarm => 39
  | .purchaseNotification => 44

def name : MessageType → String
  | .ordinary => "DEFAULT"
  | .recipientAdd => "RECIPIENT_ADD"
  | .recipientRemove => "RECIPIENT_REMOVE"
  | .call => "CALL"
  | .channelNameChange => "CHANNEL_NAME_CHANGE"
  | .channelIconChange => "CHANNEL_ICON_CHANGE"
  | .channelPinnedMessage => "CHANNEL_PINNED_MESSAGE"
  | .userJoin => "USER_JOIN"
  | .guildBoost => "GUILD_BOOST"
  | .guildBoostTier1 => "GUILD_BOOST_TIER_1"
  | .guildBoostTier2 => "GUILD_BOOST_TIER_2"
  | .guildBoostTier3 => "GUILD_BOOST_TIER_3"
  | .channelFollowAdd => "CHANNEL_FOLLOW_ADD"
  | .guildDiscoveryDisqualified => "GUILD_DISCOVERY_DISQUALIFIED"
  | .guildDiscoveryRequalified => "GUILD_DISCOVERY_REQUALIFIED"
  | .guildDiscoveryGracePeriodInitialWarning => "GUILD_DISCOVERY_GRACE_PERIOD_INITIAL_WARNING"
  | .guildDiscoveryGracePeriodFinalWarning => "GUILD_DISCOVERY_GRACE_PERIOD_FINAL_WARNING"
  | .threadCreated => "THREAD_CREATED"
  | .reply => "REPLY"
  | .chatInputCommand => "CHAT_INPUT_COMMAND"
  | .threadStarterMessage => "THREAD_STARTER_MESSAGE"
  | .guildInviteReminder => "GUILD_INVITE_REMINDER"
  | .contextMenuCommand => "CONTEXT_MENU_COMMAND"
  | .autoModerationAction => "AUTO_MODERATION_ACTION"
  | .roleSubscriptionPurchase => "ROLE_SUBSCRIPTION_PURCHASE"
  | .interactionPremiumUpsell => "INTERACTION_PREMIUM_UPSELL"
  | .stageStart => "STAGE_START"
  | .stageEnd => "STAGE_END"
  | .stageSpeaker => "STAGE_SPEAKER"
  | .stageTopic => "STAGE_TOPIC"
  | .guildApplicationPremiumSubscription => "GUILD_APPLICATION_PREMIUM_SUBSCRIPTION"
  | .guildIncidentAlertModeEnabled => "GUILD_INCIDENT_ALERT_MODE_ENABLED"
  | .guildIncidentAlertModeDisabled => "GUILD_INCIDENT_ALERT_MODE_DISABLED"
  | .guildIncidentReportRaid => "GUILD_INCIDENT_REPORT_RAID"
  | .guildIncidentReportFalseAlarm => "GUILD_INCIDENT_REPORT_FALSE_ALARM"
  | .purchaseNotification => "PURCHASE_NOTIFICATION"

def ofValue? (n : Int) : Option MessageType := all.find? (·.value = n)

/-- Whether a message of the kind can be deleted. -/
def deletable : MessageType → Bool
  | .recipientAdd | .recipientRemove | .call | .channelNameChange | .channelIconChange
  | .threadStarterMessage => false
  | _ => true

def enumeration : Enumeration := Enumeration.ofNumbers "MessageType" (all.map fun t => (t.name, t.value))

/-- The kind with its name and its number. -/
def display (t : MessageType) : String :=
  "<MessageType." ++ t.name ++ ": " ++ toString t.value ++ ">"

theorem mem_all (t : MessageType) : t ∈ all := by cases t <;> decide

/-- The number of a kind leads back to it. -/
theorem ofValue?_value (t : MessageType) : ofValue? t.value = some t := by cases t <;> rfl

end MessageType
end ChatRecords
