import ChatRecords.Record.Schema

/-!
# Scheduled events, stages, voice and invites

The fields of these kinds of record, in the order in which they are read and written.
-/

namespace ChatRecords
namespace Catalog

def recurrenceRuleNWeekday : List Field :=
  [.required "n" .integer, .required "day" (.code .recurrenceRuleWeekday)]

def guildScheduledEventRecurrenceRule : List Field :=
  [.required "start" .moment, .optional "end" .moment,
   .required "frequency" (.code .recurrenceRuleFrequency),
   .withDefault "interval" .integer (.integer 1),
   .optional "by_weekday" (.list (.code .recurrenceRuleWeekday)),
   .optional "by_n_weekday" (.list (.record .recurrenceRuleNWeekday)),
   .optional "by_month" (.list (.code .recurrenceRuleMonth)),
   .optional "by_month_day" (.list .integer), .optional "by_year_day" (.list .integer),
   .optional "count" .integer]

def guildScheduledEventMetadata : List Field :=
  [.optional "location" .text]

def guildScheduledEvent : List Field :=
  [.required "id" .id, .required "guild_id" .id, .optional "channel_id" .id,
   .optional "creator_id" .id, .required "name" .text, .optional "description" .text,
   .required "scheduled_start_time" .moment, .optional "scheduled_end_time" .moment,
   .withDefault "privacy_level" (.code .guildScheduledEventPrivacyLevel) (.code (.number 2)),
   .required "status" (.code .guildScheduledEventStatus),
   .required "entity_type" (.code .guildScheduledEventEntityType), .optional "entity_id" .id,
   .optional "entity_metadata" (.record .guildScheduledEventMetadata),
   .optional "creator" (.record .user), .optional "user_count" .integer, .optional "image" .text,
   .optional "recurrence_rule" (.record .guildScheduledEventRecurrenceRule)]

def stageInstance : List Field :=
  [.required "id" .id, .required "guild_id" .id, .required "channel_id" .id,
   .required "topic" .text,
   .withDefault "privacy_level" (.code .stageInstancePrivacyLevel) (.code (.number 2)),
   .withDefault "discoverable_disabled" .truth (.truth false),
   .optional "guild_scheduled_event_id" .id]

def voiceState : List Field :=
  [.optional "guild_id" .id, .optional "channel_id" .id, .required "user_id" .id,
   .optional "member" (.record .guildMember), .required "session_id" .text,
   .withDefault "deaf" .truth (.truth false), .withDefault "mute" .truth (.truth false),
   .withDefault "self_deaf" .truth (.truth false), .withDefault "self_mute" .truth (.truth false),
   .optional "self_stream" .truth, .withDefault "self_video" .truth (.truth false),
   .withDefault "suppress" .truth (.truth false), .optional "request_to_speak_timestamp" .moment]

def voiceRegion : List Field :=
  [.required "id" .text, .required "name" .text, .withDefault "optimal" .truth (.truth false),
   .withDefault "deprecated" .truth (.truth false), .withDefault "custom" .truth (.truth false)]

def inviteGuild : List Field :=
  [.required "id" .id, .required "name" .text, .optional "splash" .text, .optional "banner" .text,
   .optional "description" .text, .optional "icon" .text, .listing "features" .text,
   .optional "verification_level" (.code .verificationLevel), .optional "vanity_url_code" .text,
   .optional "nsfw_level" (.code .nsfwLevel), .optional "premium_subscription_count" .integer]

def inviteStageInstance : List Field :=
  [.listing "members" (.record .guildMember),
   .withDefault "participant_count" .integer (.integer 0),
   .withDefault "speaker_count" .integer (.integer 0), .withDefault "topic" .text (.text "")]

def invite : List Field :=
  [.withDefault "type" (.code .inviteType) (.code (.number 0)), .required "code" .text,
   .optional "guild" (.record .inviteGuild), .optional "channel" (.record .channel),
   .optional "inviter" (.record .user), .optional "target_type" (.code .inviteTargetType),
   .optional "target_user" (.record .user), .optional "target_application" (.record .application),
   .optional "approximate_presence_count" .integer, .optional "approximate_member_count" .integer,
   .optional "expires_at" .moment, .optional "stage_instance" (.record .inviteStageInstance),
   .optional "guild_scheduled_event" (.record .guildScheduledEvent)]

end Catalog
end ChatRecords
