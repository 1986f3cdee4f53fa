import ChatRecords.Record.Schema

/-!
# Auto-moderation and audit logs

The fields of these kinds of record, in the order in which they are read and written.
-/

namespace ChatRecords
namespace Catalog

def autoModerationTriggerMetadata : List Field :=
  [.optional "keyword_filter" (.list .text), .optional "regex_patterns" (.list .text),
   .optional "presets" (.list (.code .keywordPresetType)), .optional "allow_list" (.list .text),
   .optional "mention_total_limit" .integer, .optional "mention_raid_protection_enabled" .truth]

def autoModerationActionMetadata : List Field :=
  [.optional "channel_id" .id, .optional "duration_seconds" .integer,
   .optional "custom_message" .text]

def autoModerationAction : List Field :=
  [.required "type" (.code .autoModerationActionType),
   .optional "metadata" (.record .autoModerationActionMetadata)]

def autoModerationRule : List Field :=
  [.required "id" .id, .required "guild_id" .id, .required "name" .text,
   .required "creator_id" .id, .required "event_type" (.code .autoModerationEventType),
   .required "trigger_type" (.code .autoModerationTriggerType),
   .withDefault "trigger_metadata" (.record .autoModerationTriggerMetadata)
      (.record .autoModerationTriggerMetadata [("keyword_filter", .null), ("regex_patterns", .null), ("presets", .null), ("allow_list", .null), ("mention_total_limit", .null), ("mention_raid_protection_enabled", .null)]),
   .listing "actions" (.record .autoModerationAction),
   .withDefault "enabled" .truth (.truth false), .listing "exempt_roles" .id,
   .listing "exempt_channels" .id]

def auditLogChange : List Field :=
  [.required "key" .text, .optional "new_value" .any, .optional "old_value" .any]

def optionalAuditEntryInfo : List Field :=
  [.optional "application_id" .id, .optional "auto_moderation_rule_name" .text,
   .optional "auto_moderation_rule_trigger_type" .text, .optional "channel_id" .id,
   .optional "count" .text, .optional "delete_member_days" .text, .optional "id" .id,
   .optional "members_removed" .text, .optional "message_id" .id, .optional "role_name" .text,
   .optional "type" .text, .optional "integration_type" .text]

def auditLogEntry : List Field :=
  [.optional "target_id" .text, .optional "changes" (.list (.record .auditLogChange)),
   .optional "user_id" .id, .required "id" .id, .required "action_type" (.code .auditLogEvent),
   .optional "options" (.record .optionalAuditEntryInfo), .optional "reason" .text]

def auditLog : List Field :=
  [.listing "application_commands" (.record .applicationCommand),
   .listing "audit_log_entries" (.record .auditLogEntry),
   .listing "auto_moderation_rules" (.record .autoModerationRule),
   .listing "guild_scheduled_events" (.record .guildScheduledEvent),
   .listing "integrations" (.record .integration), .listing "threads" (.record .channel),
   .listing "users" (.record .user), .listing "webhooks" (.record .webhook)]

end Catalog
end ChatRecords
