import ChatRecords.Record.Schema

/-!
# Commands, interactions and the answers to them

The fields of these kinds of record, in the order in which they are read and written.
-/

namespace ChatRecords
namespace Catalog

def applicationCommandOptionChoice : List Field :=
  [.required "name" .text, .optional "name_localizations" (.map .text .text),
   .required "value" .choice]

def applicationCommandOption : List Field :=
  [.required "type" (.code .applicationCommandOptionType), .required "name" .text,
   .optional "name_localizations" (.map .text .text), .required "description" .text,
   .optional "description_localizations" (.map .text .text), .optional "required" .truth,
   .optional "choices" (.list (.record .applicationCommandOptionChoice)),
   .optional "options" (.list (.record .applicationCommandOption)),
   .optional "channel_types" (.list (.code .channelType)),
   .optional "min_value" (.union .integer [.real]),
   .optional "max_value" (.union .integer [.real]), .optional "min_length" .integer,
   .optional "max_length" .integer, .optional "autocomplete" .truth]

def applicationCommand : List Field :=
  [.required "id" .id, .withDefault "type" (.code .applicationCommandType) (.code (.number 1)),
   .required "application_id" .id, .optional "guild_id" .id, .required "name" .text,
   .optional "name_localizations" (.map .text .text), .withDefault "description" .text (.text ""),
   .optional "description_localizations" (.map .text .text),
   .optional "options" (.list (.record .applicationCommandOption)),
   .optional "default_member_permissions" (.flags .permission), .optional "dm_permission" .truth,
   .optional "default_permission" .truth, .withDefault "nsfw" .truth (.truth false),
   .optional "integration_types" (.list (.code .applicationIntegrationType)),
   .optional "contexts" (.list (.code .interactionContextType)), .required "version" .id,
   .optional "handler" (.code .entryPointCommandHandlerType)]

def applicationCommandInteractionDataOption : List Field :=
  [.required "name" .text, .required "type" (.code .applicationCommandOptionType),
   .optional "value" (.union .text [.integer, .real, .truth]),
   .optional "options" (.list (.record .applicationCommandInteractionDataOption)),
   .optional "focused" .truth]

def interactionData : List Field :=
  [.optional "id" .id, .optional "name" .text, .optional "type" (.code .applicationCommandType),
   .optional "resolved" (.record .resolvedData),
   .optional "options" (.list (.record .applicationCommandInteractionDataOption)),
   .optional "guild_id" .id, .optional "target_id" .id, .optional "custom_id" .text,
   .optional "component_type" (.code .messageComponentType), .optional "values" (.list .text),
   .optional "components" (.list (.record .messageComponent))]

def interaction : List Field :=
  [.required "id" .id, .required "application_id" .id, .required "type" (.code .interactionType),
   .optional "data" (.record .interactionData), .optional "guild" (.record .guild),
   .optional "guild_id" .id, .optional "channel" (.record .channel), .optional "channel_id" .id,
   .optional "member" (.record .guildMember), .optional "user" (.record .user),
   .required "token" .text, .withDefault "version" .integer (.integer 1),
   .optional "message" (.record .message), .optional "app_permissions" (.flags .permission),
   .optional "locale" .text, .optional "guild_locale" .text,
   .listing "entitlements" (.record .entitlement),
   .withDefault "authorizing_integration_owners" (.map (.code .applicationIntegrationType) .text) (.map []),
   .optional "context" (.code .interactionContextType)]

def interactionResponseData : List Field :=
  [.optional "tts" .truth, .optional "content" .text, .optional "embeds" (.list (.record .embed)),
   .optional "allowed_mentions" (.record .allowedMentions),
   .optional "flags" (.flags .messageFlag),
   .optional "components" (.list (.record .messageComponent)),
   .optional "attachments" (.list (.record .attachment)), .optional "poll" (.record .pollCreate),
   .optional "choices" (.list (.record .applicationCommandOptionChoice)),
   .optional "custom_id" .text, .optional "title" .text]

def interactionResponse : List Field :=
  [.required "type" (.code .interactionResponseType),
   .optional "data" (.record .interactionResponseData)]

def interactionCallbackObject : List Field :=
  [.required "id" .id, .required "type" (.code .interactionType),
   .optional "activity_instance_id" .text, .optional "response_message_id" .id,
   .optional "response_message_loading" .truth, .optional "response_message_ephemeral" .truth]

def interactionActivityInstance : List Field :=
  [.required "id" .text]

def interactionCallbackResource : List Field :=
  [.required "type" (.code .interactionResponseType),
   .optional "activity_instance" (.record .interactionActivityInstance),
   .optional "message" (.record .message)]

def interactionCallbackResponse : List Field :=
  [.required "interaction" (.record .interactionCallbackObject),
   .optional "resource" (.record .interactionCallbackResource)]

end Catalog
end ChatRecords
