import ChatRecords.Record.Schema

/-!
# Messages and what they carry

The fields of these kinds of record, in the order in which they are read and written.
-/

namespace ChatRecords
namespace Catalog

def attachment : List Field :=
  [.required "id" .id, .required "filename" .text, .optional "title" .text,
   .optional "description" .text, .optional "content_type" .text,
   .withDefault "size" .integer (.integer 0), .required "url" .text,
   .withDefault "proxy_url" .text (.text ""), .optional "height" .integer,
   .optional "width" .integer, .optional "ephemeral" .truth, .optional "duration_secs" .real,
   .optional "waveform" .text, .optional "flags" (.flags .attachmentFlag)]

def channelMention : List Field :=
  [.required "id" .id, .required "guild_id" .id, .required "type" (.code .channelType),
   .required "name" .text]

def allowedMentions : List Field :=
  [.listing "parse" (.code .allowedMentionType), .listing "roles" .id, .listing "users" .id,
   .withDefault "replied_user" .truth (.truth false)]

def messageActivity : List Field :=
  [.required "type" (.code .messageActivityType), .optional "party_id" .text]

def messageCall : List Field :=
  [.listing "participants" .id, .optional "ended_timestamp" .moment]

def roleSubscriptionData : List Field :=
  [.required "role_subscription_listing_id" .id, .required "tier_name" .text,
   .required "total_months_subscribed" .integer, .withDefault "is_renewal" .truth (.truth false)]

def messageReference : List Field :=
  [.withDefault "type" (.code .messageReferenceType) (.code (.number 0)),
   .optional "message_id" .id, .optional "channel_id" .id, .optional "guild_id" .id,
   .optional "fail_if_not_exists" .truth]

def messageInteractionMetadata : List Field :=
  [.required "id" .id, .required "type" (.code .interactionType),
   .required "user" (.record .user),
   .withDefault "authorizing_integration_owners" (.map (.code .applicationIntegrationType) .text) (.map []),
   .optional "original_response_message_id" .id, .optional "interacted_message_id" .id,
   .optional "triggering_interaction_metadata" (.record .messageInteractionMetadata),
   .optional "target_user" (.record .user), .optional "target_message_id" .id]

def messageInteraction : List Field :=
  [.required "id" .id, .required "type" (.code .interactionType), .required "name" .text,
   .required "user" (.record .user), .optional "member" (.record .guildMember)]

def selectOption : List Field :=
  [.required "label" .text, .required "value" .text, .optional "description" .text,
   .optional "emoji" (.record .emoji), .optional "default" .truth]

def selectDefaultValue : List Field :=
  [.required "id" .id, .required "type" .text]

def messageComponent : List Field :=
  [.required "type" (.code .messageComponentType),
   .optional "components" (.list (.record .messageComponent)), .optional "custom_id" .text,
   .optional "style" .integer, .optional "label" .text, .optional "emoji" (.record .emoji),
   .optional "url" .text, .optional "sku_id" .id, .optional "disabled" .truth,
   .optional "options" (.list (.record .selectOption)),
   .optional "channel_types" (.list (.code .channelType)), .optional "placeholder" .text,
   .optional "default_values" (.list (.record .selectDefaultValue)),
   .optional "min_values" .integer, .optional "max_values" .integer,
   .optional "min_length" .integer, .optional "max_length" .integer, .optional "required" .truth,
   .optional "value" .text]

def reactionCountDetails : List Field :=
  [.withDefault "burst" .integer (.integer 0), .withDefault "normal" .integer (.integer 0)]

def reaction : List Field :=
  [.withDefault "count" .integer (.integer 0),
   .withDefault "count_details" (.record .reactionCountDetails)
      (.record .reactionCountDetails [("burst", .integer 0), ("normal", .integer 0)]),
   .withDefault "me" .truth (.truth false), .withDefault "me_burst" .truth (.truth false),
   .required "emoji" (.record .emoji), .listing "burst_colors" .text]

def resolvedData : List Field :=
  [.optional "users" (.map .id (.record .user)),
   .optional "members" (.map .id (.record .guildMember)),
   .optional "roles" (.map .id (.record .role)),
   .optional "channels" (.map .id (.record .channel)),
   .optional "messages" (.map .id (.record .message)),
   .optional "attachments" (.map .id (.record .attachment))]

def snapshotMessage : List Field :=
  [.withDefault "type" .messageType (.messageType .ordinary),
   .withDefault "content" .text (.text ""), .listing "embeds" (.record .embed),
   .listing "attachments" (.record .attachment), .optional "timestamp" .moment,
   .optional "edited_timestamp" .moment, .optional "flags" (.flags .messageFlag),
   .listing "mentions" (.record .user), .listing "mention_roles" .id,
   .optional "stickers" (.list (.record .sticker)),
   .optional "sticker_items" (.list (.record .stickerItem)),
   .optional "components" (.list (.record .messageComponent))]

def messageSnapshot : List Field :=
  [.required "message" (.record .snapshotMessage)]

def message : List Field :=
  [.required "id" .id, .required "channel_id" .id, .required "author" (.record .user),
   .withDefault "content" .text (.text ""), .required "timestamp" .moment,
   .optional "edited_timestamp" .moment, .withDefault "tts" .truth (.truth false),
   .withDefault "mention_everyone" .truth (.truth false), .listing "mentions" (.record .user),
   .listing "mention_roles" .id, .optional "mention_channels" (.list (.record .channelMention)),
   .listing "attachments" (.record .attachment), .listing "embeds" (.record .embed),
   .listing "reactions" (.record .reaction), .optional "nonce" (.union .text [.integer]),
   .withDefault "pinned" .truth (.truth false), .optional "webhook_id" .id,
   .withDefault "type" .messageType (.messageType .ordinary),
   .optional "activity" (.record .messageActivity),
   .optional "application" (.record .application), .optional "application_id" .id,
   .optional "flags" (.flags .messageFlag),
   .optional "message_reference" (.record .messageReference),
   .optional "message_snapshots" (.list (.record .messageSnapshot)),
   .optional "referenced_message" (.record .message),
   .optional "interaction_metadata" (.record .messageInteractionMetadata),
   .optional "interaction" (.record .messageInteraction), .optional "thread" (.record .channel),
   .optional "components" (.list (.record .messageComponent)),
   .optional "sticker_items" (.list (.record .stickerItem)),
   .optional "stickers" (.list (.record .sticker)), .optional "position" .integer,
   .optional "role_subscription_data" (.record .roleSubscriptionData),
   .optional "resolved" (.record .resolvedData), .optional "poll" (.record .poll),
   .optional "call" (.record .messageCall)]

end Catalog
end ChatRecords
