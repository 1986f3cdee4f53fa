import ChatRecords.Record.Schema

/-!
# Applications, entitlements and webhooks

The fields of these kinds of record, in the order in which they are read and written.
-/

namespace ChatRecords
namespace Catalog

def installParams : List Field :=
  [.listing "scopes" .text, .flagging "permissions" .permission]

def applicationIntegrationTypeConfig : List Field :=
  [.optional "oauth2_install_params" (.record .installParams)]

def application : List Field :=
  [.required "id" .id, .required "name" .text, .optional "icon" .text,
   .withDefault "description" .text (.text ""), .optional "rpc_origins" (.list .text),
   .withDefault "bot_public" .truth (.truth false),
   .withDefault "bot_require_code_grant" .truth (.truth false), .optional "bot" (.record .user),
   .optional "terms_of_service_url" .text, .optional "privacy_policy_url" .text,
   .optional "owner" (.record .user), .withDefault "summary" .text (.text ""),
   .withDefault "verify_key" .text (.text ""), .optional "team" (.record .team),
   .optional "guild_id" .id, .optional "guild" (.record .guild), .optional "primary_sku_id" .id,
   .optional "slug" .text, .optional "cover_image" .text,
   .optional "flags" (.flags .applicationFlag), .optional "approximate_guild_count" .integer,
   .optional "redirect_uris" (.list .text), .optional "interactions_endpoint_url" .text,
   .optional "role_connections_verification_url" .text, .optional "tags" (.list .text),
   .optional "install_params" (.record .installParams),
   .optional "integration_types_config" (.map (.code .applicationIntegrationType) (.record .applicationIntegrationTypeConfig)),
   .optional "custom_install_url" .text]

def entitlement : List Field :=
  [.required "id" .id, .required "sku_id" .id, .required "application_id" .id,
   .optional "user_id" .id, .required "type" (.code .entitlementType),
   .withDefault "deleted" .truth (.truth false), .optional "starts_at" .moment,
   .optional "ends_at" .moment, .optional "guild_id" .id, .optional "consumed" .truth]

def webhookSourceGuild : List Field :=
  [.required "id" .id, .required "name" .text, .optional "icon" .text]

def webhookSourceChannel : List Field :=
  [.required "id" .id, .optional "name" .text, .optional "type" (.code .channelType)]

def webhook : List Field :=
  [.required "id" .id, .required "type" (.code .webhookType), .optional "guild_id" .id,
   .optional "channel_id" .id, .optional "user" (.record .user), .optional "name" .text,
   .optional "avatar" .text, .optional "token" .text, .optional "application_id" .id,
   .optional "source_guild" (.record .webhookSourceGuild),
   .optional "source_channel" (.record .webhookSourceChannel), .optional "url" .text]

end Catalog
end ChatRecords
