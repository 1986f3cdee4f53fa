import ChatRecords.Record.Schema

/-!
# Activities and presences

The fields of these kinds of record, in the order in which they are read and written.
-/

namespace ChatRecords
namespace Catalog

def activityTimestamps : List Field :=
  [.optional "start" .integer, .optional "end" .integer]

def activityEmoji : List Field :=
  [.required "name" .text, .optional "id" .id, .optional "animated" .truth]

def activityParty : List Field :=
  [.optional "id" .text, .optional "size" (.list .integer)]

def activityAssets : List Field :=
  [.optional "large_image" .text, .optional "large_text" .text, .optional "small_image" .text,
   .optional "small_text" .text]

def activitySecrets : List Field :=
  [.optional "join" .text, .optional "spectate" .text, .optional "match" .text]

def activityButton : List Field :=
  [.required "label" .text, .optional "url" .text]

def activity : List Field :=
  [.required "name" .text, .withDefault "type" (.code .activityType) (.code (.number 0)),
   .optional "url" .text, .optional "created_at" .integer,
   .optional "timestamps" (.record .activityTimestamps), .optional "application_id" .id,
   .optional "details" .text, .optional "state" .text, .optional "emoji" (.record .activityEmoji),
   .optional "party" (.record .activityParty), .optional "assets" (.record .activityAssets),
   .optional "secrets" (.record .activitySecrets), .optional "instance" .truth,
   .optional "flags" (.flags .activityFlag),
   .optional "buttons" (.list (.record .activityButton))]

def activityLocation : List Field :=
  [.required "id" .text, .required "kind" (.code .activityLocationKind),
   .required "channel_id" .id, .optional "guild_id" .id]

def activityInstance : List Field :=
  [.required "application_id" .id, .required "instance_id" .text, .required "launch_id" .id,
   .required "location" (.record .activityLocation), .listing "users" .id]

def clientStatus : List Field :=
  [.optional "desktop" (.code .userStatus), .optional "mobile" (.code .userStatus),
   .optional "web" (.code .userStatus)]

def presenceUpdate : List Field :=
  [.required "user" (.record .partialUser), .optional "guild_id" .id,
   .withDefault "status" (.code .userStatus) (.code (.word "offline")),
   .listing "activities" (.record .activity),
   .withDefault "client_status" (.record .clientStatus)
      (.record .clientStatus [("desktop", .null), ("mobile", .null), ("web", .null)])]

def gatewayPresenceUpdate : List Field :=
  [.optional "since" .integer, .listing "activities" (.record .activity),
   .withDefault "status" (.code .userStatus) (.code (.word "online")),
   .withDefault "afk" .truth (.truth false)]

end Catalog
end ChatRecords
