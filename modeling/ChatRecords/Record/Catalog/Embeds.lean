import ChatRecords.Record.Schema

/-!
# Embeds and polls

The fields of these kinds of record, in the order in which they are read and written.
-/

namespace ChatRecords
namespace Catalog

def embedFooter : List Field :=
  [.required "text" .text, .optional "icon_url" .text, .optional "proxy_icon_url" .text]

def embedImage : List Field :=
  [.required "url" .text, .optional "proxy_url" .text, .optional "height" .integer,
   .optional "width" .integer]

def embedThumbnail : List Field :=
  [.required "url" .text, .optional "proxy_url" .text, .optional "height" .integer,
   .optional "width" .integer]

def embedVideo : List Field :=
  [.optional "url" .text, .optional "proxy_url" .text, .optional "height" .integer,
   .optional "width" .integer]

def embedProvider : List Field :=
  [.optional "name" .text, .optional "url" .text]

def embedAuthor : List Field :=
  [.required "name" .text, .optional "url" .text, .optional "icon_url" .text,
   .optional "proxy_icon_url" .text]

def embedField : List Field :=
  [.required "name" .text, .required "value" .text, .optional "inline" .truth]

def embed : List Field :=
  [.optional "title" .text, .optional "type" (.code .embedType), .optional "description" .text,
   .optional "url" .text, .optional "timestamp" .moment, .optional "color" .integer,
   .optional "footer" (.record .embedFooter), .optional "image" (.record .embedImage),
   .optional "thumbnail" (.record .embedThumbnail), .optional "video" (.record .embedVideo),
   .optional "provider" (.record .embedProvider), .optional "author" (.record .embedAuthor),
   .listing "fields" (.record .embedField)]

def pollMedia : List Field :=
  [.optional "text" .text, .optional "emoji" (.record .emoji)]

def pollAnswer : List Field :=
  [.optional "answer_id" .integer, .required "poll_media" (.record .pollMedia)]

def pollAnswerCount : List Field :=
  [.required "id" .integer, .withDefault "count" .integer (.integer 0),
   .withDefault "me_voted" .truth (.truth false)]

def pollResults : List Field :=
  [.withDefault "is_finalized" .truth (.truth false),
   .listing "answer_counts" (.record .pollAnswerCount)]

def poll : List Field :=
  [.required "question" (.record .pollMedia), .listing "answers" (.record .pollAnswer),
   .optional "expiry" .moment, .withDefault "allow_multiselect" .truth (.truth false),
   .withDefault "layout_type" (.code .pollLayoutType) (.code (.number 1)),
   .optional "results" (.record .pollResults)]

def pollCreate : List Field :=
  [.required "question" (.record .pollMedia), .listing "answers" (.record .pollAnswer),
   .optional "duration" .integer, .optional "allow_multiselect" .truth,
   .optional "layout_type" (.code .pollLayoutType)]

end Catalog
end ChatRecords
