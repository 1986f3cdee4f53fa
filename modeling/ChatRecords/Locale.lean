/-!
# Locales

The languages that a client can be set to.

## Main definitions

* `Locale`: a locale.
* `Locale.all`, `Locale.find?`: the table, and the locale with a code.
-/

namespace ChatRecords

/-- A language that a client can be set to. -/
structure Locale where
  code : String
  /-- The name of the language in English. -/
  languageName : String
  /-- The name of the language in itself. -/
  nativeName : String
deriving DecidableEq

namespace Locale

def all : List Locale :=
  [⟨"id", "Indonesian", "Bahasa Indonesia"⟩,
   ⟨"da", "Danish", "Dansk"⟩,
   ⟨"de", "German", "Deutsch"⟩,
   ⟨"en-GB", "English, UK", "English, UK"⟩,
   ⟨"en-US", "English, US", "English, US"⟩,
   ⟨"es-ES", "Spanish", "Español"⟩,
   ⟨"es-419", "Spanish, LATAM", "Español, LATAM"⟩,
   ⟨"fr", "French", "Français"⟩,
   ⟨"hr", "Croatian", "Hrvatski"⟩,
   ⟨"it", "Italian", "Italiano"⟩,
   ⟨"lt", "Lithuanian", "Lietuviškai"⟩,
   ⟨"hu", "Hungarian", "Magyar"⟩,
   ⟨"nl", "Dutch", "Nederlands"⟩,
   ⟨"no", "Norwegian", "Norsk"⟩,
   ⟨"pl", "Polish", "Polski"⟩,
   ⟨"pt-BR", "Portuguese, Brazilian", "Português do Brasil"⟩,
   ⟨"ro", "Romanian, Romania", "Română"⟩,
   ⟨"fi", "Finnish", "Suomi"⟩,
   ⟨"sv-SE", "Swedish", "Svenska"⟩,
   ⟨"vi", "Vietnamese", "Tiếng Việt"⟩,
   ⟨"tr", "Turkish", "Türkçe"⟩,
   ⟨"cs", "Czech", "Čeština"⟩,
   ⟨"el", "Greek", "Ελληνικά"⟩,
   ⟨"bg", "Bulgarian", "български"⟩,
   ⟨"ru", "Russian", "Русский"⟩,
   ⟨"uk", "Ukrainian", "Українська"⟩,
   ⟨"hi", "Hindi", "हिन्दी"⟩,
   ⟨"th", "Thai", "ไทย"⟩,
   ⟨"zh-CN", "Chinese, China", "中文"⟩,
   ⟨"ja", "Japanese", "日本語"⟩,
   ⟨"zh-TW", "Chinese, Taiwan", "繁體中文"⟩,
   ⟨"ko", "Korean", "한국어"⟩]

def find? (code : String) : Option Locale := all.find? (·.code = code)

end Locale
end ChatRecords
