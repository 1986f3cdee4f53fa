import ChatRecords.Double.Notation
import ChatRecords.Json.Basic

/-!
# Writing JSON text

One value has one compact text, and one text for each width of indentation. Reals are
written with the fewest digits that read back and always with a point or an exponent, so
that they stay apart from integers; those that are not finite become `null`.

## Main definitions

* `Json.realLayout`: how reals are written.
* `Json.write`: the text of a value, compact or indented.
* `Json.enclose`: the text of a container, from the texts of its parts.
-/

namespace ChatRecords
namespace Json

/-- Reals are positional for exponents from -5 to 15, an exponent is not padded, and only
finite numbers have a text. -/
def realLayout : RealLayout := ⟨-5, 15, 1, "null", "null", "null"⟩

/-- The lower-case hexadecimal digit of a number below sixteen. -/
def hexDigit (n : Nat) : Char := Nat.digitChar n

def writeChar (c : Char) : List Char :=
  if c = '"' then ['\\', '"']
  else if c = '\\' then ['\\', '\\']
  else if c = '\x08' then ['\\', 'b']
  else if c = '\x0c' then ['\\', 'f']
  else if c = '\n' then ['\\', 'n']
  else if c = '\r' then ['\\', 'r']
  else if c = '\t' then ['\\', 't']
  else if c < ' ' then ['\\', 'u', '0', '0', hexDigit (c.toNat / 16), hexDigit (c.toNat % 16)]
  else [c]

def writeString (s : String) : List Char := '"' :: (s.toList.flatMap writeChar ++ ['"'])

/-- What stands before an item at a level of nesting: nothing in compact text, else a new line
and the indentation. -/
def lineBreak (indent : Option Nat) (level : Nat) : List Char :=
  match indent with
  | none => []
  | some width => '\n' :: List.replicate (width * level) ' '

/-- What stands between a key and its value. -/
def colon (indent : Option Nat) : List Char := if indent.isSome then [':', ' '] else [':']

mutual

/-- The text of a value that stands at a level of nesting. -/
def writeAt (indent : Option Nat) (level : Nat) : Json → List Char
  | .null => ['n', 'u', 'l', 'l']
  | .bool true => ['t', 'r', 'u', 'e']
  | .bool false => ['f', 'a', 'l', 's', 'e']
  | .integer n => (toString n).toList
  | .real x => (x.render realLayout).toList
  | .string s => writeString s
  | .array [] => ['[', ']']
  | .array (v :: rest) =>
    '[' :: (lineBreak indent (level + 1) ++ writeAt indent (level + 1) v ++
      writeItems indent (level + 1) rest ++ lineBreak indent level ++ [']'])
  | .object [] => ['{', '}']
  | .object ((k, v) :: rest) =>
    '{' :: (lineBreak indent (level + 1) ++ writeString k ++ colon indent ++
      writeAt indent (level + 1) v ++ writeEntries indent (level + 1) rest ++
      lineBreak indent level ++ ['}'])

/-- The items of an array after its first. -/
def writeItems (indent : Option Nat) (level : Nat) : List Json → List Char
  | [] => []
  | v :: rest =>
    ',' :: (lineBreak indent level ++ writeAt indent level v ++ writeItems indent level rest)

/-- The entries of an object after its first. -/
def writeEntries (indent : Option Nat) (level : Nat) : List (String × Json) → List Char
  | [] => []
  | (k, v) :: rest =>
    ',' :: (lineBreak indent level ++ writeString k ++ colon indent ++ writeAt indent level v ++
      writeEntries indent level rest)

end

/-- The text of a value: compact, or indented by a number of spaces for each level. -/
def write (indent : Option Nat) (v : Json) : String := String.ofList (writeAt indent 0 v)

/-! ## Texts of parts -/

/-- The text of a container that stands at a level of nesting, with the texts of its parts between
the two characters around it. -/
def enclose (indent : Option Nat) (level : Nat) (first last : Char) : List (List Char) → List Char
  | [] => [first, last]
  | text :: rest =>
    first :: (lineBreak indent (level + 1) ++ text ++
      (rest.flatMap fun text => ',' :: (lineBreak indent (level + 1) ++ text)) ++
      lineBreak indent level ++ [last])

/-- The text of an entry whose value has a text. -/
def writeEntry (indent : Option Nat) (key : String) (text : List Char) : List Char :=
  writeString key ++ colon indent ++ text

end Json
end ChatRecords
