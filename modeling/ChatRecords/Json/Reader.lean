import ChatRecords.Json.Basic
import ChatRecords.Text.Digit

/-!
# Reading JSON text

The grammar is that of the JSON standard with three additions, `NaN`, `Infinity` and
`-Infinity`, and three limits: on the depth of nesting, on the digits of an integer, and no
escape may name half of a surrogate pair.

## Main definitions

* `Json.Reader.value`: reads one value off the front of a text.
* `Json.read`: reads a whole text as one value.

## Design notes

Each function takes the text that is left and returns what it read and what is left after
it. The fuel of the mutual functions is twice the length of the text, which no reading
exhausts: two calls never come without a character consumed between them.
-/

namespace ChatRecords
namespace Json
namespace Reader

/-- The four characters that may stand between tokens. -/
def isSpace (c : Char) : Bool := c = ' ' || c = '\t' || c = '\n' || c = '\r'

/-- The text after the white space at its front. -/
def skip (cs : List Char) : List Char := cs.dropWhile isSpace

/-- The text after the word at its front. -/
def word? (word : String) (cs : List Char) : Option (List Char) :=
  if word.toList.isPrefixOf cs then some (cs.drop word.length) else none

def hexDigit? (c : Char) : Option Nat :=
  if '0' ≤ c ∧ c ≤ '9' then some (c.toNat - 48)
  else if 'a' ≤ c ∧ c ≤ 'f' then some (c.toNat - 87)
  else if 'A' ≤ c ∧ c ≤ 'F' then some (c.toNat - 55)
  else none

def hex4? (a b c d : Char) : Option Nat := do
  let a ← hexDigit? a
  let b ← hexDigit? b
  let c ← hexDigit? c
  let d ← hexDigit? d
  pure (((a * 16 + b) * 16 + c) * 16 + d)

/-- The character that a one-letter escape stands for. -/
def escape? : Char → Option Char
  | '"' => some '"'
  | '\\' => some '\\'
  | '/' => some '/'
  | 'b' => some '\x08'
  | 'f' => some '\x0c'
  | 'n' => some '\n'
  | 'r' => some '\r'
  | 't' => some '\t'
  | _ => none

/-- The characters of a string up to its closing quote, and what follows the quote. -/
def stringBody : List Char → Option (List Char × List Char)
  | [] => none
  | '"' :: rest => some ([], rest)
  | '\\' :: 'u' :: a :: b :: c :: d :: rest =>
    match hex4? a b c d with
    | none => none
    | some n =>
      if n < 0xD800 ∨ 0xE000 ≤ n then
        (stringBody rest).map fun r => (Char.ofNat n :: r.1, r.2)
      else if n < 0xDC00 then
        match rest with
        | '\\' :: 'u' :: a :: b :: c :: d :: rest =>
          match hex4? a b c d with
          | none => none
          | some m =>
            if 0xDC00 ≤ m ∧ m < 0xE000 then
              (stringBody rest).map fun r =>
                (Char.ofNat (0x10000 + (n - 0xD800) * 0x400 + (m - 0xDC00)) :: r.1, r.2)
            else none
        | _ => none
      else none
  | '\\' :: c :: rest =>
    match escape? c with
    | some e => (stringBody rest).map fun r => (e :: r.1, r.2)
    | none => none
  | c :: rest => if c < ' ' then none else (stringBody rest).map fun r => (c :: r.1, r.2)

/-- The digits at the front of a text and what follows them. -/
def digits (cs : List Char) : List Char × List Char :=
  (cs.takeWhile Text.isAsciiDigit, cs.dropWhile Text.isAsciiDigit)

/-- The whole part of a number: one zero, or digits that do not begin with one. -/
def wholePart (cs : List Char) : Option (List Char × List Char) :=
  match digits cs with
  | ([], _) => none
  | (['0'], rest) => some (['0'], rest)
  | ('0' :: _, _) => none
  | r => some r

/-- The digits after the point, if there is a point. -/
def fraction : List Char → Option (Option (List Char) × List Char)
  | '.' :: rest =>
    match digits rest with
    | ([], _) => none
    | (ds, rest) => some (some ds, rest)
  | cs => some (none, cs)

/-- The digits of an exponent after its letter and sign. -/
def exponentDigits (cs : List Char) : Option (Nat × List Char) :=
  match digits cs with
  | ([], _) => none
  | (ds, rest) => some (Text.natOfDigits ds, rest)

def exponent : List Char → Option (Option Int × List Char)
  | c :: rest =>
    if c = 'e' ∨ c = 'E' then
      match rest with
      | '-' :: rest => (exponentDigits rest).map fun r => (some (-(r.1 : Int)), r.2)
      | '+' :: rest => (exponentDigits rest).map fun r => (some (r.1 : Int), r.2)
      | rest => (exponentDigits rest).map fun r => (some (r.1 : Int), r.2)
    else some (none, c :: rest)
  | [] => some (none, [])

/-- A number after its sign. A whole part longer than `Text.digitLimit` is refused. -/
def unsigned (negative : Bool) (cs : List Char) : Option (Json × List Char) := do
  let (whole, rest) ← wholePart cs
  if Text.digitLimit < whole.length then none
  else
    let (fraction, rest) ← fraction rest
    let (exponent, rest) ← exponent rest
    match fraction, exponent with
    | none, none =>
      let n : Int := Text.natOfDigits whole
      pure (.integer (if negative then -n else n), rest)
    | _, _ =>
      let ds := whole ++ fraction.getD []
      let d : Decimal := ⟨Text.natOfDigits ds, exponent.getD 0 - (fraction.getD []).length⟩
      pure (.real (Double.ofDecimal negative d), rest)

def number : List Char → Option (Json × List Char)
  | '-' :: rest =>
    match word? "Infinity" rest with
    | some rest => some (.real (.infinite true), rest)
    | none => unsigned true rest
  | cs => unsigned false cs

/-- A value that is neither a string nor a container. -/
def atom (cs : List Char) : Option (Json × List Char) :=
  match word? "null" cs with
  | some rest => some (.null, rest)
  | none =>
    match word? "true" cs with
    | some rest => some (.bool true, rest)
    | none =>
      match word? "false" cs with
      | some rest => some (.bool false, rest)
      | none =>
        match word? "NaN" cs with
        | some rest => some (.real .nan, rest)
        | none =>
          match word? "Infinity" cs with
          | some rest => some (.real (.infinite false), rest)
          | none => number cs

mutual

/-- One value, with at most `depth` containers around any part of it. A container without
content is no level of its own. -/
def value : (fuel depth : Nat) → List Char → Option (Json × List Char)
  | 0, _, _ => none
  | fuel + 1, depth, cs =>
    match skip cs with
    | '"' :: rest => (stringBody rest).map fun r => (.string (String.ofList r.1), r.2)
    | '[' :: rest =>
      match skip rest, depth with
      | ']' :: rest, _ => some (.array [], rest)
      | _, 0 => none
      | rest, depth + 1 => (items fuel depth rest).map fun r => (.array r.1, r.2)
    | '{' :: rest =>
      match skip rest, depth with
      | '}' :: rest, _ => some (.object [], rest)
      | _, 0 => none
      | rest, depth + 1 => (entries fuel depth rest).map fun r => (.object r.1, r.2)
    | rest => atom rest

/-- The items of an array that is not empty, up to its closing bracket. -/
def items : (fuel depth : Nat) → List Char → Option (List Json × List Char)
  | 0, _, _ => none
  | fuel + 1, depth, cs =>
    match value fuel depth cs with
    | none => none
    | some (v, rest) =>
      match skip rest with
      | ',' :: rest => (items fuel depth rest).map fun r => (v :: r.1, r.2)
      | ']' :: rest => some ([v], rest)
      | _ => none

/-- The entries of an object that is not empty, up to its closing brace. -/
def entries : (fuel depth : Nat) → List Char → Option (List (String × Json) × List Char)
  | 0, _, _ => none
  | fuel + 1, depth, cs =>
    match skip cs with
    | '"' :: rest =>
      match stringBody rest with
      | none => none
      | some (key, rest) =>
        match skip rest with
        | ':' :: rest =>
          match value fuel depth rest with
          | none => none
          | some (v, rest) =>
            match skip rest with
            | ',' :: rest =>
              (entries fuel depth rest).map fun r => ((String.ofList key, v) :: r.1, r.2)
            | '}' :: rest => some ([(String.ofList key, v)], rest)
            | _ => none
        | _ => none
    | _ => none

end

end Reader

/-- The value that a text denotes, if it is JSON and no part of it has more than `depth`
containers around it. -/
def readWithin (depth : Nat) (text : List Char) : Option Json :=
  match Reader.value (2 * text.length + 2) depth text with
  | some (v, rest) => if Reader.skip rest = [] then some v else none
  | none => none

/-- The most containers around a part of a payload. -/
def depthLimit : Nat := 200

def read (text : String) : Option Json := readWithin depthLimit text.toList

end Json
end ChatRecords
