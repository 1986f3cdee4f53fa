import ChatRecords.Entries
import ChatRecords.Text.Blank

/-!
# Files of environment variables

A text of assignments, one a line: a name, an equals sign and a value that may stand in quotes.
Blanks around the sign, the word `export` before a name and comments after `#` are allowed.
A value may refer to variables as `${NAME}` or `${NAME:-fallback}`.

## Main definitions

* `EnvLine`: what a line says.
* `EnvFile.read`: the lines of a text.
* `EnvFile.expand`: a value with its references replaced.
* `EnvFile.addTo`: an environment with the assignments of a file, or why one cannot be made.
* `EnvFile.isIgnored`: whether an environment asks for files to be ignored.

## Design notes

Reading functions take characters and return what they read with the characters that are left.
A line that has another form is skipped up to its end, from the place where reading stopped.
-/

namespace ChatRecords

/-- What a line of a file of environment variables says. -/
inductive EnvLine where
  | blank
  /-- A name, with the value it is given, if any. -/
  | assign (name : String) (value : Option String)
  /-- Nothing that counts: the line has another form. -/
  | malformed
deriving DecidableEq

/-- Why a variable cannot be put into an environment. -/
inductive EnvFault where
  /-- The name or the value holds the character that ends texts in environments. -/
  | nulCharacter
  /-- The name holds the character that ends names in environments. -/
  | equalsInName
deriving DecidableEq

abbrev Environment := List (String × String)

namespace EnvFault

def message : EnvFault → String
  | .nulCharacter => "embedded null byte"
  | .equalsInName => "illegal environment variable name"

end EnvFault

namespace EnvFile

/-- A blank that does not end a line. -/
def isSpace (c : Char) : Bool := Text.isBlank c && c ≠ '\n'

/-- What is left after the blanks at the front of a line. -/
def skipSpaces (cs : List Char) : List Char := cs.dropWhile isSpace

/-- What is left of a text on the current line. -/
def restOfLine (cs : List Char) : List Char := cs.takeWhile (· ≠ '\n')

def nextLine (cs : List Char) : List Char := (cs.dropWhile (· ≠ '\n')).tail

/-- What is left after the word `export` and the blanks that follow it. -/
def skipExport (cs : List Char) : List Char :=
  match cs with
  | 'e' :: 'x' :: 'p' :: 'o' :: 'r' :: 't' :: rest =>
    match rest with
    | c :: _ => if isSpace c then skipSpaces rest else cs
    | [] => cs
  | _ => cs

/-- The name at the front, which may stand in single quotes; no name stands before a comment. -/
def readName? (cs : List Char) : Option (Option String × List Char) :=
  match cs with
  | '#' :: _ => some (none, cs)
  | '\'' :: body =>
    let name := body.takeWhile (· ≠ '\'')
    match body.dropWhile (· ≠ '\'') with
    | [] => none
    | _ :: rest => if name.isEmpty then none else some (some (String.ofList name), rest)
  | _ =>
    let inName (c : Char) : Bool := c ≠ '=' && c ≠ '#' && !Text.isBlank c
    let name := cs.takeWhile inName
    if name.isEmpty then none else some (some (String.ofList name), cs.dropWhile inName)

/-- The characters up to the quote that closes a value. A backslash belongs to the character
after it, which does not close the value. -/
def readQuoted? (mark : Char) : List Char → Option (List Char × List Char)
  | '\\' :: c :: rest =>
    (readQuoted? mark rest).map fun (body, left) => ('\\' :: c :: body, left)
  | c :: rest =>
    if c = mark then some ([], rest)
    else (readQuoted? mark rest).map fun (body, left) => (c :: body, left)
  | [] => none

/-- The text with the escapes of a table replaced. -/
def unescape (table : Char → Option Char) : List Char → List Char
  | '\\' :: c :: rest =>
    match table c with
    | some d => d :: unescape table rest
    | none => '\\' :: unescape table (c :: rest)
  | c :: rest => c :: unescape table rest
  | [] => []

def singleEscape (c : Char) : Option Char := if c = '\\' ∨ c = '\'' then some c else none

def doubleEscape (c : Char) : Option Char :=
  if c = '\\' ∨ c = '\'' ∨ c = '"' then some c
  else
    [('a', '\x07'), ('b', '\x08'), ('f', '\x0c'), ('n', '\n'), ('r', '\r'), ('t', '\t'),
     ('v', '\x0b')].lookup c

/-- The text up to a comment, which comes after a blank. -/
def cutComment : (afterBlank : Bool) → List Char → List Char
  | _, [] => []
  | afterBlank, c :: rest =>
    if afterBlank && c = '#' then [] else c :: cutComment (Text.isBlank c) rest

/-- The value at the front: in single or double quotes, or the rest of the line without a comment
and the blanks before it. A value may be all comment if it comes after a blank. -/
def readValue? (afterBlank : Bool) (cs : List Char) : Option (List Char × List Char) :=
  match cs with
  | '\'' :: body =>
    (readQuoted? '\'' body).map fun (value, rest) => (unescape singleEscape value, rest)
  | '"' :: body =>
    (readQuoted? '"' body).map fun (value, rest) => (unescape doubleEscape value, rest)
  | _ =>
    let value := cutComment afterBlank (restOfLine cs)
    some ((value.reverse.dropWhile Text.isBlank).reverse, cs.dropWhile (· ≠ '\n'))

/-- What is left after a comment and the end of the line, if nothing else is on it. -/
def endLine? (cs : List Char) : Option (List Char) :=
  match skipSpaces cs with
  | [] => some []
  | '\n' :: rest => some rest
  | '#' :: rest => some (nextLine rest)
  | _ => none

/-- What the line at the front says, and what is left after it. -/
def readLine (cs : List Char) : EnvLine × List Char :=
  match cs.dropWhile Text.isBlank with
  | [] => (.blank, [])
  | cs =>
    let failed (cs : List Char) : EnvLine × List Char := (.malformed, nextLine cs)
    let cs := skipExport cs
    match readName? cs with
    | none => failed cs
    | some (name, rest) =>
      let finish (value : Option String) (cs : List Char) : EnvLine × List Char :=
        match endLine? cs with
        | none => failed cs
        | some rest =>
          match name with
          | some name => (.assign name value, rest)
          | none => (.blank, rest)
      match skipSpaces rest with
      | '=' :: rest =>
        let body := skipSpaces rest
        match readValue? (body.length < rest.length) body with
        | none => failed body
        | some (value, rest) => finish (some (String.ofList value)) rest
      | rest => finish none rest

def readLines : (fuel : Nat) → List Char → List EnvLine
  | 0, _ => []
  | _, [] => []
  | fuel + 1, cs =>
    let (said, rest) := readLine cs
    said :: readLines fuel rest

/-- The text with one character at the end of each line. -/
def unifyLineEnds : List Char → List Char
  | '\r' :: '\n' :: rest => '\n' :: unifyLineEnds rest
  | '\r' :: rest => '\n' :: unifyLineEnds rest
  | c :: rest => c :: unifyLineEnds rest
  | [] => []

/-- The text without the byte order mark at its front. -/
def dropMark : List Char → List Char
  | '\uFEFF' :: rest => rest
  | cs => cs

def read (text : String) : List EnvLine :=
  let cs := unifyLineEnds (dropMark text.toList)
  readLines cs.length cs

/-- A reference at the front, after its opening brace: the name, the fallback and what is left. -/
def readReference? (cs : List Char) : Option (String × String × List Char) :=
  let inName (c : Char) : Bool := c ≠ '\x7d' && c ≠ ':'
  let name := String.ofList (cs.takeWhile inName)
  match cs.dropWhile inName with
  | '\x7d' :: rest => some (name, "", rest)
  | ':' :: '-' :: rest =>
    match rest.dropWhile (· ≠ '\x7d') with
    | _ :: left => some (name, String.ofList (rest.takeWhile (· ≠ '\x7d')), left)
    | [] => none
  | _ => none

/-- The value with at most `fuel` characters and references replaced. A name without an entry
stands for the fallback of the reference. -/
def expandWithin (value? : String → Option String) : (fuel : Nat) → List Char → List Char
  | 0, _ => []
  | _, [] => []
  | fuel + 1, '$' :: '\x7b' :: rest =>
    match readReference? rest with
    | some (name, fallback, left) =>
      ((value? name).getD fallback).toList ++ expandWithin value? fuel left
    | none => '$' :: expandWithin value? fuel ('\x7b' :: rest)
  | fuel + 1, c :: rest => c :: expandWithin value? fuel rest

def expand (value? : String → Option String) (value : String) : String :=
  String.ofList (expandWithin value? value.length value.toList)

/-- The assignments of some lines, in order, with references replaced. A reference is looked up
in the environment first and then among the assignments before it; a name that was given no
value counts as empty. -/
def assignments (environment : Environment) (lines : List EnvLine) :
    List (String × Option String) :=
  lines.foldl
    (fun known said =>
      match said with
      | .assign name value =>
        let value? (name : String) : Option String :=
          (environment.lookup name).orElse fun _ =>
            (Entries.get? name known).map fun v => v.getD ""
        Entries.put name (value.map (expand value?)) known
      | _ => known)
    []

/-- The names that the values of some lines refer to. -/
def references (lines : List EnvLine) : List String :=
  let rec names : List Char → List String
    | '$' :: '\x7b' :: rest =>
      match readReference? rest with
      | some (name, _, _) => name :: names rest
      | none => names rest
    | _ :: rest => names rest
    | [] => []
  lines.flatMap fun
    | .assign _ (some value) => names value.toList
    | _ => []

/-- The names that some lines give a value. -/
def names (lines : List EnvLine) : List String :=
  lines.filterMap fun
    | .assign name (some _) => some name
    | _ => none

/-- Whether a text holds the character that ends texts in environments. -/
def hasNul (s : String) : Bool := s.toList.contains '\x00'

/-- An environment with one more variable, or why it cannot have it. -/
def put (name value : String) (environment : Environment) : Except EnvFault Environment :=
  if hasNul name || hasNul value then .error .nulCharacter
  else if name.toList.contains '=' then .error .equalsInName
  else .ok (Entries.put name value environment)

/-- An environment with the assignments of some lines; variables that it has already keep their
values. -/
def addTo (environment : Environment) (lines : List EnvLine) : Except EnvFault Environment :=
  (assignments environment lines).foldlM
    (fun known assignment =>
      match assignment with
      | (_, none) => .ok known
      | (name, some value) =>
        if (environment.lookup name).isSome then .ok known else put name value known)
    environment

/-- The variable that tells whether files of environment variables are ignored. -/
def switchName : String := "PYTHON_DOTENV_DISABLED"

/-- The small form of a letter. The long s is a form of the letter s. -/
def foldCase (c : Char) : Char := if c = '\u017F' then 's' else c.toLower

/-- Whether an environment asks for files of environment variables to be ignored. -/
def isIgnored (environment : Environment) : Bool :=
  match environment.lookup switchName with
  | some value =>
    String.ofList (value.toList.map foldCase) ∈ ["1", "true", "t", "yes", "y"]
  | none => false

end EnvFile
end ChatRecords
