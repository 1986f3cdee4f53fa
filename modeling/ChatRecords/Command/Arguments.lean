import ChatRecords.Text.Numeral
import ChatRecords.Text.Quoted

/-!
# Arguments of the command

The command takes the name of a record, the name of a file and an indent, of which only the
first is required. Options may stand anywhere and be shortened as long as they stay distinct; two
dashes end them.

## Main definitions

* `Arguments`: what the command was asked for.
* `UsageFault`: why arguments are refused.
* `Word.ofText`: what one argument is on its own.
* `Arguments.read`: what all arguments ask for: a run, the help text, or a refusal.

## Design notes

Arguments are first sorted into operands and options, then read in order. The two operands are
taken where the first operand stands: the name of a file is found only right after the
name of the record, and any other operand is superfluous.
-/

namespace ChatRecords

/-- What the command was asked for. -/
structure Arguments where
  record : String
  /-- The name of the file to read; the input of the program if there is none. -/
  file : Option String
  /-- How far nested lines are indented; everything is on one line if it is not given. -/
  indent : Option Int
deriving DecidableEq

/-- The options of the command. -/
inductive Switch where
  | help
  | indent
deriving DecidableEq

namespace Switch

def spellings : List (String × Switch) := [("-h", .help), ("--help", .help), ("--indent", .indent)]

/-- An option as it is shown in refusals. -/
def title : Switch → String
  | .help => "-h/--help"
  | .indent => "--indent"

end Switch

/-- Why arguments are refused. -/
inductive UsageFault where
  /-- A shortened option may be any of some. -/
  | ambiguous (given : String) (candidates : List String)
  /-- An option without a value was given one. -/
  | ignoredValue (option : Switch) (value : String)
  /-- An option with a value was given none. -/
  | valueExpected (option : Switch)
  | invalidIndent (value : String)
  /-- There is no name of a record. -/
  | recordMissing
  | superfluous (given : List String)
  /-- There is no record with the name. -/
  | unknownRecord (name : String)
deriving DecidableEq

namespace UsageFault

def message : UsageFault → String
  | .ambiguous given candidates =>
    "ambiguous option: " ++ given ++ " could match " ++ ", ".intercalate candidates
  | .ignoredValue option value =>
    "argument " ++ option.title ++ ": ignored explicit argument " ++ Text.quote value
  | .valueExpected option => "argument " ++ option.title ++ ": expected one argument"
  | .invalidIndent value =>
    "argument " ++ Switch.indent.title ++ ": invalid int value: " ++ Text.quote value
  | .recordMissing => "the following arguments are required: record"
  | .superfluous given => "unrecognized arguments: " ++ " ".intercalate given
  | .unknownRecord name => "unknown record " ++ Text.quote name

end UsageFault

/-- What one argument is on its own. -/
inductive Word where
  | operand (text : String)
  /-- The two dashes that end the options. -/
  | divider
  | switch (used : Switch)
  /-- An option with a value after an equals sign. -/
  | valued (used : Switch) (value : String)
  /-- The short option for help with more letters after it. -/
  | cluster (letters : List Char)
  /-- An option that the command does not have. -/
  | unknownOption (text : String)
deriving DecidableEq

namespace Word

/-- Whether a text is a negative number in plain notation; it may end with a line end. -/
def isNegativeNumber (text : String) : Bool :=
  let isDigit (c : Char) : Bool := (Text.decimalDigit? c).isSome
  match text.toList with
  | '-' :: body =>
    let body := if body.getLast? = some '\n' then body.dropLast else body
    match body.dropWhile isDigit with
    | [] => !body.isEmpty
    | '.' :: fraction => !fraction.isEmpty && fraction.all isDigit
    | _ => false
  | _ => false

/-- The text before the first equals sign, and the text after it if there is one. -/
def splitValue (cs : List Char) : String × Option String :=
  let name := String.ofList (cs.takeWhile (· ≠ '='))
  match cs.dropWhile (· ≠ '=') with
  | [] => (name, none)
  | _ :: value => (name, some (String.ofList value))

/-- An option, in one of its spellings, with what is given after an equals sign. What the short
option for help is given are more letters. -/
def withValue (spelling : String) (used : Switch) : Option String → Word
  | none => .switch used
  | some value =>
    if spelling = "-h" ∧ value ≠ "" then .cluster value.toList else .valued used value

/-- What an argument that starts with a dash is if it is no spelling of an option. -/
def ofOther (text : String) : Word :=
  if isNegativeNumber text || text.toList.contains ' ' then .operand text
  else .unknownOption text

/-- What an argument before the two dashes is. -/
def ofText (text : String) : Except UsageFault Word :=
  match text.toList with
  | '-' :: c :: rest =>
    let (name, value) := splitValue ('-' :: c :: rest)
    match Switch.spellings.lookup name with
    | some used => .ok (withValue name used value)
    | none =>
      if c = '-' then
        match Switch.spellings.filter fun s => s.1.startsWith name with
        | [] => .ok (ofOther text)
        | [s] => .ok (withValue s.1 s.2 value)
        | several => .error (.ambiguous text (several.map Prod.fst))
      else if c = 'h' then .ok (.cluster rest)
      else .ok (ofOther text)
  | _ => .ok (.operand text)

/-- What some arguments are; behind the two dashes all are operands. -/
def ofTexts : List String → Except UsageFault (List Word)
  | [] => .ok []
  | text :: rest =>
    if text = "--" then .ok (.divider :: rest.map Word.operand)
    else do
      let word ← ofText text
      let words ← ofTexts rest
      pure (word :: words)

/-- The argument that a word was made of, as far as it can be superfluous. -/
def text : Word → String
  | .operand text | .unknownOption text => text
  | .divider => "--"
  | .switch used => used.title
  | .valued used value => used.title ++ "=" ++ value
  | .cluster letters => "-h" ++ String.ofList letters

end Word

/-- What arguments ask for. -/
inductive Demand where
  | help
  | run (arguments : Arguments)
deriving DecidableEq

namespace Arguments

/-- What is known when some arguments have been read. -/
structure Partial where
  record : Option String
  file : Option String
  indent : Option Int
  superfluous : List String
deriving DecidableEq

/-- What letters behind the short option for help ask for. It is asked for again by each letter
that repeats it; what begins with another letter is ignored and refused. -/
def readCluster : List Char → Except UsageFault Demand
  | [] => .ok .help
  | 'h' :: rest => readCluster rest
  | rest => .error (.ignoredValue .help (String.ofList rest))

def readIndent (value : String) : Except UsageFault Int :=
  match Text.readWhole? value with
  | some n => .ok n
  | none => .error (.invalidIndent value)

/-- The name of the file right after that of the record, if there is one, and the words that are
left. Two dashes may stand on either side; a file cannot be named by them. -/
def takeFile (words : List Word) : Option String × List Word :=
  let named (text : String) : Option String := if text = "--" then none else some text
  match words with
  | .operand text :: .divider :: rest | .divider :: .operand text :: rest => (named text, rest)
  | .operand text :: rest => (named text, rest)
  | .divider :: rest => (none, rest)
  | rest => (none, rest)

/-- What remains to be read: at most `fuel` words, after what is known. -/
def readWords : (fuel : Nat) → Partial → List Word → Except UsageFault (Demand ⊕ Partial)
  | 0, known, _ => .ok (.inr known)
  | fuel + 1, known, words =>
    let setIndent (value : String) (rest : List Word) : Except UsageFault (Demand ⊕ Partial) := do
      let indent ← readIndent value
      readWords fuel { known with indent := some indent } rest
    match words, known.record with
    | [], _ => .ok (.inr known)
    | .switch .help :: _, _ => .ok (.inl .help)
    | .valued .help value :: _, _ => .error (.ignoredValue .help value)
    | .cluster letters :: _, _ => (readCluster letters).map Sum.inl
    | .switch .indent :: .operand value :: rest, _ => setIndent value rest
    | .switch .indent :: _, _ => .error (.valueExpected .indent)
    | .valued .indent value :: rest, _ => setIndent value rest
    | .operand name :: rest, none | .divider :: .operand name :: rest, none =>
      let (file, rest) := takeFile rest
      readWords fuel { known with record := some name, file := file } rest
    | word :: rest, _ =>
      readWords fuel { known with superfluous := known.superfluous ++ [word.text] } rest

def read (texts : List String) : Except UsageFault Demand := do
  let words ← Word.ofTexts texts
  match ← readWords (words.length + 1) ⟨none, none, none, []⟩ words with
  | .inl demand => pure demand
  | .inr known =>
    match known.record, known.superfluous with
    | none, _ => throw .recordMissing
    | some record, [] => pure (.run ⟨record, known.file, known.indent⟩)
    | _, superfluous => throw (.superfluous superfluous)

end Arguments
end ChatRecords
