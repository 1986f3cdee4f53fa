import ChatRecords.Command.Arguments
import ChatRecords.Log.Output
import ChatRecords.Record.Decoder
import ChatRecords.Record.Encoder
import ChatRecords.Record.Report
import ChatRecords.Settings.Config

/-!
# The command

The command decodes a payload as a record and prints the record in its canonical form. What it
prints, what it logs and how it ends is a function of its arguments, its input, the environment
and the files it can reach.

## Main definitions

* `CommandInput`, `CommandOutcome`: what a run gets and what it leaves.
* `CommandFailure`: why a run ends without an outcome.
* `Command.run`: a run.
* `Command.variableNames`, `Command.logFile?`: what a run looks up and writes to.
-/

namespace ChatRecords

/-- What a run of the command gets. -/
structure CommandInput where
  arguments : List String
  /-- What is read where no file is named. -/
  input : List UInt8
  environment : Environment
  files : Files
  time : String

/-- What a run of the command leaves. -/
structure CommandOutcome where
  status : Nat
  output : String
  complaints : String
  files : Files

/-- Why a run of the command ends without an outcome. -/
inductive CommandFailure where
  | config (fault : ConfigFault)
  | log (fault : Log.SetupFault)
  | unreadable (fault : FileFault)
  | negativeIndent
  /-- The indent does not fit in a word. -/
  | hugeIndent
deriving DecidableEq

namespace CommandFailure

def message : CommandFailure → String
  | .config fault => fault.message
  | .log fault => fault.message
  | .unreadable fault => fault.message Text.quote
  | .negativeIndent => "can't convert negative int to unsigned"
  | .hugeIndent => "int too big to convert"

end CommandFailure

namespace Command

def program : String := "python -m discord_models"

/-- One line about how the command is used. -/
def usage : String := "usage: " ++ program ++ " [-h] [--indent INDENT] record [file]\n"

def helpText : String :=
  usage ++ "\n" ++
  "Decode a JSON payload as a record and print it re-encoded\n\n" ++
  "positional arguments:\n" ++
  "  record           Record name, e.g. Message or Guild\n" ++
  "  file             JSON file to read (default: stdin)\n\n" ++
  "options:\n" ++
  "  -h, --help       show this help message and exit\n" ++
  "  --indent INDENT  Pretty-print with this indent\n"

def refusal (fault : UsageFault) : String :=
  usage ++ program ++ ": error: " ++ fault.message ++ "\n"

/-- The name of the file of environment variables. -/
def envFileName : String := ".env"

/-- The lines of the file of environment variables, if there is one. -/
def envLines (files : Files) : List EnvLine :=
  match files.get? envFileName with
  | some bytes => EnvFile.read ((String.fromUTF8? ⟨bytes.toArray⟩).getD "")
  | none => []

/-- The number of blanks that an indent stands for. -/
def indentOf : Option Int → Except CommandFailure (Option Nat)
  | none => .ok none
  | some (.ofNat n) => if n < 2 ^ 64 then .ok (some n) else .error .hugeIndent
  | some _ => .error .negativeIndent

/-- What a run leaves that ends after some log entries. -/
def outcome (status : Nat) (printed : String) (log : Log.Output) (complaint : String) :
    CommandOutcome :=
  ⟨status, printed, log.stream ++ complaint, log.files⟩

/-- The entry about a record that cannot be encoded. -/
def encodingEntry (kind : RecordKind) (fault : EncodingFault) : Log.Entry :=
  .of .error "discord_models.cli" ("Cannot encode " ++ kind.name ++ ": " ++ fault.message)

/-- A payload decoded as a record and printed. -/
def transcode (time : String) (config : Config) (kind : RecordKind) (indent : Option Int)
    (log : Log.Output) (payload : List UInt8) : Except CommandFailure CommandOutcome :=
  let decoding := Record.decodeBytes kind payload
  let log := log.writeAll time (decoding.logEntries kind config.lossyFlagLogLevel.number)
  match decoding.outcome with
  | .error fault => .ok (outcome 1 "" log ("error: " ++ fault.render ++ "\n"))
  | .ok record => do
    let indent ← indentOf indent
    match record.encodeText indent with
    | .ok text => pure (outcome 0 (text ++ "\n") log "")
    | .error fault => pure (outcome 1 "" (log.write time (encodingEntry kind fault)) "")

/-- The settings that the environment and the file of environment variables give. -/
def settings (environment : Environment) (lines : List EnvLine) : Except ConfigFault Config := do
  let environment ←
    if EnvFile.isIgnored environment then pure environment
    else (EnvFile.addTo environment lines).mapError ConfigFault.environment
  Config.load fun name => environment.lookup name

/-- A run for arguments that ask for one. -/
def execute (request : CommandInput) (arguments : Arguments) :
    Except CommandFailure CommandOutcome := do
  let config ←
    (settings request.environment (envLines request.files)).mapError CommandFailure.config
  let log ← (Log.Output.startAt request.time config.logLevel config.logFile config.logMaxBytes
    config.logBackupCount request.files).mapError CommandFailure.log
  match RecordKind.ofName? arguments.record with
  | none => pure (outcome 2 "" log (refusal (.unknownRecord arguments.record)))
  | some kind =>
    let payload ← match arguments.file with
      | none => pure request.input
      | some name => (Files.read name log.files).mapError CommandFailure.unreadable
    transcode request.time config kind arguments.indent log payload

def run (request : CommandInput) : Except CommandFailure CommandOutcome :=
  match Arguments.read request.arguments with
  | .error fault => .ok ⟨2, "", refusal fault, request.files⟩
  | .ok .help => .ok ⟨0, helpText, "", request.files⟩
  | .ok (.run arguments) => execute request arguments

/-- The file that a run logs to, if there is one, after the name that it was given. -/
def logFile? (environment : Environment) (files : Files) : Option (String × Log.RotatingFile) :=
  match settings environment (envLines files) with
  | .ok config => config.logFile.map fun name =>
      (name, ⟨FileName.resolve name, config.logMaxBytes, config.logBackupCount⟩)
  | .error _ => none

/-- The variables that a run may look up. -/
def variableNames (files : Files) : List String :=
  let lines := envLines files
  EnvFile.switchName :: Config.keys.map Config.variableName ++ EnvFile.references lines ++
    EnvFile.names lines

end Command
end ChatRecords
