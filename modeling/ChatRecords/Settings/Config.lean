import ChatRecords.Log.Level
import ChatRecords.Settings.EnvFile
import ChatRecords.Text.Numeral

/-!
# Configuration

What the environment of the program decides: how grave entries must be to be logged, where they
go, and how grave bits without a name are.

## Main definitions

* `Config`: the settings, with their defaults.
* `Config.load`: the settings that a look-up of variables gives, or what is wrong with them.
-/

namespace ChatRecords

/-- The settings of the program. -/
structure Config where
  logLevel : Log.Level
  /-- The file that is logged to as well. -/
  logFile : Option String
  /-- The size that a log file does not reach. -/
  logMaxBytes : Nat
  /-- How many older log files are kept. -/
  logBackupCount : Nat
  /-- How grave bits without a name are. -/
  lossyFlagLogLevel : Log.Level
deriving DecidableEq

/-- What is wrong with the environment. -/
inductive ConfigFault where
  /-- It cannot hold a variable that the file of environment variables gives. -/
  | environment (fault : EnvFault)
  | notLevel (key : String)
  | notPositive (key : String)
deriving DecidableEq

namespace Config

/-- What the names of all variables start with. -/
def nameStart : String := "DISCORD_MODELS_"

def variableName (key : String) : String := nameStart ++ key

/-- The settings that hold where nothing is set. -/
def standard : Config := ⟨.info, none, 10485760, 5, .warning⟩

/-- The keys of the variables that are looked up. -/
def keys : List String :=
  ["LOG_LEVEL", "LOG_FILE", "LOG_MAX_BYTES", "LOG_BACKUP_COUNT", "LOSSY_FLAG_LOG_LEVEL"]

/-- The level that a value names, in any case. -/
def levelOf (key value : String) : Except ConfigFault Log.Level :=
  let name := Text.toUpper (String.ofList (Text.trimBlank value.toList))
  match Log.Level.choices.find? (·.name = name) with
  | some level => .ok level
  | none => .error (.notLevel key)

def positiveOf (key value : String) : Except ConfigFault Nat :=
  match Text.readWhole? value with
  | some (.ofNat (n + 1)) => .ok (n + 1)
  | _ => .error (.notPositive key)

/-- The settings that a look-up of variables gives, or the first thing that is wrong with
them. An empty level or file counts as not set. -/
def load (value? : String → Option String) : Except ConfigFault Config := do
  let level (key : String) (fallback : Log.Level) : Except ConfigFault Log.Level :=
    match value? (variableName key) with
    | none | some "" => .ok fallback
    | some value => levelOf key value
  let positive (key : String) (fallback : Nat) : Except ConfigFault Nat :=
    match value? (variableName key) with
    | none => .ok fallback
    | some value => positiveOf key value
  let logLevel ← level "LOG_LEVEL" standard.logLevel
  let logFile := (value? (variableName "LOG_FILE")).filter (· ≠ "")
  let logMaxBytes ← positive "LOG_MAX_BYTES" standard.logMaxBytes
  let logBackupCount ← positive "LOG_BACKUP_COUNT" standard.logBackupCount
  let lossyFlagLogLevel ← level "LOSSY_FLAG_LOG_LEVEL" standard.lossyFlagLogLevel
  pure ⟨logLevel, logFile, logMaxBytes, logBackupCount, lossyFlagLogLevel⟩

end Config

namespace ConfigFault

def message : ConfigFault → String
  | .environment fault => fault.message
  | .notLevel key =>
    Config.variableName key ++ " must be one of " ++
      ", ".intercalate (Log.Level.choices.map Log.Level.name)
  | .notPositive key => Config.variableName key ++ " must be a positive integer"

end ConfigFault
end ChatRecords
