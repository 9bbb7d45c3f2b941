/-
The settings of the process, from the environment. A variable that is blank counts as not set.
-/
import EntityGateway.Net.Address
import EntityGateway.Config.Environment
import EntityGateway.Time.Duration

namespace EntityGateway

/-- the settings of the process -/
structure Settings where
  configFile : String := "dataapi-config.json"
  /-- a connection string for the default data source -/
  connectionString : Option String := none
  /-- the bound on one stage, or on one call of a dependent service -/
  stageTimeout : Duration := .ofSeconds 30
  /-- the bound on reading the metadata of one data source -/
  introspectionTimeout : Duration := .ofSeconds 15
  listenAddress : Net.Address := .v4 [0, 0, 0, 0] 5000
  /-- the largest configuration that is accepted, in bytes -/
  maxConfigBytes : Nat := 4 * 1024 * 1024

namespace Settings

/-- why a text is not a number -/
inductive NumberFault where
  | invalidDigit
  | tooLarge

def NumberFault.message : NumberFault → String
  | .invalidDigit => "invalid digit found in string"
  | .tooLarge => "number too large to fit in target type"

def readDigits (n : Nat) : List Char → Except NumberFault Nat
  | [] => .ok n
  | c :: rest =>
    match Net.digit? 10 c with
    | none => .error .invalidDigit
    | some d => if n * 10 + d < UInt64.size then readDigits (n * 10 + d) rest else .error .tooLarge

/-- the number of a text, which may have a plus sign in front -/
def readNumber (s : String) : Except NumberFault Nat :=
  match s.toList with
  | '+' :: c :: rest => readDigits 0 (c :: rest)
  | [] | ['+'] => .error .invalidDigit
  | cs => readDigits 0 cs

/-- the error of a variable with a value that cannot be used -/
def refused (key value reason : String) : ConfigError := .load (key ++ "=" ++ value ++ ": " ++ reason)

/-- the value of a variable that is set and not blank -/
def lookup (env : Environment) (key : String) : Option String := (env key).filter fun v => !Text.isBlank v

def numberFrom (env : Environment) (key : String) : Except ConfigError (Option Nat) :=
  match lookup env key with
  | none => .ok none
  | some v =>
    match readNumber (Text.trim v) with
    | .ok n => .ok (some n)
    | .error fault => .error (refused key v fault.message)

def addressFrom (env : Environment) (key : String) : Except ConfigError (Option Net.Address) :=
  match lookup env key with
  | none => .ok none
  | some v =>
    match Net.Address.ofText? (Text.trim v) with
    | some a => .ok (some a)
    | none => .error (refused key v "invalid socket address syntax")

def ofEnvironment (env : Environment) : Except ConfigError Settings := do
  let standard : Settings := {}
  let stage ← numberFrom env "DATAAPI_STAGE_TIMEOUT_SECS"
  let introspection ← numberFrom env "DATAAPI_INTROSPECTION_TIMEOUT_SECS"
  let address ← addressFrom env "DATAAPI_LISTEN_ADDR"
  let bytes ← numberFrom env "DATAAPI_MAX_CONFIG_BYTES"
  return {
    configFile := (lookup env "DATAAPI_CONFIG_FILE").getD standard.configFile
    connectionString := lookup env "DATAAPI_CONNECTION_STRING"
    stageTimeout := (stage.map Duration.ofSeconds).getD standard.stageTimeout
    introspectionTimeout := (introspection.map Duration.ofSeconds).getD standard.introspectionTimeout
    listenAddress := address.getD standard.listenAddress
    maxConfigBytes := bytes.getD standard.maxConfigBytes }

end Settings

end EntityGateway
