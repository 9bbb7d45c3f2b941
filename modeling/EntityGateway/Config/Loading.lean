/-
From texts and files to configurations.
-/
import EntityGateway.Config.Decoding
import EntityGateway.Config.Snapshot
import EntityGateway.Config.Environment
import EntityGateway.Config.File
import EntityGateway.Json.Merge

namespace EntityGateway.RuntimeConfig

def ofText (s : String) : Except ConfigError RuntimeConfig :=
  match Decoder.decodeText ConfigDocument.decode s with
  | .error e => .error (.parse e.message)
  | .ok doc => ofDocument doc

def parse (env : Environment) (replacement : Replacement) (s : String) : Except ConfigError RuntimeConfig := do
  let text ← if replacement.replace then Environment.substitute env replacement.missing s else .ok s
  ofText text

/-- a JSON value of a text that has a part in a configuration -/
def readPart (part s : String) : Except ConfigError Json :=
  match Json.parse s with
  | .ok v => .ok v
  | .error d => .error (.parse (part ++ (DecodeError.notJson d).message))

/-- the text of one document with another merged into it; blank overrides change nothing -/
def mergeTexts (base overrides : String) : Except ConfigError String := do
  let base ← readPart "configuration: " base
  if Text.isBlank overrides then return base.compact
  let overrides ← readPart "configuration overrides: " overrides
  return (base.merge overrides).compact

def ofFile (env : Environment) (replacement : Replacement) (folder : Folder) (path : String) :
    Except ConfigError RuntimeConfig := do
  let text ← folder.readText path
  parse env replacement text

end EntityGateway.RuntimeConfig
