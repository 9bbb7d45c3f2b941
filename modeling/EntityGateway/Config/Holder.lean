/-
The place where the current configuration is held.

A holder holds at most one snapshot. The first one is installed: the caller looks whether one is held, makes a
configuration of its texts, and puts it in if still none is held. From then on a snapshot is only replaced. The version
counts the snapshots that were put in.
-/
import EntityGateway.Config.Loading
import EntityGateway.Error

namespace EntityGateway

/-- what a first configuration is made of -/
structure FirstConfig where
  configuration : String
  /-- a document merged over the configuration before it is read -/
  overrides : Option String := none
  /-- the GraphQL schema of document stores -/
  schema : Option String := none
  connectionString : Option String := none
  accessToken : Option String := none
  replacement : Replacement := {}

/-- the configuration of a request, with its connection and schema -/
def FirstConfig.config (env : Environment) (r : FirstConfig) : Except ConfigError RuntimeConfig := do
  let text ←
    match r.overrides with
    | some overrides => RuntimeConfig.mergeTexts r.configuration overrides
    | none => .ok r.configuration
  let c ← RuntimeConfig.parse env r.replacement text
  return (c.withConnection r.connectionString r.accessToken).withGraphQLSchema r.schema

/-- a place for the current configuration -/
structure ConfigHolder where
  held : Option Snapshot := none
  /-- how often what is held was replaced; a counter of 64 bits is at this number as long as there were fewer than 2^64
  replacements, and starts again at 0 after that -/
  version : Nat := 0
  /-- whether the configuration came after the start -/
  late : Bool := false

namespace ConfigHolder

/-- a holder that holds a snapshot from the start -/
def holding (s : Snapshot) : ConfigHolder := { held := some s, version := 1 }

def config (h : ConfigHolder) : Except GatewayError RuntimeConfig :=
  match h.held with
  | some s => .ok s.config
  | none => .error .notConfigured

/-- whether a snapshot is the held one; an equal configuration is not enough -/
def holds (h : ConfigHolder) (s : Snapshot) : Bool := h.held.any (·.id == s.id)

/-- another snapshot, or none, in the place of the held one -/
def replace (h : ConfigHolder) (s : Option Snapshot) : ConfigHolder := { h with held := s, version := h.version + 1 }

/-- the holder marked as configured after the start -/
def markLate (h : ConfigHolder) : ConfigHolder := { h with late := true }

/-- nothing if no snapshot is held, and otherwise an error -/
def checkEmpty (h : ConfigHolder) : Except GatewayError Unit :=
  if h.held.isSome then .error .alreadyConfigured else .ok ()

/-- the first snapshot put in, if none is held -/
def install (h : ConfigHolder) (s : Snapshot) : Except GatewayError ConfigHolder := do
  h.checkEmpty
  return h.replace (some s)

/-- the first snapshot made of a request and put in; the look comes before the reading, and again after it -/
def configure (env : Environment) (id : Nat) (r : FirstConfig) (h : ConfigHolder) :
    Except GatewayError (ConfigHolder × Snapshot) := do
  h.checkEmpty
  let config ← (r.config env).mapError .config
  let h ← h.install ⟨id, config⟩
  return (h, ⟨id, config⟩)

end ConfigHolder

end EntityGateway
