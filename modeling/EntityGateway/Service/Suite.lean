/-
The services of a gateway: permissions, validation, GraphQL types and documentation.

Each derives what it knows from the configuration when it is called, at once, and keeps it until a later call succeeds.
A document is kept with the snapshot it was made of, so that it is served only while that snapshot is held.
-/
import EntityGateway.Orchestration.Dependents
import EntityGateway.Service.OpenApi
import EntityGateway.Service.Permissions
import EntityGateway.Service.TypeCatalog
import EntityGateway.Service.Validation

namespace EntityGateway

/-- a document with the snapshot it was made of, and the version of the holder then -/
structure GeneratedDocument where
  snapshot : Snapshot
  version : Nat
  document : OpenApi.Document

/-- what the services have derived -/
structure Services where
  permissions : PermissionMap := .empty
  /-- the rules for requests, once they are bound to a configuration -/
  rules : Option RuleBook := none
  types : TypeCatalog := .empty
  document : Option GeneratedDocument := none

namespace Services

/-- a reply at once, and the services after a success -/
def settle (s : Services) (result : Except GatewayError Services) : Reply × Services :=
  match result with
  | .ok next => ({}, next)
  | .error e => ({ result := .error e }, s)

def name : Follower → String
  | .authorization => "authorization resolver"
  | .validator => RuleBook.service
  | .schema => TypeCatalog.service

def answer [Pattern.Engine] (s : Services) : Call → Except GatewayError Services
  | .rebind .authorization h _ => h.config.map fun _ => s
  | .rebind .validator h _ => (RuleBook.ofHolder h).map fun rules => { s with rules := some rules }
  | .rebind .schema h set => (TypeCatalog.ofHolder h set).map fun types => { s with types }
  | .rebuildPermissions c => .ok { s with permissions := .ofConfig c.config }
  | .generate h c => (OpenApi.build c.config).map fun document =>
      { s with document := some ⟨c, h.version, document⟩ }

/-- the services as those that depend on the configuration -/
def dependents [Pattern.Engine] : Dependents Services where
  name := name
  documents := true
  call c s := s.settle (s.answer c)

def currentDocument (s : Services) (h : ConfigHolder) : Option GeneratedDocument :=
  s.document.filter fun d => h.holds d.snapshot

/-- whether a body is a record that satisfies the rules in force -/
def validate [Format.Readers] (s : Services) (entity : String) (body : Body) : Except GatewayError Unit :=
  RuleBook.validate (s.rules.getD .empty) entity body

end Services

end EntityGateway
