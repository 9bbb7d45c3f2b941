/-
The bodies of requests that change the configuration.

A document is submitted as text or as an object, which stands for its text.
-/
import EntityGateway.Config.Decoding
import EntityGateway.Config.Holder

namespace EntityGateway.Http

open Decoder (record required nullable text anything)

/-- a first configuration; its variables are not replaced -/
structure ConfigurationPost where
  configuration : Json
  schema : Option String
  connectionString : Option String
  accessToken : Option String

/-- a first configuration with a document that is merged over it; its variables are replaced -/
structure OverriddenPost where
  configuration : Json
  overrides : Option Json
  schema : Option String
  accessToken : Option String

/-- a configuration in the place of the current one -/
structure ReloadPost where
  configuration : Json

/-- an entity that is added -/
structure EntityPost where
  name : String
  entity : Entity

def ConfigurationPost.decode : Decoder ConfigurationPost :=
  record "ConfigurationPost" ["configuration", "schema", "connection-string", "access-token"]
    ((required 0 "configuration" anything).both
      ((nullable "schema" text).both
        ((nullable "connection-string" text).both
          (nullable "access-token" text)))
      |>.map fun (configuration, schema, connectionString, accessToken) =>
        { configuration, schema, connectionString, accessToken })

def OverriddenPost.decode : Decoder OverriddenPost :=
  record "ConfigurationPostV2" ["configuration", "configuration-overrides", "schema", "access-token"]
    ((required 0 "configuration" anything).both
      ((nullable "configuration-overrides" anything).both
        ((nullable "schema" text).both
          (nullable "access-token" text)))
      |>.map fun (configuration, overrides, schema, accessToken) =>
        { configuration, overrides, schema, accessToken })

def ReloadPost.decode : Decoder ReloadPost :=
  record "ReloadPost" ["configuration"]
    (required 0 "configuration" anything |>.map fun configuration => { configuration })

def EntityPost.decode : Decoder EntityPost :=
  record "EntityPost" ["name", "entity"]
    ((required 0 "name" text).both (required 1 "entity" Entity.decode) |>.map fun (name, entity) => { name, entity })

def documentText : Json → Except GatewayError String
  | .string s => if Text.isBlank s then .error (.badRequest "configuration is empty") else .ok s
  | .object members => .ok (Json.object members).compact
  | _ => .error (.badRequest "configuration must be a JSON document")

def ConfigurationPost.request (p : ConfigurationPost) : Except GatewayError FirstConfig := do
  let configuration ← documentText p.configuration
  return { configuration, schema := p.schema, connectionString := p.connectionString, accessToken := p.accessToken,
           replacement := .disabled }

def OverriddenPost.request (p : OverriddenPost) : Except GatewayError FirstConfig := do
  let configuration ← documentText p.configuration
  let overrides ←
    match p.overrides with
    | some v => (documentText v).map some
    | none => .ok none
  return { configuration, overrides, schema := p.schema, accessToken := p.accessToken }

/-- the configuration that is asked for, given the connection string of the settings; it keeps the GraphQL schema of
the current one -/
def ReloadPost.change (env : Environment) (connectionString : Option String) (p : ReloadPost) :
    Except GatewayError (RuntimeConfig → Except GatewayError RuntimeConfig) := do
  let text ← documentText p.configuration
  let c ← (RuntimeConfig.parse env {} text).mapError .config
  let c := c.withConnection connectionString none
  return fun current => .ok (c.withGraphQLSchema current.graphqlSchema)

/-- the current configuration with the entity -/
def EntityPost.change (p : EntityPost) (current : RuntimeConfig) : Except GatewayError RuntimeConfig :=
  (current.withEntity p.name p.entity).mapError .config

end EntityGateway.Http
