/-
Configurations: what a document comes to when its parts are put together.

A configuration is never changed; a change makes another one. Its data sources and entities are in the order of their
names. Every entity is bound to a data source, the default one if it names none.
-/
import EntityGateway.Config.Document
import EntityGateway.Config.Error
import EntityGateway.Text.Trim

namespace EntityGateway

/-- a configuration -/
structure RuntimeConfig where
  schema : Option String
  defaultDataSource : String
  dataSources : NameMap DataSource
  runtime : RuntimeOptions
  entities : NameMap Entity
  /-- the GraphQL schema that came with the document -/
  graphqlSchema : Option String := none

namespace RuntimeConfig

/-- the name of a data source that has none -/
def defaultName : String := "default"

def noDataSource : ConfigError := .validation "at least one data source is required"

/-- the data sources of a document, the unnamed one among them -/
def gatherSources (doc : ConfigDocument) : Except ConfigError (NameMap DataSource) :=
  match doc.dataSource with
  | none => .ok doc.dataSources
  | some source =>
    if doc.dataSources.contains defaultName then
      .error (.validation ("'data-source' and data-sources." ++ defaultName ++ " both define the default data source"))
    else .ok (doc.dataSources.insert defaultName source)

/-- the default data source: the one the document says, the unnamed one, or the first -/
def chooseDefault (named : Option String) (sources : NameMap DataSource) : Except ConfigError String :=
  match named with
  | some name => .ok name
  | none =>
    if sources.contains defaultName then .ok defaultName
    else
      match sources.names with
      | name :: _ => .ok name
      | [] => .error noDataSource

def ofDocument (doc : ConfigDocument) : Except ConfigError RuntimeConfig := do
  let dataSources ← gatherSources doc
  let defaultDataSource ← chooseDefault doc.defaultDataSource dataSources
  return { schema := doc.schema, defaultDataSource, dataSources, runtime := doc.runtime, entities := doc.entities }

/-! ## Views -/

def defaultSource? (c : RuntimeConfig) : Option DataSource := c.dataSources.get? c.defaultDataSource

/-- the name of the data source an entity is bound to -/
def sourceOf (c : RuntimeConfig) (e : Entity) : String := e.dataSource.getD c.defaultDataSource

/-- the entities bound to a data source, in the order of their names -/
def entitiesOn (c : RuntimeConfig) (source : String) : List (String × Entity) :=
  c.entities.entries.filter fun entry => c.sourceOf entry.2 == source

def isDevelopment (c : RuntimeConfig) : Bool := c.runtime.host.mode == .development

/-- whether a data source is a document store -/
def usesDocumentStore (c : RuntimeConfig) : Bool := c.dataSources.values.any (·.databaseType == .documentStore)

/-- the route of an entity: its own path or its name, after a slash -/
def restPath (name : String) (e : Entity) : String :=
  let path := e.rest.path.getD name
  if Text.startsWith '/' path then path else "/" ++ path

/-! ## Changes -/

/-- a text that is there and not empty -/
def given (s : Option String) : Option String := s.filter (· ≠ "")

/-- another way to reach a data source; a database of an unknown kind takes no token -/
def redirect (connection token : Option String) (source : DataSource) : DataSource :=
  let source :=
    match given connection with
    | some connectionString => { source with connectionString }
    | none => source
  match given token, source.databaseType with
  | some _, .other _ => source
  | some token, _ => { source with accessToken := some token }
  | none, _ => source

/-- the configuration with another way to reach its default data source -/
def withConnection (c : RuntimeConfig) (connection token : Option String) : RuntimeConfig :=
  { c with dataSources := c.dataSources.modify c.defaultDataSource (redirect connection token) }

/-- the configuration with a GraphQL schema, unless it is blank -/
def withGraphQLSchema (c : RuntimeConfig) (schema : Option String) : RuntimeConfig :=
  match schema with
  | some s => if Text.isBlank s then c else { c with graphqlSchema := some s }
  | none => c

def withEntity (c : RuntimeConfig) (name : String) (e : Entity) : Except ConfigError RuntimeConfig :=
  if Text.isBlank name then .error (.validation "entity name cannot be empty")
  else if c.entities.contains name then .error (.validation ("entity '" ++ name ++ "' already exists"))
  else .ok { c with entities := c.entities.insert name e }

end RuntimeConfig

/-- a configuration in use; two uses of the same one have the same number -/
structure Snapshot where
  id : Nat
  config : RuntimeConfig

end EntityGateway
