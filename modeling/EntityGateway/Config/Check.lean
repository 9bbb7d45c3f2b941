/-
Checks of a configuration that need nothing but the configuration.

Each check goes through the configuration in a fixed order (data sources by name, then the endpoints, then entities by
name) and ends at the first condition that does not hold.
-/
import EntityGateway.Config.Snapshot

namespace EntityGateway.RuntimeConfig

/-- nothing if a condition holds, and otherwise an error -/
def ensure (condition : Bool) (e : ConfigError) : Except ConfigError Unit := if condition then .ok () else .error e

/-! ## Properties -/

/-- a relational source has a connection string, a document store a database -/
def checkSource (name : String) (source : DataSource) : Except ConfigError Unit := do
  ensure (!source.databaseType.isRelational || !Text.isBlank source.connectionString)
    (.validation ("data source '" ++ name ++ "' (" ++ source.databaseType.name ++ ") requires a connection string"))
  ensure (source.databaseType != .documentStore || (source.textOption "database").isSome)
    (.validation ("data source '" ++ name ++ "' (cosmosdb_nosql) requires options.database"))

/-- a path starts with a slash -/
def checkPath (label path : String) : Except ConfigError Unit :=
  ensure (Text.startsWith '/' path) (.validation (label ++ " path must start with '/': " ++ path))

/-- both paths are paths, and differ if both endpoints are enabled -/
def checkEndpoints (rest graphql : Endpoint) : Except ConfigError Unit := do
  checkPath "rest" rest.path
  checkPath "graphql" graphql.path
  ensure (!rest.enabled || !graphql.enabled || rest.path != graphql.path)
    (.validation ("rest and graphql cannot share the path " ++ rest.path))

/-- an entity is on a data source, has an object, and key fields only if it is no procedure -/
def checkEntity (c : RuntimeConfig) (name : String) (e : Entity) : Except ConfigError Unit := do
  ensure (c.dataSources.contains (c.sourceOf e)) (.missingReference "data source" (c.sourceOf e))
  ensure (!Text.isBlank e.source.object) (.validation ("entity '" ++ name ++ "' has an empty source object"))
  ensure (!e.isProcedure || e.source.keyFields.isEmpty)
    (.validation ("entity '" ++ name ++ "': key-fields are not allowed on stored procedures"))

/-- every entity by itself, and no route taken twice; `taken` holds the routes so far -/
def checkEntities (c : RuntimeConfig) (taken : List String) : List (String × Entity) → Except ConfigError Unit
  | [] => .ok ()
  | (name, e) :: rest => do
    checkEntity c name e
    if e.rest.enabled then
      let path := restPath name e
      ensure (!taken.contains path) (.duplicatePath path)
      checkEntities c (path :: taken) rest
    else checkEntities c taken rest

/-- what holds of every configuration that is put to use -/
def checkProperties (c : RuntimeConfig) : Except ConfigError Unit := do
  ensure (!c.dataSources.isEmpty) noDataSource
  ensure c.defaultSource?.isSome (.missingReference "data source" c.defaultDataSource)
  c.dataSources.entries.forM fun s => checkSource s.1 s.2
  checkEndpoints c.runtime.rest c.runtime.graphql
  checkEntities c [] c.entities.entries

/-! ## Permissions -/

/-- the actions that permissions may name -/
def knownActions : List String := ["*", "create", "read", "update", "delete", "execute"]

/-- whether an action makes sense for a kind of object -/
def actionSuits (kind : ObjectKind) (action : String) : Bool :=
  match kind with
  | .storedProcedure => action == "*" || action == "execute"
  | .table | .view => action != "execute"

/-- how a kind of object is called in the wording of an error -/
def kindTitle : ObjectKind → String
  | .table => "Table"
  | .view => "View"
  | .storedProcedure => "StoredProcedure"

def checkAction (name role : String) (kind : ObjectKind) (action : String) : Except ConfigError Unit := do
  let heading := "entity '" ++ name ++ "' role '" ++ role ++ "': "
  ensure (knownActions.contains action) (.validation (heading ++ "unknown action '" ++ action ++ "'"))
  ensure (actionSuits kind action)
    (.validation (heading ++ "action '" ++ action ++ "' is not valid for a " ++ kindTitle kind))

def checkPermission (name : String) (kind : ObjectKind) (p : Permission) : Except ConfigError Unit := do
  ensure (!Text.isBlank p.role) (.validation ("entity '" ++ name ++ "' has a permission with an empty role"))
  let actions := p.actions.map fun a => Unicode.lower a.name
  ensure (!actions.isEmpty) (.validation ("entity '" ++ name ++ "' role '" ++ p.role ++ "' has no actions"))
  actions.forM fun action => checkAction name p.role kind action
  ensure (actions.length ≤ 1 || !actions.contains "*")
    (.validation ("entity '" ++ name ++ "' role '" ++ p.role ++ "': '*' cannot be combined with other actions"))

/-- every entity has permissions, and every permission makes sense -/
def checkPermissions (c : RuntimeConfig) : Except ConfigError Unit :=
  c.entities.entries.forM fun (name, e) => do
    ensure (!e.permissions.isEmpty) (.validation ("entity '" ++ name ++ "' has no permissions"))
    e.permissions.forM fun p => checkPermission name e.source.kind p

/-! ## Relationships -/

def aboutRelationship (name relationship problem : String) : ConfigError :=
  .validation ("relationship " ++ name ++ "." ++ relationship ++ ": " ++ problem)

def checkRelationship (c : RuntimeConfig) (name : String) (e : Entity) (label : String) (r : Relationship) :
    Except ConfigError Unit :=
  match c.entities.get? r.target with
  | none => .error (.missingReference "relationship target entity" (name ++ "." ++ label ++ " -> " ++ r.target))
  | some target => do
    ensure (c.sourceOf e == c.sourceOf target)
      (aboutRelationship name label "entities on different data sources cannot be related")
    ensure (!e.isProcedure && !target.isProcedure)
      (aboutRelationship name label "stored procedures cannot take part in relationships")
    ensure (r.sourceFields.length == r.targetFields.length)
      (aboutRelationship name label "source-fields and target-fields must have the same length")

/-- every relationship leads to an entity it can lead to -/
def checkRelationships (c : RuntimeConfig) : Except ConfigError Unit :=
  c.entities.entries.forM fun (name, e) => e.relationships.entries.forM fun (label, r) =>
    checkRelationship c name e label r

end EntityGateway.RuntimeConfig
