/-
Configuration documents: data sources, runtime options and entities, as they are written.

A document describes the data sources a gateway serves from, the entities it offers with their source objects,
permissions, relationships and validation rules, and the endpoints it offers them at.
-/
import EntityGateway.NameMap
import EntityGateway.Json.Value
import EntityGateway.Unicode.Lowercase

namespace EntityGateway

/-! ## Data sources -/

/-- the kind of database behind a data source; a name that is not known is kept as it is written -/
inductive DatabaseType where
  | sqlServer
  | sqlWarehouse
  | postgres
  | mySql
  | documentStore
  | distributedPostgres
  | other (name : String)
deriving DecidableEq, Repr

namespace DatabaseType

def known : List (String × DatabaseType) :=
  [("mssql", .sqlServer), ("dwsql", .sqlWarehouse), ("postgresql", .postgres), ("mysql", .mySql),
    ("cosmosdb_nosql", .documentStore), ("cosmosdb_postgresql", .distributedPostgres)]

def name : DatabaseType → String
  | .sqlServer => "mssql"
  | .sqlWarehouse => "dwsql"
  | .postgres => "postgresql"
  | .mySql => "mysql"
  | .documentStore => "cosmosdb_nosql"
  | .distributedPostgres => "cosmosdb_postgresql"
  | .other name => name

/-- the kind of a name in any case -/
def ofName (s : String) : DatabaseType :=
  match known.find? (·.1 == Unicode.lower s) with
  | some entry => entry.2
  | none => .other s

/-- relational databases, which need a connection string -/
def isRelational : DatabaseType → Bool
  | .sqlServer | .sqlWarehouse | .postgres | .mySql | .distributedPostgres => true
  | .documentStore | .other _ => false

end DatabaseType

/-- one database and how to reach it -/
structure DataSource where
  databaseType : DatabaseType
  connectionString : String := ""
  options : NameMap Json := .empty
  /-- a token that replaces the password; it is given at run time and never written -/
  accessToken : Option String := none

/-- an option that is a text -/
def DataSource.textOption (source : DataSource) (name : String) : Option String :=
  (source.options.get? name).bind Json.text?

/-! ## Runtime options -/

/-- whether the gateway checks permissions and relationships of what it is given -/
inductive HostMode where
  | development
  | production
deriving DecidableEq, Repr

/-- origins that may call from a browser -/
structure CrossOrigin where
  origins : List String := []
  allowCredentials : Bool := false

/-- what is required of a token -/
structure TokenRules where
  audience : Option String
  issuer : Option String

/-- how callers are authenticated -/
structure Authentication where
  provider : String := "StaticWebApps"
  token : Option TokenRules := none

/-- the options of the host -/
structure HostOptions where
  mode : HostMode := .production
  crossOrigin : CrossOrigin := {}
  authentication : Authentication := {}

/-- an endpoint and its path -/
structure Endpoint where
  enabled : Bool := true
  path : String

/-- the endpoints and the host -/
structure RuntimeOptions where
  rest : Endpoint := ⟨true, "/api"⟩
  graphql : Endpoint := ⟨true, "/graphql"⟩
  host : HostOptions := {}

/-! ## Entities -/

/-- the kind of database object behind an entity -/
inductive ObjectKind where
  | table
  | view
  | storedProcedure
deriving DecidableEq, Repr

def ObjectKind.name : ObjectKind → String
  | .table => "table"
  | .view => "view"
  | .storedProcedure => "stored-procedure"

/-- the object behind an entity -/
structure EntitySource where
  /-- the name of the object, with or without a schema -/
  object : String
  kind : ObjectKind := .table
  parameters : NameMap Json := .empty
  keyFields : List String := []

/-- the route of an entity -/
structure RestOptions where
  enabled : Bool := true
  path : Option String := none

/-- the names of the GraphQL type of an entity -/
structure TypeNames where
  singular : String
  plural : Option String

/-- the GraphQL type of an entity -/
structure GraphQLOptions where
  enabled : Bool := true
  names : Option TypeNames := none

/-- the fields an action may touch -/
structure FieldScope where
  included : List String
  excluded : List String

/-- an action that a role may perform, by its name or with limits -/
inductive Action where
  | named (name : String)
  | limited (name : String) (fields : Option FieldScope) (policy : Option Json)

def Action.name : Action → String
  | .named name => name
  | .limited name _ _ => name

/-- the actions of one role -/
structure Permission where
  role : String
  actions : List Action

/-- how many entities a relationship leads to -/
inductive Cardinality where
  | one
  | many
deriving DecidableEq, Repr

/-- a relationship to another entity -/
structure Relationship where
  cardinality : Cardinality
  target : String
  sourceFields : List String
  targetFields : List String

/-- what is required of one field of a request -/
structure FieldRule where
  required : Option Bool := none
  format : Option String := none
  maxLength : Option Nat := none
  minLength : Option Nat := none
  pattern : Option String := none
  allowed : Option (List Json) := none
  minimum : Option Decimal.Binary64 := none
  maximum : Option Decimal.Binary64 := none

/-- something the gateway offers: a database object with its rules -/
structure Entity where
  source : EntitySource
  /-- the data source it is on; the default one if it names none -/
  dataSource : Option String := none
  rest : RestOptions := {}
  graphql : GraphQLOptions := {}
  permissions : List Permission := []
  relationships : NameMap Relationship := .empty
  validation : NameMap FieldRule := .empty

namespace Entity

/-- an entity on a table, with every action for one role -/
def onTable (object role : String) : Entity :=
  { source := { object := object }, permissions := [⟨role, [.named "*"]⟩] }

def isProcedure (e : Entity) : Bool := e.source.kind == .storedProcedure

end Entity

/-! ## Documents -/

/-- a document: an unnamed data source, named ones, and everything else -/
structure ConfigDocument where
  schema : Option String
  dataSource : Option DataSource
  dataSources : NameMap DataSource
  defaultDataSource : Option String
  runtime : RuntimeOptions
  entities : NameMap Entity

end EntityGateway
