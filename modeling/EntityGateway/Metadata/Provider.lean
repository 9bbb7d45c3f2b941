/-
Metadata providers: what is known of the objects of one data source.

A provider is made for a data source of a configuration and is initialized as often as needed. Initialization begins by
forgetting the problems of the last time. A document store is done then, from the text of its schema; a database is
asked for the objects of the entities, each object once, and the answer ends the initialization. The objects of the
last time stay until new ones are there.
-/
import EntityGateway.Config.Snapshot
import EntityGateway.Error
import EntityGateway.Metadata.Dialect
import EntityGateway.Metadata.ModelSchema
import EntityGateway.Metadata.Reference

namespace EntityGateway

/-- what comes of asking a database for its objects -/
inductive Outcome where
  | found (objects : List DatabaseObject)
  | failed (error : GatewayError)
  /-- the one who was asked broke down -/
  | aborted (reason : String)

/-- how an initialization ends -/
inductive Ending where
  | answered (outcome : Outcome)
  | timedOut (after : Duration)
  /-- it was over as soon as it began, with or without an error -/
  | atOnce (error : Option MetadataException)

def Ending.succeeds : Ending → Bool
  | .answered (.found _) => true
  | .atOnce none => true
  | _ => false

/-- what an initialization waits for -/
inductive Begun where
  /-- a database is to be asked for objects -/
  | asks (dialect : Dialect) (source : DataSource) (refs : List ObjectRef)
  /-- nothing -/
  | over (error : Option MetadataException)

/-- what is known of the objects of a data source -/
structure ProviderState where
  objects : NameMap DatabaseObject := .empty
  /-- the problems, in the order in which they were found -/
  exceptions : List MetadataException := []
  initialized : Bool := false

namespace ProviderState

/-- the problems forgotten -/
def reset (s : ProviderState) : ProviderState := { s with exceptions := [], initialized := false }

def record (s : ProviderState) (e : MetadataException) : ProviderState := { s with exceptions := s.exceptions ++ [e] }

/-- new objects in the place of the old ones, and the problems with the others -/
def publish (s : ProviderState) (objects : NameMap DatabaseObject) (problems : List MetadataException) :
    ProviderState :=
  { objects, exceptions := s.exceptions ++ problems, initialized := true }

end ProviderState

/-- a provider of the metadata of one data source -/
structure Provider where
  name : String
  kind : ProviderKind
  config : RuntimeConfig
  state : ProviderState := {}

namespace Provider

def source? (p : Provider) : Option DataSource := p.config.dataSources.get? p.name

def databaseType (p : Provider) : DatabaseType :=
  match p.kind with
  | .documentStore => .documentStore
  | .sql _ => (p.source?.map (·.databaseType)).getD (.other "")

/-- the entities bound to the data source -/
def entities (p : Provider) : List (String × Entity) := p.config.entitiesOn p.name

/-! ## Databases -/

def refOf (d : Dialect) (e : Entity) : ObjectRef := .ofText e.source.object e.source.kind d.defaultSchema

/-- the references of entities, each once -/
def refs (d : Dialect) (entities : List (String × Entity)) : List ObjectRef :=
  entities.foldl (fun refs e => if refs.contains (refOf d e.2) then refs else refs ++ [refOf d e.2]) []

/-- the wording about a parameter that cannot be given -/
def badParameter (p : Parameter) : String := "parameter '" ++ p.name ++ "' has type " ++ p.dataType

/-- an object as an entity uses it: a procedure whose parameters can be given, or a table or view with a key -/
def checkObject (source : String) (d : Dialect) (name : String) (keyFields : List String) (o : DatabaseObject) :
    Except MetadataException DatabaseObject :=
  match o.kind with
  | .storedProcedure =>
    match o.parameters.find? fun p => !d.supportsParameter p.dataType with
    | some p => .error (.unsupportedProcedure source name o.qualifiedName (badParameter p))
    | none => .ok o
  | .table | .view =>
    match keyFields.find? fun k => (o.column? k).isNone with
    | some missing => .error (.missingObject source name (o.qualifiedName ++ "." ++ missing))
    | none =>
      let o := if keyFields.isEmpty then o else { o with primaryKey := keyFields }
      if o.primaryKey.isEmpty then .error (.missingPrimaryKey source name o.qualifiedName) else .ok o

/-- the object of an entity among those that were found -/
def entityObject (source : String) (d : Dialect) (found : List DatabaseObject) (name : String) (e : Entity) :
    Except MetadataException DatabaseObject :=
  match found.find? (refOf d e).fits with
  | some o => checkObject source d name e.source.keyFields o
  | none => .error (.missingObject source name (refOf d e).qualifiedName)

/-! ## Document stores -/

/-- the schema of a document store: that of its options, or the one that came with the configuration -/
def schemaText (p : Provider) : Option String := (p.source?.bind (·.textOption "schema")) <|> p.config.graphqlSchema

/-- the name of the model behind an entity, in lower case -/
def modelName (name : String) (e : Entity) : String :=
  Unicode.lower ((e.graphql.names.map (·.singular)).getD name)

/-- the object of an entity among the models -/
def modelObject (source : String) (database : Option String) (models : NameMap (List Column)) (name : String)
    (e : Entity) : Except MetadataException DatabaseObject :=
  match models.get? (modelName name e) with
  | some columns => .ok { schema := database, name := e.source.object, columns, primaryKey := ["id"] }
  | none => .error (.missingObject source name ("GraphQL type '" ++ modelName name e ++ "'"))

/-! ## Initialization -/

def objectsOf (made : List (String × Except MetadataException DatabaseObject)) : NameMap DatabaseObject :=
  NameMap.ofList (made.filterMap fun m => m.2.toOption.map fun o => (m.1, o))

def problem? : Except MetadataException DatabaseObject → Option MetadataException
  | .ok _ => none
  | .error e => some e

/-- the problems of the objects that could not be made -/
def problemsOf (made : List (String × Except MetadataException DatabaseObject)) : List MetadataException :=
  made.filterMap fun m => problem? m.2

/-- the provider with an object or a problem for each of its entities -/
def publish (p : Provider) (make : String → Entity → Except MetadataException DatabaseObject) : Provider :=
  let made := p.entities.map fun e => (e.1, make e.1 e.2)
  { p with state := p.state.publish (objectsOf made) (problemsOf made) }

def record (p : Provider) (e : MetadataException) : Provider := { p with state := p.state.record e }

def notBound : String := "data source is not part of the bound configuration"

/-- an initialization that ends with a problem at once -/
def refuse (p : Provider) (e : MetadataException) : Provider × Begun := (p.record e, .over (some e))

def begin (p : Provider) : Provider × Begun :=
  let p := { p with state := p.state.reset }
  match p.kind with
  | .sql d =>
    match p.source? with
    | some source => (p, .asks d source (refs d p.entities))
    | none => p.refuse (.introspection p.name notBound)
  | .documentStore =>
    match p.schemaText with
    | some schema =>
      let models := ModelSchema.models schema
      (p.publish (modelObject p.name (p.source?.bind (·.textOption "database")) models), .over none)
    | none => p.refuse (.missingSchema p.name)

/-- the objects that a database has answered with -/
def publishFound (p : Provider) (found : List DatabaseObject) : Provider :=
  match p.kind with
  | .sql d => p.publish (entityObject p.name d found)
  | .documentStore => p

/-- the end of an initialization -/
def finish (p : Provider) : Ending → Provider
  | .answered (.found objects) => p.publishFound objects
  | .answered (.failed e) => p.record (.introspection p.name e.message)
  | .answered (.aborted reason) => p.record (.introspection p.name ("initialization aborted: " ++ reason))
  | .timedOut after => p.record (.timeout p.name after)
  | .atOnce _ => p

/-- The end of an initialization that nobody waits for any more. An answer is taken in all the same; a limit that is
passed and a breakdown are noted by the one who waits, and so by nobody. -/
def finishAlone (p : Provider) : Ending → Provider
  | .answered (.aborted _) | .timedOut _ | .atOnce _ => p
  | ending => p.finish ending

end Provider

end EntityGateway
