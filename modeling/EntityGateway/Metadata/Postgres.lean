/-
Introspection of PostgreSQL through its catalogs.

The objects of a database are put together from the rows of five queries. A table or view is there if it has columns,
a procedure if there is a routine of its name; what is not there is left out. The first query that fails ends the
introspection. A connection is opened once for a connection string, with the access token of that time, and kept.
-/
import EntityGateway.Metadata.Introspection

namespace EntityGateway.Postgres

/-- a row about one column of a foreign key -/
structure ForeignKeyRow where
  constraint : String
  schema : String
  name : String
  column : String
  referencedColumn : String
deriving DecidableEq, Repr

/-- a query of the catalogs, with what it answers -/
inductive CatalogQuery : Type → Type where
  | columns (schema name : String) : CatalogQuery (List Column)
  | primaryKey (schema name : String) : CatalogQuery (List String)
  | foreignKeys (schema name : String) : CatalogQuery (List ForeignKeyRow)
  /-- the name under which the parameters of a procedure are found -/
  | routine (schema name : String) : CatalogQuery (Option String)
  | parameters (schema specific : String) : CatalogQuery (List Parameter)

/-- a database server: how it takes logins and queries; `σ` is its state -/
structure Server (σ : Type) where
  login : String → Option String → σ → Except DatabaseError Unit × σ
  answer : {α : Type} → CatalogQuery α → σ → Except DatabaseError α × σ

/-- a conversation with a server, which ends at the first error -/
abbrev Conversation (σ α : Type) := ExceptT DatabaseError (StateM σ) α

def Server.query (s : Server σ) (q : CatalogQuery α) : Conversation σ α := s.answer q

/-! ## Objects from rows -/

def ForeignKeyRow.start (r : ForeignKeyRow) : ForeignKey := ⟨some r.schema, r.name, [r.column], [r.referencedColumn]⟩

/-- a foreign key with one more pair of columns -/
def ForeignKeyRow.extend (r : ForeignKeyRow) (k : ForeignKey) : ForeignKey :=
  { k with columns := k.columns ++ [r.column], referencedColumns := k.referencedColumns ++ [r.referencedColumn] }

/-- a row added to the foreign keys so far, to the key of its constraint or as a new one -/
def addRow (keys : List (String × ForeignKey)) (r : ForeignKeyRow) : List (String × ForeignKey) :=
  if keys.any (·.1 == r.constraint) then
    keys.map fun k => if k.1 = r.constraint then (k.1, r.extend k.2) else k
  else keys ++ [(r.constraint, r.start)]

/-- the foreign keys of rows, in the order in which their constraints appear -/
def groupRows (rows : List ForeignKeyRow) : List ForeignKey := (rows.foldl addRow []).map (·.2)

def loadRelation (s : Server σ) (schema name : String) (kind : ObjectKind) :
    Conversation σ (Option DatabaseObject) := do
  let columns ← s.query (.columns schema name)
  if columns.isEmpty then return none
  let primaryKey ← s.query (.primaryKey schema name)
  let rows ← s.query (.foreignKeys schema name)
  return some { schema := some schema, name, kind, columns, primaryKey, foreignKeys := groupRows rows }

def loadRoutine (s : Server σ) (schema name : String) : Conversation σ (Option DatabaseObject) := do
  match ← s.query (.routine schema name) with
  | none => return none
  | some specific =>
    let parameters ← s.query (.parameters schema specific)
    return some { schema := some schema, name, kind := .storedProcedure, parameters }

def publicSchema : String := "public"

def load (s : Server σ) (r : ObjectRef) : Conversation σ (Option DatabaseObject) :=
  let schema := r.schema.getD publicSchema
  match r.kind with
  | .storedProcedure => loadRoutine s schema r.name
  | .table | .view => loadRelation s schema r.name r.kind

def loadAll (s : Server σ) : List ObjectRef → Conversation σ (List DatabaseObject)
  | [] => return []
  | r :: rest => do
    let o ← load s r
    let objects ← loadAll s rest
    return o.toList ++ objects

/-! ## Connections -/

/-- the connection strings with an open connection, and the state of the server -/
structure Session (σ : Type) where
  connected : List String := []
  server : σ

/-- an open connection for a data source -/
def connect (s : Server σ) (source : DataSource) (session : Session σ) : Except DatabaseError Unit × Session σ :=
  if session.connected.contains source.connectionString then (.ok (), session)
  else
    match s.login source.connectionString source.accessToken session.server with
    | (.ok (), server) => (.ok (), { connected := source.connectionString :: session.connected, server })
    | (.error e, server) => (.error e, { session with server })

/-- the objects of references in a data source -/
def introspect (s : Server σ) (source : DataSource) (refs : List ObjectRef) (session : Session σ) :
    Except DatabaseError (List DatabaseObject) × Session σ :=
  match connect s source session with
  | (.error e, session) => (.error e, session)
  | (.ok (), session) =>
    let (result, server) := (loadAll s refs).run session.server
    (result, { session with server })

def outcome : Except DatabaseError (List DatabaseObject) → Outcome
  | .ok objects => .found objects
  | .error e => .failed (.database e)

def introspectors (s : Server σ) : Introspectors (Session σ) where
  serves d := d == .postgres
  ask _ source refs session :=
    let (result, session) := introspect s source refs session
    ({ outcome := outcome result }, session)

end EntityGateway.Postgres
