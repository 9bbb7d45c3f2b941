/-
A server that stands for PostgreSQL: the rows of its catalogs and its failures are written down, and what it is asked is
remembered.
-/
import EntityGateway.Json.Access
import EntityGateway.Metadata.Postgres

namespace EntityGateway.Simulation

open Postgres (CatalogQuery)

/-- what a server knows; rows are arrays of JSON values -/
structure CatalogServer where
  /-- the rows of a query with its two parameters -/
  rows : String → String → String → List (List Json)
  /-- the failure of a query -/
  failure? : String → Option String
  /-- how many logins are refused -/
  refusals : Nat

/-- what a server has seen -/
structure ServerLog where
  /-- queries with their parameters -/
  queries : List (String × String × String) := []
  logins : NameMap Unit := .empty
  /-- the number of logins, refused ones too -/
  attempts : Nat := 0

/-- the text in a column of a row -/
def cell (row : List Json) (i : Nat) : String := (row[i]?.bind Json.text?).getD ""

/-- the truth value in a column of a row -/
def cellFlag (row : List Json) (i : Nat) : Bool :=
  match row[i]? with
  | some (.boolean b) => b
  | _ => false

/-- the name of a query, which is that of the catalog it reads, and its parameters -/
def queryKey {α : Type} : CatalogQuery α → String × String × String
  | .columns schema name => ("information_schema.columns", schema, name)
  | .primaryKey schema name => ("pg_index", schema, name)
  | .foreignKeys schema name => ("pg_constraint", schema, name)
  | .routine schema name => ("information_schema.routines", schema, name)
  | .parameters schema specific => ("information_schema.parameters", schema, specific)

def decodeRows {α : Type} (q : CatalogQuery α) (rows : List (List Json)) : α :=
  match q with
  | .columns _ _ => rows.map fun r => ⟨cell r 0, cell r 1, cellFlag r 2, cellFlag r 3⟩
  | .primaryKey _ _ => rows.map fun r => cell r 0
  | .foreignKeys _ _ => rows.map fun r => ⟨cell r 0, cell r 1, cell r 2, cell r 3, cell r 4⟩
  | .routine _ _ => rows.head?.map fun r => cell r 0
  | .parameters _ _ => rows.map fun r => ⟨cell r 0, cell r 1⟩

/-- a connection as it was asked for -/
structure Access where
  /-- a user and a password, with a colon between them -/
  login : String
  database : String
  /-- whether the connection string cannot be understood -/
  malformed : Bool := false

/-- the credentials of a login; a token stands for the password -/
def Access.credentials (a : Access) (token : Option String) : String :=
  let user := String.ofList (a.login.toList.takeWhile (· != ':'))
  ((token.map fun t => user ++ ":" ++ t).getD a.login) ++ "@" ++ a.database

namespace CatalogServer

/-- a login, which is counted and may be refused -/
def login (s : CatalogServer) (a : Access) (token : Option String) (log : ServerLog) :
    Except DatabaseError Unit × ServerLog :=
  if a.malformed then (.error (.configuration ""), log)
  else
    let log := { log with logins := log.logins.insert (a.credentials token) (), attempts := log.attempts + 1 }
    if log.attempts ≤ s.refusals then (.error (.server "login refused"), log) else (.ok (), log)

def answer {α : Type} (s : CatalogServer) (q : CatalogQuery α) (log : ServerLog) :
    Except DatabaseError α × ServerLog :=
  let (name, schema, object) := queryKey q
  let log := { log with queries := log.queries ++ [(name, schema, object)] }
  match s.failure? name with
  | some reason => (.error (.server reason), log)
  | none => (.ok (decodeRows q (s.rows name schema object)), log)

def server (s : CatalogServer) (a : Access) : Postgres.Server ServerLog where
  login _ token log := s.login a token log
  answer q log := s.answer q log

end CatalogServer

end EntityGateway.Simulation
