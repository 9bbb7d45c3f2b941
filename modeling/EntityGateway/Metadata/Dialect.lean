/-
SQL dialects, and which kind of metadata provider serves a database.
-/
import EntityGateway.Config.Document

namespace EntityGateway

/-- a dialect of SQL -/
inductive Dialect where
  | sqlServer
  | postgres
  | mySql
deriving DecidableEq, Repr

namespace Dialect

def defaultSchema : Dialect → Option String
  | .sqlServer => some "dbo"
  | .postgres => some "public"
  | .mySql => none

/-- types of parameters that cannot be given by a request -/
def unsupportedTypes : Dialect → List String
  | .sqlServer => ["table type", "structured", "sql_variant", "cursor"]
  | .postgres => ["record", "refcursor", "anyelement", "anyarray", "internal"]
  | .mySql => ["geometry", "set"]

/-- whether a parameter of a type can be given by a request -/
def supportsParameter (d : Dialect) (dataType : String) : Bool := !d.unsupportedTypes.contains (Unicode.lower dataType)

end Dialect

/-- the kind of provider that reads the metadata of a data source -/
inductive ProviderKind where
  | sql (dialect : Dialect)
  | documentStore
deriving DecidableEq, Repr

namespace DatabaseType

/-- the kind of provider that serves a database; none if it is not supported -/
def providerKind : DatabaseType → Option ProviderKind
  | .sqlServer | .sqlWarehouse => some (.sql .sqlServer)
  | .postgres => some (.sql .postgres)
  | .mySql => some (.sql .mySql)
  | .documentStore => some .documentStore
  | .distributedPostgres | .other _ => none

/-- whether a database is served when these dialects have an introspector -/
def isServed (dialects : Dialect → Bool) (t : DatabaseType) : Bool :=
  match t.providerKind with
  | some (.sql d) => dialects d
  | some .documentStore => true
  | none => false

end DatabaseType

end EntityGateway
