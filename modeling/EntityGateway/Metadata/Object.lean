/-
Database objects as they are found in a database: tables, views and stored procedures with their shapes.
-/
import EntityGateway.Config.Document

namespace EntityGateway

/-- a column -/
structure Column where
  name : String
  dataType : String
  nullable : Bool := false
  hasDefault : Bool := false
deriving DecidableEq, Repr

/-- a foreign key and the object it leads to -/
structure ForeignKey where
  schema : Option String
  name : String
  columns : List String
  referencedColumns : List String
deriving DecidableEq, Repr

/-- a parameter of a stored procedure -/
structure Parameter where
  name : String
  dataType : String
deriving DecidableEq, Repr

/-- an object of a database -/
structure DatabaseObject where
  schema : Option String
  name : String
  kind : ObjectKind := .table
  columns : List Column := []
  primaryKey : List String := []
  foreignKeys : List ForeignKey := []
  parameters : List Parameter := []
deriving DecidableEq, Repr

/-- whether a foreign key leads to an object; a schema that is not given fits every schema -/
def ForeignKey.leadsTo (k : ForeignKey) (o : DatabaseObject) : Bool :=
  k.name == o.name && (k.schema.isNone || o.schema.isNone || k.schema == o.schema)

def qualified (schema : Option String) (name : String) : String :=
  match schema with
  | some s => s ++ "." ++ name
  | none => name

namespace DatabaseObject

def qualifiedName (o : DatabaseObject) : String := qualified o.schema o.name

/-- the first column of a name -/
def column? (o : DatabaseObject) (name : String) : Option Column := o.columns.find? (·.name == name)

/-- whether a foreign key of one object leads to another -/
def references (o other : DatabaseObject) : Bool := o.foreignKeys.any (·.leadsTo other)

end DatabaseObject

end EntityGateway
