/-
Database objects, metadata providers and reports as JSON, and the labels of databases.
-/
import EntityGateway.Metadata.ProviderSet
import EntityGateway.View.Error

namespace EntityGateway

open Json (obj ofText? ofTexts)

def Column.view (c : Column) : Json :=
  obj [("name", .string c.name), ("type", .string c.dataType), ("nullable", .boolean c.nullable),
    ("has_default", .boolean c.hasDefault)]

def ForeignKey.view (k : ForeignKey) : Json :=
  obj [("schema", ofText? k.schema), ("name", .string k.name), ("columns", ofTexts k.columns),
    ("referenced_columns", ofTexts k.referencedColumns)]

def Parameter.view (p : Parameter) : Json := obj [("name", .string p.name), ("type", .string p.dataType)]

def DatabaseObject.view (o : DatabaseObject) : Json :=
  obj [("schema", ofText? o.schema), ("name", .string o.name), ("qualified_name", .string o.qualifiedName),
    ("kind", .string o.kind.name), ("columns", .array (o.columns.map Column.view)),
    ("primary_key", ofTexts o.primaryKey), ("foreign_keys", .array (o.foreignKeys.map ForeignKey.view)),
    ("parameters", .array (o.parameters.map Parameter.view))]

def ObjectRef.view (r : ObjectRef) : Json :=
  obj [("schema", ofText? r.schema), ("name", .string r.name), ("kind", .string r.kind.name),
    ("qualified_name", .string r.qualifiedName)]

def Provider.view (p : Provider) : Json :=
  obj [("data_source", .string p.name), ("database_type", .string p.databaseType.name),
    ("initialized", .boolean p.state.initialized),
    ("exceptions", .array (p.state.exceptions.map fun e => (GatewayError.metadata e).view)),
    ("objects", .object (p.state.objects.entries.map fun o => (o.1, o.2.view)))]

def DatabaseType.label : DatabaseType → String
  | .sqlServer => "MsSql"
  | .sqlWarehouse => "DwSql"
  | .postgres => "PostgreSql"
  | .mySql => "MySql"
  | .documentStore => "CosmosDbNoSql"
  | .distributedPostgres => "CosmosDbPostgreSql"
  | .other _ => "Other"

def Dialect.label : Dialect → String
  | .sqlServer => "MsSql"
  | .postgres => "PostgreSql"
  | .mySql => "MySql"

def ProviderSet.view (s : ProviderSet) : Json :=
  obj [("names", ofTexts s.providers.names), ("empty", .boolean s.providers.isEmpty),
    ("providers", .array (s.providers.values.map Provider.view))]

def InitializationReport.view (r : InitializationReport) : Json :=
  obj [("succeeded", ofTexts r.succeeded), ("failed", ofTexts r.failed)]

def sortedTexts (l : List String) : List String := l.mergeSort fun a b => !(b < a)

/-- the wordings of problems, in order -/
def MetadataException.texts (l : List MetadataException) : Json := ofTexts (sortedTexts (l.map message))

end EntityGateway
