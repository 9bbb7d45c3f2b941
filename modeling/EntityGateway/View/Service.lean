/-
What services have derived from a configuration, and reports of changes, as JSON.
-/
import EntityGateway.Orchestration.Job
import EntityGateway.Service.Suite
import EntityGateway.View.Metadata

namespace EntityGateway

open Json (obj ofText? ofTexts)

def GraphQLType.view (t : GraphQLType) : Json :=
  obj [("entity", .string t.entity), ("type_name", .string t.typeName), ("queries", ofTexts t.queries),
    ("mutations", ofTexts t.mutations), ("fields", ofTexts t.fields)]

def TypeCatalog.view (t : TypeCatalog) : Json := .array (t.values.map GraphQLType.view)

/-- the roles of an entity with their actions, each once and in order -/
def PermissionMap.rolesView (m : PermissionMap) (entity : String) : Json :=
  .object (((m.get? entity).getD .empty).entries.map fun (role, actions) =>
    (role, ofTexts ((EntityAction.all.filter actions.contains).map EntityAction.name)))

def PermissionMap.view (m : PermissionMap) (entities : List String) : Json :=
  obj [("count", Json.ofNat m.size), ("entities", .object (entities.map fun e => (e, m.rolesView e)))]

/-- what services have derived, and what the configuration says that they serve -/
def Services.view (s : Services) (h : ConfigHolder) : List (String × Json) :=
  let config := h.held.map (·.config)
  let source := config.bind (·.defaultSource?)
  [("permissions", s.permissions.view ((config.map (·.entities.names)).getD [])),
    ("validator_bound", .boolean s.rules.isSome), ("types", s.types.view),
    ("document_version", (s.document.map fun d => Json.ofNat d.version).getD .null),
    ("document_current", .boolean (s.currentDocument h).isSome),
    ("connection", ofText? (source.map (·.connectionString))), ("token", ofText? (source.bind (·.accessToken))),
    ("graphql_schema", ofText? (config.bind (·.graphqlSchema)))]

def ChangeReport.view (r : ChangeReport) : Json :=
  obj [("version", Json.ofNat r.version), ("initialization", r.initialization.view),
    ("metadata_exceptions", MetadataException.texts r.exceptions), ("diagnostics", ofTexts r.diagnostics)]

end EntityGateway
