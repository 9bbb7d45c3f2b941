/-
Configurations as JSON: the document, and what follows from it.
-/
import EntityGateway.Config.Encoding
import EntityGateway.Json.Access

namespace EntityGateway

open Json (obj ofText? ofTexts)

def RuntimeConfig.entityNames (l : List (String × Entity)) : Json := ofTexts (l.map (·.1))

def RuntimeConfig.entityView (c : RuntimeConfig) (name : String) (e : Entity) : Json :=
  obj [("data_source", .string (c.sourceOf e)), ("rest_path", .string (RuntimeConfig.restPath name e)),
    ("procedure", .boolean e.isProcedure),
    ("actions", .array (e.permissions.map fun p => ofTexts (p.actions.map Action.name)))]

def RuntimeConfig.view (c : RuntimeConfig) : Json :=
  let sources := c.dataSources.entries
  obj [("document", c.toJson), ("default_found", .boolean c.defaultSource?.isSome),
    ("development", .boolean c.isDevelopment), ("cosmos", .boolean c.usesDocumentStore),
    ("graphql_schema", ofText? c.graphqlSchema),
    ("tokens", .object (sources.map fun s => (s.1, ofText? s.2.accessToken))),
    ("entities", .object (c.entities.entries.map fun e => (e.1, c.entityView e.1 e.2))),
    ("served", .object (sources.map fun s => (s.1, entityNames (c.entitiesOn s.1))))]

end EntityGateway
