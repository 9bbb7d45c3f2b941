/-
Configuration data as JSON values: every member is written, with its default where the document had none. Access
tokens are never written.
-/
import EntityGateway.Config.Snapshot

namespace EntityGateway

open Json (ofTexts ofText?)

def NameMap.toJson (encode : α → Json) (m : NameMap α) : Json :=
  .object (m.entries.map fun entry => (entry.1, encode entry.2))

def Json.ofOption (encode : α → Json) : Option α → Json
  | none => .null
  | some a => encode a

def Json.ofReal (x : Decimal.Binary64) : Json := .number (.real x)

/-- a data source without its token -/
def DataSource.toJson (d : DataSource) : Json :=
  .object [("database-type", .string d.databaseType.name), ("connection-string", .string d.connectionString),
    ("options", d.options.toJson id)]

def HostMode.toJson : HostMode → Json
  | .development => .string "development"
  | .production => .string "production"

def CrossOrigin.toJson (c : CrossOrigin) : Json :=
  .object [("origins", ofTexts c.origins), ("allow-credentials", .boolean c.allowCredentials)]

def TokenRules.toJson (t : TokenRules) : Json :=
  .object [("audience", ofText? t.audience), ("issuer", ofText? t.issuer)]

def Authentication.toJson (a : Authentication) : Json :=
  .object [("provider", .string a.provider), ("jwt", .ofOption TokenRules.toJson a.token)]

def HostOptions.toJson (h : HostOptions) : Json :=
  .object [("mode", h.mode.toJson), ("cors", h.crossOrigin.toJson), ("authentication", h.authentication.toJson)]

def Endpoint.toJson (e : Endpoint) : Json := .object [("enabled", .boolean e.enabled), ("path", .string e.path)]

def RuntimeOptions.toJson (r : RuntimeOptions) : Json :=
  .object [("rest", r.rest.toJson), ("graphql", r.graphql.toJson), ("host", r.host.toJson)]

def EntitySource.toJson (s : EntitySource) : Json :=
  .object [("object", .string s.object), ("type", .string s.kind.name), ("parameters", s.parameters.toJson id),
    ("key-fields", ofTexts s.keyFields)]

def RestOptions.toJson (r : RestOptions) : Json := .object [("enabled", .boolean r.enabled), ("path", ofText? r.path)]

def TypeNames.toJson (t : TypeNames) : Json := .object [("singular", .string t.singular), ("plural", ofText? t.plural)]

/-- the GraphQL type of an entity -/
def GraphQLOptions.toJson (g : GraphQLOptions) : Json :=
  .object [("enabled", .boolean g.enabled), ("type", .ofOption TypeNames.toJson g.names)]

def FieldScope.toJson (f : FieldScope) : Json :=
  .object [("include", ofTexts f.included), ("exclude", ofTexts f.excluded)]

/-- an action: a text, or an object if it has limits -/
def Action.toJson : Action → Json
  | .named name => .string name
  | .limited name fields policy =>
    .object [("action", .string name), ("fields", .ofOption FieldScope.toJson fields), ("policy", .ofOption id policy)]

def Permission.toJson (p : Permission) : Json :=
  .object [("role", .string p.role), ("actions", .array (p.actions.map Action.toJson))]

def Cardinality.toJson : Cardinality → Json
  | .one => .string "one"
  | .many => .string "many"

def Relationship.toJson (r : Relationship) : Json :=
  .object [("cardinality", r.cardinality.toJson), ("target-entity", .string r.target),
    ("source-fields", ofTexts r.sourceFields), ("target-fields", ofTexts r.targetFields)]

def FieldRule.toJson (r : FieldRule) : Json :=
  .object [("required", .ofOption .boolean r.required), ("format", ofText? r.format),
    ("max_length", .ofOption Json.ofNat r.maxLength), ("min_length", .ofOption Json.ofNat r.minLength),
    ("pattern", ofText? r.pattern), ("allowed", .ofOption .array r.allowed),
    ("minimum", .ofOption Json.ofReal r.minimum), ("maximum", .ofOption Json.ofReal r.maximum)]

def Entity.toJson (e : Entity) : Json :=
  .object [("source", e.source.toJson), ("data-source", ofText? e.dataSource), ("rest", e.rest.toJson),
    ("graphql", e.graphql.toJson), ("permissions", .array (e.permissions.map Permission.toJson)),
    ("relationships", e.relationships.toJson Relationship.toJson),
    ("validation", e.validation.toJson FieldRule.toJson)]

/-- a configuration as a document; its GraphQL schema is no part of it -/
def RuntimeConfig.toJson (c : RuntimeConfig) : Json :=
  .object ((c.schema.map fun s => ("$schema", .string s)).toList ++
    [("default-data-source", .string c.defaultDataSource), ("data-sources", c.dataSources.toJson DataSource.toJson),
      ("runtime", c.runtime.toJson), ("entities", c.entities.toJson Entity.toJson)])

end EntityGateway
