/-
The decoders of configuration documents: which members each part has, which may be left out, and what stands for them.
-/
import EntityGateway.Config.Document
import EntityGateway.Json.Decoder

namespace EntityGateway

open Decoder

def Decoder.named (decode : Decoder α) : Decoder (NameMap α) := fun depth node =>
  (members decode depth node).map NameMap.ofList

def Decoder.texts : Decoder (List String) := list text

def DatabaseType.decode : Decoder DatabaseType := fun depth node => (text depth node).map .ofName

def DataSource.decode : Decoder DataSource :=
  record "DataSourceConfig" ["database-type", "connection-string", "options"]
    ((required 0 "database-type" DatabaseType.decode).both
      ((defaulted "connection-string" "" text).both
        (defaulted "options" .empty (named anything)))
      |>.map fun (databaseType, connectionString, options) => { databaseType, connectionString, options })

def HostMode.decode : Decoder HostMode := choice [("development", .development), ("production", .production)]

def CrossOrigin.decode : Decoder CrossOrigin :=
  record "CorsOptions" ["origins", "allow-credentials"]
    ((defaulted "origins" [] texts).both (defaulted "allow-credentials" false boolean)
      |>.map fun (origins, allowCredentials) => { origins, allowCredentials })

def TokenRules.decode : Decoder TokenRules :=
  record "JwtOptions" ["audience", "issuer"]
    ((nullable "audience" text).both (nullable "issuer" text)
      |>.map fun (audience, issuer) => { audience, issuer })

def Authentication.decode : Decoder Authentication :=
  record "AuthenticationOptions" ["provider", "jwt"]
    ((defaulted "provider" "StaticWebApps" text).both (nullable "jwt" TokenRules.decode)
      |>.map fun (provider, token) => { provider, token })

def HostOptions.decode : Decoder HostOptions :=
  record "HostOptions" ["mode", "cors", "authentication"]
    ((defaulted "mode" .production HostMode.decode).both
      ((defaulted "cors" {} CrossOrigin.decode).both
        (defaulted "authentication" {} Authentication.decode))
      |>.map fun (mode, crossOrigin, authentication) => { mode, crossOrigin, authentication })

def Endpoint.decode : Decoder Endpoint :=
  record "EndpointOptions" ["enabled", "path"]
    ((defaulted "enabled" true boolean).both (required 1 "path" text)
      |>.map fun (enabled, path) => { enabled, path })

def RuntimeOptions.decode : Decoder RuntimeOptions :=
  record "RuntimeOptions" ["rest", "graphql", "host"]
    ((defaulted "rest" ⟨true, "/api"⟩ Endpoint.decode).both
      ((defaulted "graphql" ⟨true, "/graphql"⟩ Endpoint.decode).both
        (defaulted "host" {} HostOptions.decode))
      |>.map fun (rest, graphql, host) => { rest, graphql, host })

def ObjectKind.decode : Decoder ObjectKind :=
  choice [("table", .table), ("view", .view), ("stored-procedure", .storedProcedure)]

def EntitySource.decode : Decoder EntitySource :=
  record "EntitySource" ["object", "type", "parameters", "key-fields"]
    ((required 0 "object" text).both
      ((defaulted "type" .table ObjectKind.decode).both
        ((defaulted "parameters" .empty (named anything)).both
          (defaulted "key-fields" [] texts)))
      |>.map fun (object, kind, parameters, keyFields) => { object, kind, parameters, keyFields })

def RestOptions.decode : Decoder RestOptions :=
  record "EntityRestOptions" ["enabled", "path"]
    ((defaulted "enabled" true boolean).both (nullable "path" text)
      |>.map fun (enabled, path) => { enabled, path })

def TypeNames.decode : Decoder TypeNames :=
  record "GraphQLTypeNames" ["singular", "plural"]
    ((required 0 "singular" text).both (nullable "plural" text)
      |>.map fun (singular, plural) => { singular, plural })

/-- decodes the GraphQL type of an entity -/
def GraphQLOptions.decode : Decoder GraphQLOptions :=
  record "EntityGraphQLOptions" ["enabled", "type"]
    ((defaulted "enabled" true boolean).both (nullable "type" TypeNames.decode)
      |>.map fun (enabled, names) => { enabled, names })

def FieldScope.decode : Decoder FieldScope :=
  record "FieldsConfig" ["include", "exclude"]
    ((defaulted "include" [] texts).both (defaulted "exclude" [] texts)
      |>.map fun (included, excluded) => { included, excluded })

def Action.decodeLimited : Decoder Action :=
  record "ActionConfig" ["action", "fields", "policy"]
    ((required 0 "action" text).both
      ((nullable "fields" FieldScope.decode).both
        (nullable "policy" anything))
      |>.map fun (name, fields, policy) => .limited name fields policy)

/-- decodes an action: a name or an object, and no reason is given when it is neither -/
def Action.decode : Decoder Action := fun depth node => do
  let _ ← anything depth node
  match node with
  | .string _ => (text depth node).map .named
  | .object _ _ =>
    match Action.decodeLimited depth node with
    | .ok action => return action
    | .error _ => .error (.noVariant "ActionConfig")
  | _ => .error (.noVariant "ActionConfig")

def Permission.decode : Decoder Permission :=
  record "PermissionConfig" ["role", "actions"]
    ((required 0 "role" text).both (required 1 "actions" (list Action.decode))
      |>.map fun (role, actions) => { role, actions })

def Cardinality.decode : Decoder Cardinality := choice [("one", .one), ("many", .many)]

def Relationship.decode : Decoder Relationship :=
  record "RelationshipConfig" ["cardinality", "target-entity", "source-fields", "target-fields"]
    ((required 0 "cardinality" Cardinality.decode).both
      ((required 1 "target-entity" text).both
        ((defaulted "source-fields" [] texts).both
          (defaulted "target-fields" [] texts)))
      |>.map fun (cardinality, target, sourceFields, targetFields) =>
        { cardinality, target, sourceFields, targetFields })

def FieldRule.decode : Decoder FieldRule :=
  record "ValidationRule"
    ["required", "format", "max_length", "min_length", "pattern", "allowed", "minimum", "maximum"]
    ((nullable "required" boolean).both
      ((nullable "format" text).both
        ((nullable "max_length" word32).both
          ((nullable "min_length" word32).both
            ((nullable "pattern" text).both
              ((nullable "allowed" (list anything)).both
                ((nullable "minimum" real).both
                  (nullable "maximum" real)))))))
      |>.map fun (required, format, maxLength, minLength, pattern, allowed, minimum, maximum) =>
        { required, format, maxLength, minLength, pattern, allowed, minimum, maximum })

def Entity.decode : Decoder Entity :=
  record "EntityConfig" ["source", "data-source", "rest", "graphql", "permissions", "relationships", "validation"]
    ((required 0 "source" EntitySource.decode).both
      ((nullable "data-source" text).both
        ((defaulted "rest" {} RestOptions.decode).both
          ((defaulted "graphql" {} GraphQLOptions.decode).both
            ((defaulted "permissions" [] (list Permission.decode)).both
              ((defaulted "relationships" .empty (named Relationship.decode)).both
                (defaulted "validation" .empty (named FieldRule.decode)))))))
      |>.map fun (source, dataSource, rest, graphql, permissions, relationships, validation) =>
        { source, dataSource, rest, graphql, permissions, relationships, validation })

def ConfigDocument.decode : Decoder ConfigDocument :=
  record "RuntimeConfigDocument"
    ["$schema", "data-source", "data-sources", "default-data-source", "runtime", "entities"]
    ((nullable "$schema" text).both
      ((nullable "data-source" DataSource.decode).both
        ((defaulted "data-sources" .empty (named DataSource.decode)).both
          ((nullable "default-data-source" text).both
            ((defaulted "runtime" {} RuntimeOptions.decode).both
              (defaulted "entities" .empty (named Entity.decode))))))
      |>.map fun (schema, dataSource, dataSources, defaultDataSource, runtime, entities) =>
        { schema, dataSource, dataSources, defaultDataSource, runtime, entities })

end EntityGateway
