/-
Errors as JSON: their kind, their wording, and what else is known of them.
-/
import EntityGateway.Error
import EntityGateway.Json.Access

namespace EntityGateway

def ConfigError.kind : ConfigError → String
  | .parse _ => "Config.Parse"
  | .missingEnvVar _ => "Config.MissingEnvVar"
  | .missingReference _ _ => "Config.MissingReference"
  | .duplicatePath _ => "Config.DuplicatePath"
  | .validation _ => "Config.Validation"
  | .unsupportedBackend _ _ => "Config.UnsupportedBackend"
  | .rebuildFailed _ => "Config.RebuildFailed"
  | .load _ => "Config.Load"

def MetadataException.kind : MetadataException → String
  | .missingObject _ _ _ => "Metadata.MissingObject"
  | .missingPrimaryKey _ _ _ => "Metadata.MissingPrimaryKey"
  | .unsupportedProcedure _ _ _ _ => "Metadata.UnsupportedStoredProcedure"
  | .introspection _ _ => "Metadata.Introspection"
  | .timeout _ _ => "Metadata.Timeout"
  | .missingSchema _ => "Metadata.MissingSchema"

def ChangeError.kind : ChangeError → String
  | .inProgress => "Orchestration.InProgress"
  | .stage _ _ => "Orchestration.Stage"
  | .timeout _ _ => "Orchestration.Timeout"

namespace GatewayError

def kind : GatewayError → String
  | .config e => e.kind
  | .change e => e.kind
  | .metadata e => e.kind
  | .alreadyConfigured => "AlreadyConfigured"
  | .notConfigured => "NotConfigured"
  | .dataSourceNotFound _ => "DataSourceNotFound"
  | .dependent _ _ => "Dependent"
  | .notFound _ => "NotFound"
  | .validation _ => "Validation"
  | .database _ => "Db"
  | .badRequest _ => "BadRequest"

/-- the failure to change the configuration that an error is -/
def change? : GatewayError → Option ChangeError
  | .change e => some e
  | _ => none

def dataSource? : GatewayError → Option String
  | .metadata e => some e.dataSource
  | _ => none

/-- the kind of the cause of a failed stage -/
def causeKind? : GatewayError → Option String
  | .change (.stage _ cause) => some cause.kind
  | _ => none

def stageName? (e : GatewayError) : Option String := (e.change?.bind (·.stage?)).map Stage.name

/-- the wording of the deepest cause -/
def innermost? (e : GatewayError) : Option String := e.change?.map ChangeError.innermost

/-- an error with its kind and wording, its data source, and its stage and causes -/
def view (e : GatewayError) : Json :=
  Json.obj ([("error", .string e.kind), ("message", .string e.message)] ++
    (e.dataSource?.toList.map fun d => ("data_source", .string d)) ++
    (e.innermost?.toList.flatMap fun i => [("stage", Json.ofText? e.stageName?), ("innermost", .string i)]) ++
    (e.causeKind?.toList.map fun k => ("cause", .string k)))

end GatewayError

end EntityGateway
