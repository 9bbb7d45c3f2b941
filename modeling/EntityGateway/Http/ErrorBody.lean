/-
Errors as HTTP answers: a status, a code and the wording; a change that failed or timed out has the stage and the
deepest cause besides.
-/
import EntityGateway.Error
import EntityGateway.Json.Value

namespace EntityGateway.GatewayError

def status : GatewayError → Nat × String
  | .config _ => (400, "invalid_configuration")
  | .change .inProgress => (409, "reload_in_progress")
  | .change (.timeout _ _) => (504, "orchestration_timed_out")
  | .change (.stage .rewiringDependents _) => (500, "orchestration_failed")
  | .change (.stage _ _) => (400, "orchestration_failed")
  | .metadata _ => (500, "metadata_error")
  | .alreadyConfigured => (409, "already_configured")
  | .notConfigured => (503, "not_configured")
  | .dataSourceNotFound _ => (400, "data_source_not_found")
  | .dependent _ _ => (500, "dependent_service_error")
  | .notFound _ => (404, "not_found")
  | .validation _ => (422, "validation_error")
  | .database _ => (500, "database_error")
  | .badRequest _ => (400, "bad_request")

/-- the stage and the deepest cause of a change that failed or timed out -/
def details : GatewayError → Option Json
  | .change .inProgress => none
  | .change e =>
    some (.object [("cause", .string e.innermost), ("stage", Json.ofText? (e.stage?.map Stage.name))])
  | _ => none

def body (e : GatewayError) : Json :=
  .object [("error", .object ([("code", .string e.status.2)] ++
    (e.details.map fun d => ("details", d)).toList ++ [("message", .string e.message)]))]

end EntityGateway.GatewayError
