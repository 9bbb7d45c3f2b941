/-
The pages of a gateway with its services: what each says of the state it is read in.

A gateway serves the configuration of one holder. It is ready from its first change on, also while it is changed again
and after a change that failed.
-/
import EntityGateway.Http.Endpoint
import EntityGateway.Orchestration.World
import EntityGateway.Service.Suite
import EntityGateway.View.Service

namespace EntityGateway

open Json (obj)

/-- the holder of the configuration that is served -/
def servedHolder : Nat := 0

namespace World

def served (w : World σ ι) : ConfigHolder := w.holder servedHolder

/-- whether a configuration is in force -/
def isServing (w : World σ ι) : Bool := w.ready && w.served.held.isSome

end World

namespace Http

/-- a body with data, and something about them if there is anything to say -/
def envelope (data : Json) (about : Option Json) : Json :=
  obj (("data", data) :: (about.map fun m => ("meta", m)).toList)

/-- the page that is there as long as the gateway runs -/
def healthPage : Response := .json 200 (obj [("status", .string "ok")])

def versionPage : Response := .json 200 (obj [("name", .string "dataapi-sdk"), ("version", .string "0.1.0")])

/-- the page that says whether a configuration is in force -/
def readinessPage (w : World σ ι) : Response :=
  let stage := ("stage", Json.string w.stage.name)
  if w.isServing then
    .json 200 (obj [("status", .string "ok"), stage, ("version", Json.ofNat w.served.version)])
  else .json 503 (obj [("status", .string "not_ready"), stage])

def statusPage (w : World σ ι) : Response :=
  let h := w.served
  let set := w.currentSet
  let report := (w.lastReport.map fun r => ("last_report", r.view)).toList
  .json 200 (envelope (obj ([("stage", .string w.stage.name), ("ready", .boolean w.ready),
    ("running", .boolean w.running.isSome), ("configured", .boolean h.held.isSome),
    ("late_configured", .boolean h.late),
    ("version", Json.ofNat h.version), ("data_sources", Json.ofTexts set.providers.names),
    ("metadata_exceptions", MetadataException.texts set.exceptions)] ++ report)) none)

def missingDocument : GatewayError := .notFound "openapi document for the current configuration"

def documentPage (w : World Services ι) : Response :=
  match w.services.currentDocument w.served with
  | some d => .json 200 (envelope d.document.toJson (some (obj [("version", Json.ofNat d.version)])))
  | none => .error missingDocument

/-- what a page says -/
def Page.response (w : World Services ι) : Page → Response
  | .health => healthPage
  | .readiness => readinessPage w
  | .version => versionPage
  | .status => statusPage w
  | .document => documentPage w

end Http

end EntityGateway
