/-
What can be asked of a gateway, and which requests are turned away before it is asked.

A page is read and a form is submitted, each at one path and by one method; a page can also be asked for without its
body. The pages for monitoring take requests of any size. Everywhere else, also at paths that lead nowhere, a request
is turned away for its length before anything else is looked at.
-/
import EntityGateway.Http.MediaType
import EntityGateway.Http.Message
import EntityGateway.Json.Decoder

namespace EntityGateway.Http

/-- what can be read -/
inductive Page where
  | health
  | readiness
  | version
  | status
  | document
deriving DecidableEq, Repr

/-- what can be submitted -/
inductive Form where
  | configuration
  | overridden
  | reload
  | entity
deriving DecidableEq, Repr

/-- what a path leads to -/
inductive Endpoint where
  | page (p : Page)
  | form (f : Form)
deriving DecidableEq, Repr

def Endpoint.ofPath? : String → Option Endpoint
  | "/health" => some (.page .health)
  | "/ready" => some (.page .readiness)
  | "/version" => some (.page .version)
  | "/configuration" => some (.form .configuration)
  | "/configuration/v2" => some (.form .overridden)
  | "/configuration/reload" => some (.form .reload)
  | "/configuration/entities" => some (.form .entity)
  | "/configuration/status" => some (.page .status)
  | "/openapi" => some (.page .document)
  | _ => none

/-- whether requests of any size are taken -/
def Page.isForMonitoring : Page → Bool
  | .health | .readiness | .version => true
  | .status | .document => false

/-- whether requests of any size are taken -/
def Endpoint.isUnbounded : Endpoint → Bool
  | .page p => p.isForMonitoring
  | .form _ => false

def Endpoint.allows (method : String) : Endpoint → Bool
  | .page _ => method == "GET" || method == "HEAD"
  | .form _ => method == "POST"

namespace Request

/-- whether a request says that it is longer than a limit in bytes -/
def isDeclaredLonger (limit : Nat) (r : Request) : Bool := r.contentLength.any (limit < ·)

/-- the endpoint of a request, or the status with which it is turned away -/
def endpoint (limit : Nat) (r : Request) : Except Nat Endpoint :=
  let e := Endpoint.ofPath? r.path
  if r.isDeclaredLonger limit && !e.any Endpoint.isUnbounded then .error 413
  else
    match e with
    | none => .error 404
    | some e => if e.allows r.method then .ok e else .error 405

/-- the submission of a request, or the status with which it is turned away: for its type, its length, its syntax, or
its shape -/
def submission (limit : Nat) (decode : Decoder α) (r : Request) : Except Nat α :=
  if !r.contentType.any isJsonType then .error 415
  else if limit < r.body.utf8ByteSize then .error 413
  else (Decoder.decodeFront decode r.body).mapError fun e => if e.isSyntactic then 400 else 422

end Request

end EntityGateway.Http
