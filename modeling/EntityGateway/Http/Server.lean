/-
A gateway as it is served: requests become tasks, and what comes of a task becomes a response.

What can be refused without a look at the gateway is refused at once. A request that was started is taken on when time
may go by, in the order of arrival: a page is read then, and a task begins then.
-/
import EntityGateway.Http.Page
import EntityGateway.Http.Submission
import EntityGateway.Orchestration.Schedule
import EntityGateway.Settings

namespace EntityGateway.Http

open Json (obj)

/-- a task, and the status of the response when it is done -/
structure Order where
  task : Task
  success : Nat

/-- what a request comes to -/
inductive Plan where
  | answer (r : Response)
  | page (p : Page) (hasBody : Bool)
  | order (o : Order)

/-- the order of a submission, or the response that refuses it -/
def Form.order (settings : Settings) (env : Environment) (r : Request) : Form → Except Response Order
  | .configuration => do
    let post ← (r.submission settings.maxConfigBytes ConfigurationPost.decode).mapError .bare
    let first ← post.request.mapError .error
    return ⟨.configure servedHolder first true, 200⟩
  | .overridden => do
    let post ← (r.submission settings.maxConfigBytes OverriddenPost.decode).mapError .bare
    let first ← post.request.mapError .error
    return ⟨.configure servedHolder first true, 200⟩
  | .reload => do
    let post ← (r.submission settings.maxConfigBytes ReloadPost.decode).mapError .bare
    return ⟨.amend ⟨servedHolder, false, post.change env settings.connectionString⟩, 200⟩
  | .entity => do
    let post ← (r.submission settings.maxConfigBytes EntityPost.decode).mapError .bare
    return ⟨.amend ⟨servedHolder, true, .ok post.change⟩, 201⟩

def Request.plan (settings : Settings) (env : Environment) (r : Request) : Plan :=
  match r.endpoint settings.maxConfigBytes with
  | .error status => .answer (.bare status)
  | .ok (.page p) => .page p (r.method != "HEAD")
  | .ok (.form f) =>
    match f.order settings env r with
    | .error response => .answer response
    | .ok o => .order o

/-- the response to what came of a task; a task of another kind than a change has nothing to say -/
def JobResult.response (success : Nat) : JobResult → Response
  | .changed (.ok report) => .json success (envelope report.view none)
  | .changed (.error e) => .error (.change e)
  | .refused e => .error e
  | .installed _ | .initialized _ => .bare success

def read (w : World Services ι) (p : Page) (hasBody : Bool) : Response :=
  if hasBody then p.response w else (p.response w).withoutBody

/-- how far a request is -/
inductive Progress where
  | arrived (p : Plan)
  | underWay (job success : Nat)
  | answered (r : Response)

/-- a gateway with the requests that were started -/
structure Server (ι : Type) where
  world : World Services ι
  requests : List Progress := []

namespace Server

/-- a gateway that holds nothing, or a snapshot from its start -/
def boot (config : Option RuntimeConfig) (memory : ι) : Server ι :=
  { world :=
      { holders := [(config.map fun c => ConfigHolder.holding ⟨0, c⟩).getD {}], fresh := 1, services := {}, memory } }

/-- the setup of a gateway with its services -/
def setup [Pattern.Engine] (settings : Settings) (env : Environment) (introspectors : Introspectors ι) :
    Setup Services ι :=
  { dependents := Services.dependents, introspectors, environment := env, stageTimeout := settings.stageTimeout,
    introspectionTimeout := settings.introspectionTimeout }

/-- a request taken on, if it was not before -/
def takeOn (setup : Setup Services ι) (w : World Services ι) : Progress → World Services ι × Progress
  | .arrived (.answer r) => (w, .answered r)
  | .arrived (.page p hasBody) => (w, .answered (read w p hasBody))
  | .arrived (.order o) =>
    let job := w.jobs.length
    ((w.step setup (.submit o.task)).poll setup job, .underWay job o.success)
  | p => (w, p)

/-- every request taken on, in the order of arrival -/
def takeAll (setup : Setup Services ι) (s : Server ι) : Server ι :=
  s.requests.foldl
    (fun s p =>
      let (world, p) := takeOn setup s.world p
      { world, requests := s.requests ++ [p] })
    { world := s.world }

def reply (success : Nat) (result : Option JobResult) : Response :=
  (result.map (JobResult.response success)).getD (.bare 500)

/-- a request answered before anything else is done -/
def perform (setup : Setup Services ι) (s : Server ι) : Plan → Server ι × Response
  | .answer r => (s, r)
  | .page p hasBody => (s, read s.world p hasBody)
  | .order o =>
    let job := s.world.jobs.length
    let s := { s with world := (s.world.step setup (.submit o.task)).poll setup job }
    let s := if (s.world.result? job).isSome then s else s.takeAll setup
    let (world, result) := s.world.followToEnd setup job
    ({ s with world }, reply o.success result)

/-- a request started; its number is that of the requests before it -/
def start (s : Server ι) (p : Plan) : Server ι := { s with requests := s.requests ++ [.arrived p] }

/-- waiting for a span of time; nothing happens in none -/
def sleep (setup : Setup Services ι) (s : Server ι) (d : Duration) : Server ι :=
  if d.nanoseconds = 0 then s
  else
    let s := s.takeAll setup
    { s with world := s.world.sleep setup d }

def finish (setup : Setup Services ι) (s : Server ι) (request : Nat) : Server ι × Option Response :=
  let s := s.takeAll setup
  match s.requests[request]? with
  | some (.underWay job success) =>
    let (world, result) := s.world.finish setup job
    ({ s with world }, some (reply success result))
  | some (.answered r) => (s, some r)
  | _ => (s, none)

/-- the snapshot that is held put in force, if one is held; whether it was -/
def applyHeld (setup : Setup Services ι) (s : Server ι) : Server ι × Bool :=
  match s.world.served.held with
  | none => (s, false)
  | some h =>
    let (s, r) := s.perform setup (.order ⟨.change (.apply servedHolder h), 200⟩)
    (s, r.status == 200)

end Server

end EntityGateway.Http
