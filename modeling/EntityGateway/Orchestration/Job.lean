/-
Jobs: what is being done to the configuration, and how far it is.

A job is in one phase at a time. Most phases are left at once; in a few of them the job waits, for databases or for
services, and other jobs go on. A change of the configuration holds the lock from the phase after `locking` to its end.
-/
import EntityGateway.Orchestration.Dependents

namespace EntityGateway

/-- what came of a change that was made -/
structure ChangeReport where
  version : Nat
  initialization : InitializationReport
  /-- the problems with the metadata -/
  exceptions : List MetadataException
  /-- failures that did not stop the change -/
  diagnostics : List String

/-- a change of the configuration of a holder -/
inductive Trigger where
  | apply (holder : Nat) (s : Snapshot)
  /-- the configuration made from the one that is held when the change begins -/
  | edit (holder : Nat) (make : RuntimeConfig → Except GatewayError RuntimeConfig)

/-- a change of the configuration that a holder holds, which is made only if one is held -/
structure Amendment where
  holder : Nat
  /-- whether the holder is marked as configured after the start -/
  marks : Bool
  /-- the change, or why it was not understood -/
  make : Except GatewayError (RuntimeConfig → Except GatewayError RuntimeConfig)

/-- what was in force before a change -/
structure Checkpoint where
  /-- the holder that the metadata were bound to -/
  bound : Nat
  set : Nat
  /-- what the holder of the change held -/
  target : Option Snapshot
  wasReady : Bool

/-- a change that is being made -/
structure Run where
  holder : Nat
  snapshot : Snapshot
  checkpoint : Checkpoint

/-- what a change has put in force -/
structure Commit where
  set : Nat
  initialization : InitializationReport
  version : Nat

/-- initializations that are waited for -/
structure Gathering where
  set : Nat
  tasks : List SourceTask
  /-- the data sources that have not come to an end -/
  pending : List String

/-- an initialization that goes on although nobody waits for it any more -/
structure Leftover where
  /-- the job that began it -/
  job : Nat
  set : Nat
  task : SourceTask

namespace Gathering

def waiting (g : Gathering) : List SourceTask := g.tasks.filter fun t => g.pending.contains t.name

/-- the initialization of a data source if it is waited for and has come to its end -/
def due? (g : Gathering) (now : Nat) (source : String) : Option SourceTask :=
  g.waiting.find? fun t => t.name == source && t.endsAt ≤ now

/-- one data source less to wait for -/
def without (g : Gathering) (source : String) : Gathering := { g with pending := g.pending.filter (· ≠ source) }

/-- the initializations that are left when a job waits no longer -/
def leftovers (g : Gathering) (job : Nat) : List Leftover := g.waiting.map fun t => ⟨job, g.set, t⟩

def report (g : Gathering) : InitializationReport := ProviderSet.report g.tasks

end Gathering

/-- a call that was made -/
structure Pending where
  answersAt : Option Nat
  result : Except GatewayError Unit
  deadline : Nat

/-- why services are called: to serve what was put in force, or what was in force before a failure -/
inductive Purpose where
  | serve (c : Commit)
  | restore (failure : ChangeError)

/-- services being pointed at a snapshot -/
structure Rewiring where
  run : Run
  purpose : Purpose
  holder : Nat
  snapshot : Snapshot

/-- what came of a job -/
inductive JobResult where
  | changed (result : Except ChangeError ChangeReport)
  | installed (s : Snapshot)
  | refused (e : GatewayError)
  | initialized (report : InitializationReport)

/-- where a job is -/
inductive Phase where
  /-- a first configuration: looking whether one is held; `applies` if it is put in force afterwards -/
  | checking (holder : Nat) (request : FirstConfig) (applies : Bool)
  | reading (holder : Nat) (request : FirstConfig) (applies : Bool)
  | installing (holder : Nat) (config : RuntimeConfig) (applies : Bool)
  | marking (holder : Nat) (s : Snapshot)
  /-- a change of what is held: looking whether anything is, and whether the change was understood -/
  | considering (a : Amendment)
  /-- about to take the lock -/
  | locking (t : Trigger)
  | validating (r : Run)
  | constructing (r : Run)
  /-- waiting for the metadata, up to a time -/
  | preparing (r : Run) (g : Gathering) (deadline : Nat)
  | relating (r : Run) (set : Nat) (report : InitializationReport)
  | committing (r : Run) (set : Nat) (report : InitializationReport)
  /-- about to make the first of some calls -/
  | calling (w : Rewiring) (todo : List Wire)
  /-- waiting for the reply to a call -/
  | awaiting (w : Rewiring) (wire : Wire) (todo : List Wire) (p : Pending)
  | generating (r : Run) (c : Commit)
  /-- waiting for the documentation -/
  | documenting (r : Run) (c : Commit) (p : Pending)
  | concluding (r : Run) (c : Commit) (diagnostics : List String)
  | rollingBack (r : Run) (failure : ChangeError)
  | failing (r : Run) (failure : ChangeError)
  /-- about to initialize the current metadata again -/
  | refreshing
  | gathering (g : Gathering)
  | finished (result : JobResult)
  | dropped

namespace Phase

/-- the result of a job that has come to its end -/
def result? : Phase → Option JobResult
  | .finished r => some r
  | _ => none

/-- whether a job can be given up in this phase: before its start, or where it waits -/
def canDrop : Phase → Bool
  | .checking .. | .considering _ | .locking _ | .refreshing => true
  | .preparing .. | .awaiting .. | .documenting .. | .gathering _ => true
  | _ => false

def gathering? : Phase → Option Gathering
  | .preparing _ g _ => some g
  | .gathering g => some g
  | _ => none

/-- the phase with other initializations to wait for -/
def withGathering (g : Gathering) : Phase → Phase
  | .preparing r _ deadline => .preparing r g deadline
  | .gathering _ => .gathering g
  | p => p

/-- the times at which something happens in this phase -/
def timers : Phase → List Nat
  | .preparing _ g deadline => deadline :: g.waiting.map (·.endsAt)
  | .gathering g => g.waiting.map (·.endsAt)
  | .awaiting _ _ _ p | .documenting _ _ p => p.deadline :: p.answersAt.toList
  | _ => []

end Phase

end EntityGateway
