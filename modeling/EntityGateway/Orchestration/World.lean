/-
The state of a gateway: the holders of configurations, the metadata, the services, and the jobs under way.

Holders and sets of metadata are known by their places in lists that only grow; a job is known by its place too. The
current set of metadata and the holder it is bound to change together.
-/
import EntityGateway.Orchestration.Job

namespace EntityGateway

/-- what a gateway is set up with: its services, its introspectors, the environment, and the limits on waiting -/
structure Setup (σ ι : Type) where
  dependents : Dependents σ
  introspectors : Introspectors ι
  environment : Environment
  stageTimeout : Duration
  introspectionTimeout : Duration

/-- the state of a gateway; `σ` is that of the services, `ι` what the introspectors remember -/
structure World (σ ι : Type) where
  /-- the time in nanoseconds -/
  now : Nat := 0
  holders : List ConfigHolder
  sets : List ProviderSet := [{}]
  /-- the set of metadata in use -/
  current : Nat := 0
  /-- the holder that the set in use is bound to -/
  bound : Nat := 0
  stage : Stage := .idle
  /-- whether a change has ever been made -/
  ready : Bool := false
  lastReport : Option ChangeReport := none
  /-- the job that has the lock -/
  running : Option Nat := none
  jobs : List Phase := []
  /-- the initializations that nobody waits for any more -/
  leftovers : List Leftover := []
  /-- the number of the next snapshot -/
  fresh : Nat := 0
  services : σ
  memory : ι

namespace World

def holder (w : World σ ι) (i : Nat) : ConfigHolder := w.holders[i]?.getD {}

def set (w : World σ ι) (i : Nat) : ProviderSet := w.sets[i]?.getD {}

def currentSet (w : World σ ι) : ProviderSet := w.set w.current

def phase? (w : World σ ι) (job : Nat) : Option Phase := w.jobs[job]?

def setHolder (w : World σ ι) (i : Nat) (h : ConfigHolder) : World σ ι := { w with holders := w.holders.set i h }

def setPhase (w : World σ ι) (job : Nat) (p : Phase) : World σ ι := { w with jobs := w.jobs.set job p }

def enter (w : World σ ι) (s : Stage) : World σ ι := { w with stage := s }

/-- one more set of metadata, in the last place -/
def addSet (w : World σ ι) (s : ProviderSet) : World σ ι := { w with sets := w.sets ++ [s] }

def publish (w : World σ ι) (holder set : Nat) : World σ ι := { w with bound := holder, current := set }

/-- the lock given back -/
def unlock (w : World σ ι) : World σ ι := { w with running := none }

/-- the initializations that a job waits for left to themselves -/
def leave (w : World σ ι) (job : Nat) (g : Gathering) : World σ ι :=
  { w with leftovers := w.leftovers ++ g.leftovers job }

/-- what is in force, for a change of a holder -/
def checkpoint (w : World σ ι) (holder : Nat) : Checkpoint :=
  { bound := w.bound, set := w.current, target := (w.holder holder).held, wasReady := w.ready }

/-- the times at which something happens to a job -/
def timers (w : World σ ι) : List Nat := w.jobs.flatMap Phase.timers

end World

end EntityGateway
