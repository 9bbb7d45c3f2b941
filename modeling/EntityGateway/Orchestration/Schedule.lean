/-
One thread's way through the events of a gateway.

Jobs take turns: each goes on until it waits, in the order in which they were submitted, and then the initializations
that are due come to their ends. Time goes by only when nothing else can happen, to the next thing that does. The one
who waits for a job, or for a time to pass, is served first whenever time has gone by.

Every function here is a sequence of events of the machine.
-/
import EntityGateway.Orchestration.Machine

namespace EntityGateway.World

/-- more phases than a job has between two waits -/
def mostPhases : Nat := 64

/-- a job taken on until it waits or ends -/
def pollJob (setup : Setup σ ι) (job : Nat) : Nat → World σ ι → World σ ι
  | 0, w => w
  | fuel + 1, w =>
    match w.advance? setup job with
    | some w => pollJob setup job fuel w
    | none => w

/-- a job taken on until it waits or ends -/
def poll (setup : Setup σ ι) (w : World σ ι) (job : Nat) : World σ ι := pollJob setup job mostPhases w

/-- the jobs there are, but for one that is served by itself -/
def others (w : World σ ι) (main : Option Nat) : List Nat :=
  (List.range w.jobs.length).filter fun job => some job != main

def dueSettlements (w : World σ ι) : List (Nat × String) :=
  (List.range w.jobs.length).flatMap fun job =>
    match (w.phase? job).bind Phase.gathering? with
    | some g => (g.waiting.filter (·.endsAt ≤ w.now)).map fun t => (job, t.name)
    | none => []

/-- every initialization that is due at its end -/
def settleDue (setup : Setup σ ι) (w : World σ ι) : World σ ι :=
  w.dueSettlements.foldl (fun w s => w.step setup (.settle s.1 s.2)) w

/-- whether something can happen without time going by, apart from one job -/
def isBusy (setup : Setup σ ι) (w : World σ ι) (main : Option Nat) : Bool :=
  (w.others main).any (fun job => (w.advance? setup job).isSome) || !w.dueSettlements.isEmpty

/-- everything that can happen without time going by, apart from one job -/
def quiesce (setup : Setup σ ι) (main : Option Nat) : Nat → World σ ι → World σ ι
  | 0, w => w
  | fuel + 1, w =>
    if w.isBusy setup main then
      quiesce setup main fuel (((w.others main).foldl (poll setup) w).settleDue setup)
    else w

/-- more rounds than there are in one moment -/
def mostRounds : Nat := 64

/-- the time of the next thing that happens, or an earlier one that is waited for -/
def nextTime (w : World σ ι) (target : Option Nat) : Option Nat := (target.toList ++ w.timers).min?

/-- time going by to the next thing that happens -/
def wait (setup : Setup σ ι) (w : World σ ι) (target : Option Nat) : World σ ι :=
  match w.nextTime target with
  | some time => w.step setup (.tick time)
  | none => w

/-- more moments than any wait takes -/
def mostMoments : Nat := 4096

/-- what came of a job, if it has come to its end -/
def result? (w : World σ ι) (job : Nat) : Option JobResult := (w.phase? job).bind Phase.result?

/-- one job followed to its end -/
def followJob (setup : Setup σ ι) (job : Nat) : Nat → World σ ι → World σ ι
  | 0, w => w
  | fuel + 1, w =>
    let w := w.poll setup job
    if (w.result? job).isSome then w
    else
      let w := quiesce setup (some job) mostRounds w
      if (w.advance? setup job).isSome then followJob setup job fuel w
      else followJob setup job fuel (w.wait setup none)

/-- a job followed to its end, and what came of it -/
def followToEnd (setup : Setup σ ι) (w : World σ ι) (job : Nat) : World σ ι × Option JobResult :=
  let w := followJob setup job mostMoments w
  (w, w.result? job)

/-- a task submitted and followed to its end, and what came of it -/
def perform (setup : Setup σ ι) (w : World σ ι) (t : Task) : World σ ι × Option JobResult :=
  followToEnd setup (w.step setup (.submit t)) w.jobs.length

/-- a task submitted, to be taken on when others are waited for -/
def start (setup : Setup σ ι) (w : World σ ι) (t : Task) : World σ ι × Nat :=
  (w.step setup (.submit t), w.jobs.length)

def sleepUntil (setup : Setup σ ι) (time : Nat) : Nat → World σ ι → World σ ι
  | 0, w => w
  | fuel + 1, w =>
    if time ≤ w.now then w
    else sleepUntil setup time fuel ((quiesce setup none mostRounds w).wait setup (some time))

/-- waiting for a span of time -/
def sleep (setup : Setup σ ι) (w : World σ ι) (d : Duration) : World σ ι :=
  sleepUntil setup (w.now + d.nanoseconds) mostMoments w

/-- waiting for the end of a job among the others -/
def awaitJob (setup : Setup σ ι) (job : Nat) : Nat → World σ ι → World σ ι
  | 0, w => w
  | fuel + 1, w =>
    if (w.result? job).isSome then w
    else
      let w := quiesce setup none mostRounds w
      if (w.result? job).isSome then w
      else awaitJob setup job fuel (w.wait setup none)

/-- the end of a job awaited, and what came of it -/
def finish (setup : Setup σ ι) (w : World σ ι) (job : Nat) : World σ ι × Option JobResult :=
  let w := awaitJob setup job mostMoments w
  (w, w.result? job)

/-- A job given up, and whether there was anything to give up. Those who could go on before it do so first, and all
others afterwards. -/
def abandon (setup : Setup σ ι) (w : World σ ι) (job : Nat) : World σ ι × Bool :=
  let isReady := (w.advance? setup job).isSome
  let before := (w.others (some job)).filter fun other => !isReady || other < job
  if ((w.phase? job).map Phase.canDrop).getD false then
    (quiesce setup none mostRounds ((before.foldl (poll setup) w).step setup (.drop job)), true)
  else (w, false)

end EntityGateway.World
