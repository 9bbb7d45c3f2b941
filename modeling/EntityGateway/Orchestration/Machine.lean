/-
How a gateway goes on.

A change goes through its stages in one order: it is validated, the metadata are built beside those in use, in
development mode the relationships are checked against them, then the snapshot and the metadata are put in force
together and the services are pointed at them, and at last the documentation is made. A failure before the snapshot is
put in force leaves everything as it was; a failure while the services are pointed at it puts back what was in force,
and points the services at that again if the gateway was ready.

`step` is one event: a job submitted, a job one phase further, an initialization at its end, also one that nobody waits
for any more, time going by, a job given up, or a holder given another snapshot. An event that cannot happen changes
nothing. Time goes by no further than to the next thing that happens.
-/
import EntityGateway.Metadata.Relationships
import EntityGateway.Orchestration.World

namespace EntityGateway

/-- what is asked of a gateway -/
inductive Task where
  | change (t : Trigger)
  /-- a first configuration, put in force if `applies` -/
  | configure (holder : Nat) (request : FirstConfig) (applies : Bool)
  | amend (a : Amendment)
  /-- the current metadata initialized again -/
  | refresh

def Task.start : Task → Phase
  | .change t => .locking t
  | .configure holder request applies => .checking holder request applies
  | .amend a => .considering a
  | .refresh => .refreshing

/-- something that happens -/
inductive Event where
  | submit (t : Task)
  | advance (job : Nat)
  | settle (job : Nat) (source : String)
  | linger (place : Nat)
  | tick (time : Nat)
  | drop (job : Nat)
  | replace (holder : Nat) (s : Snapshot)

namespace World

/-! ## First configurations -/

/-- whether nothing is held yet -/
def check (w : World σ ι) (holder : Nat) (request : FirstConfig) (applies : Bool) : Phase × World σ ι :=
  match (w.holder holder).checkEmpty with
  | .error e => (.finished (.refused e), w)
  | .ok () => (.reading holder request applies, w)

def read (setup : Setup σ ι) (w : World σ ι) (holder : Nat) (request : FirstConfig) (applies : Bool) :
    Phase × World σ ι :=
  match request.config setup.environment with
  | .error e => (.finished (.refused (.config e)), w)
  | .ok c => (.installing holder c applies, w)

/-- the configuration put into its holder, if nothing is held still -/
def install (w : World σ ι) (holder : Nat) (config : RuntimeConfig) (applies : Bool) : Phase × World σ ι :=
  let s : Snapshot := ⟨w.fresh, config⟩
  match (w.holder holder).install s with
  | .error e => (.finished (.refused e), w)
  | .ok h =>
    let next := if applies then Phase.marking holder s else .finished (.installed s)
    (next, { w.setHolder holder h with fresh := w.fresh + 1 })

/-- the holder marked, and the snapshot about to be applied -/
def mark (w : World σ ι) (holder : Nat) (s : Snapshot) : Phase × World σ ι :=
  (.locking (.apply holder s), w.setHolder holder (w.holder holder).markLate)

/-! ## Changes -/

/-- whether there is something to change; it is looked at again when the lock is taken -/
def consider (w : World σ ι) (a : Amendment) : Phase × World σ ι :=
  match (w.holder a.holder).config, a.make with
  | .error e, _ | .ok _, .error e => (.finished (.refused e), w)
  | .ok _, .ok make =>
    let w := if a.marks then w.setHolder a.holder (w.holder a.holder).markLate else w
    (.locking (.edit a.holder make), w)

/-- a change that ends, with the lock given back -/
def conclude (w : World σ ι) (result : Except ChangeError ChangeReport) : Phase × World σ ι :=
  (.finished (.changed result), w.unlock)

/-- a change that begins, with the lock taken -/
def startRun (w : World σ ι) (job holder : Nat) (s : Snapshot) : Phase × World σ ι :=
  let r : Run := { holder, snapshot := s, checkpoint := w.checkpoint holder }
  (.validating r, { w.enter .validating with running := some job })

/-- the lock taken if it is free, and the snapshot of the change made -/
def lock (w : World σ ι) (job : Nat) (t : Trigger) : Phase × World σ ι :=
  match w.running with
  | some _ => (.finished (.changed (.error .inProgress)), w)
  | none =>
    match t with
    | .apply holder s => w.startRun job holder s
    | .edit holder make =>
      match (w.holder holder).config >>= make with
      | .error e => (.finished (.changed (.error (.stage .validating e))), w)
      | .ok c => { w with fresh := w.fresh + 1 }.startRun job holder ⟨w.fresh, c⟩

/-- what is checked before anything is built -/
def checkSnapshot (c : RuntimeConfig) : Except ConfigError Unit := do
  c.checkProperties
  if c.isDevelopment then c.checkPermissions else .ok ()

def validate (w : World σ ι) (r : Run) : Phase × World σ ι :=
  match checkSnapshot r.snapshot.config with
  | .error e => (.failing r (.stage .validating (.config e)), w)
  | .ok () => (.constructing r, w.enter .rebuildingMetadata)

/-- the metadata made, and their initializations begun -/
def construct (setup : Setup σ ι) (w : World σ ι) (r : Run) : Phase × World σ ι :=
  match ProviderSet.ofSnapshot setup.introspectors r.snapshot with
  | .error e => (.failing r (.stage .rebuildingMetadata (.config e)), w)
  | .ok set =>
    let (set, tasks, memory) := set.launch setup.introspectors setup.introspectionTimeout w.now w.memory
    (.preparing r ⟨w.sets.length, tasks, tasks.map (·.name)⟩ (w.now + setup.stageTimeout.nanoseconds),
      { w.addSet set with memory })

/-- on from the metadata when they are complete, or from their stage when its time is up -/
def gather? (setup : Setup σ ι) (w : World σ ι) (job : Nat) (r : Run) (g : Gathering) (deadline : Nat) :
    Option (Phase × World σ ι) :=
  if g.pending.isEmpty then
    if r.snapshot.config.isDevelopment then
      some (.relating r g.set g.report, w.enter .revalidatingRelationships)
    else some (.committing r g.set g.report, w)
  else if deadline ≤ w.now then
    some (.failing r (.timeout .rebuildingMetadata setup.stageTimeout), w.leave job g)
  else none

/-- what is checked when the metadata are there -/
def checkRelations (c : RuntimeConfig) (set : ProviderSet) : Except GatewayError Unit := do
  c.checkRelationships.mapError .config
  c.checkAgainst set

def relate (w : World σ ι) (r : Run) (set : Nat) (report : InitializationReport) : Phase × World σ ι :=
  match checkRelations r.snapshot.config (w.set set) with
  | .error e => (.failing r (.stage .revalidatingRelationships e), w)
  | .ok () => (.committing r set report, w)

/-- a holder that holds a snapshot; it is left as it is if it does already -/
def hold (h : ConfigHolder) (s : Snapshot) : ConfigHolder := if h.holds s then h else h.replace (some s)

/-- the snapshot and the metadata put in force together -/
def commit (w : World σ ι) (r : Run) (set : Nat) (report : InitializationReport) : Phase × World σ ι :=
  let h := hold (w.holder r.holder) r.snapshot
  let c : Commit := { set, initialization := report, version := h.version }
  (.calling { run := r, purpose := .serve c, holder := r.holder, snapshot := r.snapshot } Wire.all,
    ((w.enter .rewiringDependents).setHolder r.holder h).publish r.holder set)

/-- a call made: its reply is waited for -/
def makeCall (setup : Setup σ ι) (w : World σ ι) (c : Call) : Pending × World σ ι :=
  let (reply, services) := setup.dependents.call c w.services
  (⟨reply.after.map fun d => w.now + d.nanoseconds, reply.result, w.now + setup.stageTimeout.nanoseconds⟩,
    { w with services })

/-- on when every call was made -/
def rewired (setup : Setup σ ι) (w : World σ ι) (rw : Rewiring) : Phase × World σ ι :=
  match rw.purpose with
  | .restore failure => (.failing rw.run failure, w)
  | .serve c =>
    if setup.dependents.documents && !rw.snapshot.config.usesDocumentStore then
      (.generating rw.run c, w.enter .generatingArtifacts)
    else (.concluding rw.run c [], w)

def callNext (setup : Setup σ ι) (w : World σ ι) (rw : Rewiring) : List Wire → Phase × World σ ι
  | [] => w.rewired setup rw
  | wire :: todo =>
    let (p, w) := w.makeCall setup (wire.call (w.holder rw.holder) w.currentSet rw.snapshot)
    (.awaiting rw wire todo p, w)

/-- what came of a call so far: its result when it has one, or that its time is up -/
def replied? (w : World σ ι) (p : Pending) : Option (Option (Except GatewayError Unit)) :=
  if p.answersAt.any (· ≤ w.now) then some (some p.result)
  else if p.deadline ≤ w.now then some none
  else none

def callFailure (setup : Setup σ ι) (wire : Wire) : Option (Except GatewayError Unit) → Option ChangeError
  | some (.ok ()) => none
  | some (.error e) => some (.stage .rewiringDependents (e.ofService (setup.dependents.name wire.who)))
  | none => some (.timeout .rewiringDependents setup.stageTimeout)

/-- on when a call has come to an end -/
def afterCall? (setup : Setup σ ι) (w : World σ ι) (rw : Rewiring) (wire : Wire) (todo : List Wire) (p : Pending) :
    Option (Phase × World σ ι) :=
  (w.replied? p).map fun reply =>
    match callFailure setup wire reply, rw.purpose with
    | none, _ => (.calling rw todo, w)
    | some e, .serve _ => (.rollingBack rw.run e, w)
    | some _, .restore failure => (.failing rw.run failure, w)

def generate (setup : Setup σ ι) (w : World σ ι) (r : Run) (c : Commit) : Phase × World σ ι :=
  let (p, w) := w.makeCall setup (.generate (w.holder r.holder) r.snapshot)
  (.documenting r c p, w)

/-- the wording of a failure to document -/
def diagnostic (setup : Setup σ ι) : Option (Except GatewayError Unit) → List String
  | some (.ok ()) => []
  | some (.error e) => [e.message]
  | none => ["documentation generation timed out after " ++ setup.stageTimeout.text]

/-- on when the documentation is made, or is not made -/
def documented? (setup : Setup σ ι) (w : World σ ι) (r : Run) (c : Commit) (p : Pending) :
    Option (Phase × World σ ι) :=
  (w.replied? p).map fun reply => (.concluding r c (diagnostic setup reply), w)

def succeed (w : World σ ι) (c : Commit) (diagnostics : List String) : Phase × World σ ι :=
  let report : ChangeReport :=
    { version := c.version, initialization := c.initialization, exceptions := (w.set c.set).exceptions, diagnostics }
  { w.enter .ready with ready := true, lastReport := some report }.conclude (.ok report)

def fail (w : World σ ι) (e : ChangeError) : Phase × World σ ι := (w.enter .failed).conclude (.error e)

/-- whether a holder holds something else than it did; one that holds nothing counts as unchanged -/
def hasChanged (before : Option Snapshot) (h : ConfigHolder) : Bool :=
  match before, h.held with
  | some s, some now => s.id != now.id
  | none, some _ => true
  | _, none => false

/-- a holder with what it held before -/
def putBack (before : Option Snapshot) (h : ConfigHolder) : ConfigHolder :=
  if hasChanged before h then h.replace before else h

/-- what was in force put back, and the services about to be pointed at it if they were in use -/
def rollBack (w : World σ ι) (r : Run) (failure : ChangeError) : Phase × World σ ι :=
  let before := r.checkpoint
  let w := (w.setHolder r.holder (putBack before.target (w.holder r.holder))).publish before.bound before.set
  match before.wasReady, (w.holder before.bound).held with
  | true, some s =>
    (.calling { run := r, purpose := .restore failure, holder := before.bound, snapshot := s } Wire.all, w)
  | _, _ => (.failing r failure, w)

/-! ## The current metadata again -/

/-- the initializations of the current metadata begun -/
def refresh (setup : Setup σ ι) (w : World σ ι) : Phase × World σ ι :=
  let (set, tasks, memory) :=
    w.currentSet.launch setup.introspectors setup.introspectionTimeout w.now w.memory
  (.gathering ⟨w.current, tasks, tasks.map (·.name)⟩, { w with sets := w.sets.set w.current set, memory })

/-- the end when the metadata are complete -/
def gathered? (w : World σ ι) (g : Gathering) : Option (Phase × World σ ι) :=
  if g.pending.isEmpty then some (.finished (.initialized g.report), w) else none

/-! ## Events -/

/-- a job one phase further, unless it waits or has ended -/
def next? (setup : Setup σ ι) (w : World σ ι) (job : Nat) : Phase → Option (Phase × World σ ι)
  | .checking holder request applies => some (w.check holder request applies)
  | .reading holder request applies => some (w.read setup holder request applies)
  | .installing holder config applies => some (w.install holder config applies)
  | .marking holder s => some (w.mark holder s)
  | .considering a => some (w.consider a)
  | .locking t => some (w.lock job t)
  | .validating r => some (w.validate r)
  | .constructing r => some (w.construct setup r)
  | .preparing r g deadline => w.gather? setup job r g deadline
  | .relating r set report => some (w.relate r set report)
  | .committing r set report => some (w.commit r set report)
  | .calling rw todo => some (w.callNext setup rw todo)
  | .awaiting rw wire todo p => w.afterCall? setup rw wire todo p
  | .generating r c => some (w.generate setup r c)
  | .documenting r c p => w.documented? setup r c p
  | .concluding _ c diagnostics => some (w.succeed c diagnostics)
  | .rollingBack r failure => some (w.rollBack r failure)
  | .failing _ failure => some (w.fail failure)
  | .refreshing => some (w.refresh setup)
  | .gathering g => w.gathered? g
  | .finished _ | .dropped => none

def advance? (setup : Setup σ ι) (w : World σ ι) (job : Nat) : Option (World σ ι) := do
  let p ← w.phase? job
  let (p, w) ← w.next? setup job p
  return w.setPhase job p

/-- the initialization of a data source at its end -/
def settle? (w : World σ ι) (job : Nat) (source : String) : Option (World σ ι) := do
  let p ← w.phase? job
  let g ← p.gathering?
  let t ← g.due? w.now source
  return { w with sets := w.sets.set g.set ((w.set g.set).settle t) }.setPhase job (p.withGathering (g.without source))

/-- time going by, no further than to the next thing that happens -/
def tick? (w : World σ ι) (time : Nat) : Option (World σ ι) :=
  if w.now < time && w.timers.all (time ≤ ·) then some { w with now := time } else none

/-- the initializations that a phase waits for left to themselves -/
def leaveAll (w : World σ ι) (job : Nat) (p : Phase) : World σ ι :=
  match p.gathering? with
  | some g => w.leave job g
  | none => w

/-- a job given up where it waits; the lock is free again, and what it waited for goes on -/
def drop? (w : World σ ι) (job : Nat) : Option (World σ ι) := do
  let p ← w.phase? job
  if p.canDrop then
    let w := (w.leaveAll job p).setPhase job .dropped
    return if w.running = some job then w.unlock else w
  else none

/-- an initialization that nobody waits for any more at its end -/
def linger? (w : World σ ι) (place : Nat) : Option (World σ ι) := do
  let l ← w.leftovers[place]?
  if l.task.endsAt ≤ w.now then
    return { w with sets := w.sets.set l.set ((w.set l.set).settleAlone l.task),
                    leftovers := w.leftovers.eraseIdx place }
  else none

/-- a job submitted; its number is that of the jobs before it -/
def submit (w : World σ ι) (t : Task) : World σ ι := { w with jobs := w.jobs ++ [t.start] }

/-- what an event leads to, if it can happen -/
def step? (setup : Setup σ ι) (w : World σ ι) : Event → Option (World σ ι)
  | .submit t => some (w.submit t)
  | .advance job => w.advance? setup job
  | .settle job source => w.settle? job source
  | .linger place => w.linger? place
  | .tick time => w.tick? time
  | .drop job => w.drop? job
  | .replace holder s => some (w.setHolder holder ((w.holder holder).replace (some s)))

/-- what an event leads to -/
def step (setup : Setup σ ι) (w : World σ ι) (e : Event) : World σ ι := (w.step? setup e).getD w

/-- what a list of events leads to -/
def run (setup : Setup σ ι) (w : World σ ι) (events : List Event) : World σ ι := events.foldl (step setup) w

end World

end EntityGateway
