/-
A gateway as its clients meet it: requests in any order, the start, jobs that take turns in any order, and clients that
go away. One configuration is served, and the services are the shipped ones.

`Gateway.step` is one piece of traffic; what a request comes to is what the server makes of it. Beside the gateway it
keeps the order that each job carries out, and the jobs that have put something in force, in this order. The services
reply at once, so a client cannot go away while one of them is called.

- `serve_of_step`: traffic does nothing but what `Serve` says;
- `invariant_traffic`: what no piece of traffic breaks holds along all traffic;
- `ordered_of_plan`: requests lead to three kinds of orders.
-/
import EntityGateway.Http.Server
import EntityGateway.Proofs.Orchestration.Course
import EntityGateway.Simulation.Pattern.Engine

namespace EntityGateway

open Http

/-! ## Traffic -/

/-- a gateway with its services, the orders that its jobs carry out, and the jobs that put something in force -/
structure Gateway (ι : Type) where
  world : World Services ι
  /-- the order of each job, in its place -/
  orders : List Order := []
  /-- the jobs that have committed, in this order -/
  commits : List Nat := []

/-- what happens to a gateway that is served -/
inductive Traffic where
  | request (r : Request)
  /-- what is held put in force, as at the start -/
  | applyHeld
  | advance (job : Nat)
  | settle (job : Nat) (source : String)
  | linger (place : Nat)
  | tick (time : Nat)
  /-- a client that waits no longer -/
  | hangUp (job : Nat)

def Phase.isInCall : Phase → Bool
  | .awaiting .. | .documenting .. => true
  | _ => false

/-- whether a job in this phase is about to put something in force -/
def Phase.isCommitting : Phase → Bool
  | .committing .. => true
  | _ => false

namespace Gateway

/-- a gateway at its start, with nothing or with a configuration -/
def boot (config : Option RuntimeConfig) (memory : ι) : Gateway ι := { world := (Server.boot config memory).world }

/-- the order that a piece of traffic leads to -/
def order? (settings : Settings) (env : Environment) (g : Gateway ι) : Traffic → Option Order
  | .request r =>
    match r.plan settings env with
    | .order o => some o
    | _ => none
  | .applyHeld => g.world.served.held.map fun s => ⟨.change (.apply servedHolder s), 200⟩
  | _ => none

def event? (g : Gateway ι) : Traffic → Option Event
  | .advance job => some (.advance job)
  | .settle job source => some (.settle job source)
  | .linger place => some (.linger place)
  | .tick time => some (.tick time)
  | .hangUp job => if (g.world.phase? job).any Phase.isInCall then none else some (.drop job)
  | .request _ | .applyHeld => none

/-- the job that an event makes put something in force -/
def committed (g : Gateway ι) : Event → List Nat
  | .advance job => if (g.world.phase? job).any Phase.isCommitting then [job] else []
  | _ => []

/-- an order accepted -/
def take (g : Gateway ι) (o : Order) : Gateway ι :=
  { g with world := g.world.submit o.task, orders := g.orders ++ [o] }

variable [Pattern.Engine] (settings : Settings) (env : Environment) (introspectors : Introspectors ι)

/-- what a piece of traffic leads to -/
def step (g : Gateway ι) (t : Traffic) : Gateway ι :=
  match g.order? settings env t, g.event? t with
  | some o, _ => g.take o
  | none, some e =>
    { g with world := g.world.step (Server.setup settings env introspectors) e, commits := g.commits ++ g.committed e }
  | none, none => g

/-- what a list of traffic leads to -/
def run (g : Gateway ι) (l : List Traffic) : Gateway ι := l.foldl (step settings env introspectors) g

/-- a gateway that some traffic leads to, from a start with nothing or with a configuration -/
def Reached (g : Gateway ι) : Prop :=
  ∃ config memory l, (boot config memory).run settings env introspectors l = g

end Gateway

theorem Gateway.committed_of_none {g : Gateway ι} {setup : Setup Services ι} {e : Event}
    (h : g.world.step? setup e = none) :
    g.committed e = [] := by
  cases e with
  | advance job =>
    simp only [Gateway.committed]
    cases hp : g.world.phase? job with
    | none => rfl
    | some p =>
      cases p with
      | committing => simp [World.step?, World.advance?, hp, World.next?] at h
      | _ => rfl
  | _ => rfl

/-! ## What traffic can do -/

/-- a piece of traffic that comes to something, and what it leads to -/
inductive Serve [Pattern.Engine] (settings : Settings) (env : Environment) (introspectors : Introspectors ι)
    (g : Gateway ι) :
    Traffic → Gateway ι → Prop
  | take (ho : r.plan settings env = .order o) : Serve settings env introspectors g (.request r) (g.take o)
  | apply (hheld : g.world.served.held = some s) :
      Serve settings env introspectors g .applyHeld (g.take ⟨.change (.apply servedHolder s), 200⟩)
  | advance (hp : g.world.phase? job = some p)
      (hm : Move (Server.setup settings env introspectors) job g.world p q u) :
      Serve settings env introspectors g (.advance job)
        { g with world := u.setPhase job q, commits := g.commits ++ if p.isCommitting then [job] else [] }
  | settle (hs : Step (Server.setup settings env introspectors) g.world (.settle job source) w) :
      Serve settings env introspectors g (.settle job source) { g with world := w }
  | linger (hs : Step (Server.setup settings env introspectors) g.world (.linger place) w) :
      Serve settings env introspectors g (.linger place) { g with world := w }
  | tick (hs : Step (Server.setup settings env introspectors) g.world (.tick time) w) :
      Serve settings env introspectors g (.tick time) { g with world := w }
  | hangUp (hp : g.world.phase? job = some p) (hcall : p.isInCall = false)
      (hs : Step (Server.setup settings env introspectors) g.world (.drop job) w) :
      Serve settings env introspectors g (.hangUp job) { g with world := w }

section Serve

variable [Pattern.Engine] {settings : Settings} {env : Environment} {introspectors : Introspectors ι} {g g' : Gateway ι}

theorem serve_of_event {e : Event} {t : Traffic} (he : g.event? t = some e)
    (hstep : Step (Server.setup settings env introspectors) g.world e w) :
    Serve settings env introspectors g t { g with world := w, commits := g.commits ++ g.committed e } := by
  cases t with
  | advance job =>
    cases he
    cases hstep with
    | advance hp hm =>
      have hserve := Serve.advance hp hm
      simp only [Gateway.committed, hp, Option.any_some]
      exact hserve
  | settle =>
    cases he
    simp only [Gateway.committed, List.append_nil]
    exact .settle hstep
  | linger =>
    cases he
    simp only [Gateway.committed, List.append_nil]
    exact .linger hstep
  | tick =>
    cases he
    simp only [Gateway.committed, List.append_nil]
    exact .tick hstep
  | hangUp job =>
    simp only [Gateway.event?] at he
    split_ifs at he with hcall
    cases he
    simp only [Gateway.committed, List.append_nil]
    have hphase : ∃ p, g.world.phase? job = some p := by
      cases hstep with
      | drop hp => exact ⟨_, hp⟩
    obtain ⟨p, hp⟩ := hphase
    refine .hangUp hp ?_ hstep
    rw [hp] at hcall
    simpa using hcall
  | _ => cases he

variable (settings env introspectors g) in
/-- **Traffic does nothing else**, or nothing at all -/
theorem serve_of_step (t : Traffic) :
    g.step settings env introspectors t = g ∨
      Serve settings env introspectors g t (g.step settings env introspectors t) := by
  unfold Gateway.step
  split
  · rename_i o ho
    cases t with
    | request r =>
      simp only [Gateway.order?] at ho
      split at ho
      · rename_i hplan
        cases ho
        exact Or.inr (.take hplan)
      · cases ho
    | applyHeld =>
      obtain ⟨s, hs, rfl⟩ := Option.map_eq_some_iff.1 ho
      exact Or.inr (.apply hs)
    | _ => cases ho
  · rename_i e ho he
    rcases World.step_cases (Server.setup settings env introspectors) g.world e with ⟨hnone, hstep⟩ | hstep
    · rw [hstep, Gateway.committed_of_none hnone, List.append_nil]
      exact Or.inl rfl
    · exact Or.inr (serve_of_event he hstep)
  · exact Or.inl rfl

/-- each piece of traffic is one step of the gateway -/
theorem step_of_serve (h : Serve settings env introspectors g t g') :
    ∃ e, Step (Server.setup settings env introspectors) g.world e g'.world := by
  cases h with
  | take => exact ⟨_, .submit⟩
  | apply => exact ⟨_, .submit⟩
  | advance hp hm => exact ⟨_, .advance hp hm⟩
  | settle hs => exact ⟨_, hs⟩
  | linger hs => exact ⟨_, hs⟩
  | tick hs => exact ⟨_, hs⟩
  | hangUp _ _ hs => exact ⟨_, hs⟩

/-- **What no piece of traffic breaks holds along all traffic** -/
theorem invariant_traffic {P : Gateway ι → Prop} {l : List Traffic}
    (hserve : ∀ t ∈ l, ∀ g g', P g → Serve settings env introspectors g t g' → P g') (hg : P g) :
    P (g.run settings env introspectors l) := by
  induction l generalizing g with
  | nil => exact hg
  | cons t l ih =>
    refine ih (fun s hs => hserve s (List.mem_cons_of_mem _ hs)) ?_
    rcases serve_of_step settings env introspectors g t with h | h
    · rw [h]
      exact hg
    · exact hserve t List.mem_cons_self g _ hg h

variable (settings env introspectors) in
theorem ended_traffic {j : Nat} {p : Phase} (hp : g.world.phase? j = some p) (hended : p.isEnded = true)
    (l : List Traffic) : (g.run settings env introspectors l).world.phase? j = some p := by
  refine invariant_traffic (P := fun g => g.world.phase? j = some p) (fun _ _ g g' hp h => ?_) hp
  obtain ⟨e, hs⟩ := step_of_serve h
  exact World.ended_step hs hp hended

variable (settings env introspectors) in
theorem commits_traffic (g : Gateway ι) (l : List Traffic) :
    g.commits <+: (g.run settings env introspectors l).commits := by
  refine invariant_traffic (P := fun g' => g.commits <+: g'.commits) (fun _ _ g₁ g₂ hg h => ?_) (List.prefix_refl _)
  cases h with
  | advance => exact hg.trans (List.prefix_append _ _)
  | _ => exact hg

end Serve

/-! ## Orders -/

section Orders

variable {settings : Settings} {env : Environment} {r : Request} {o : Order}

theorem ok_of_bind {α β ε : Type} {result : Except ε α} {next : α → Except ε β} {b : β} (h : result >>= next = .ok b) :
    ∃ a, result = .ok a ∧ next a = .ok b := by
  match result with
  | .ok a => exact ⟨a, rfl, h⟩
  | .error _ => cases h

/-- the order to put a configuration in the place of the current one -/
def Http.ReloadPost.order (settings : Settings) (env : Environment) (post : ReloadPost) : Order :=
  ⟨.amend ⟨servedHolder, false, post.change env settings.connectionString⟩, 200⟩

def Http.EntityPost.order (post : EntityPost) : Order := ⟨.amend ⟨servedHolder, true, .ok post.change⟩, 201⟩

/-- **The orders there are**: a first configuration, another configuration, or one entity more -/
inductive Ordered (settings : Settings) (env : Environment) : Order → Prop
  | first (request : FirstConfig) : Ordered settings env ⟨.configure servedHolder request true, 200⟩
  | reload (post : ReloadPost) : Ordered settings env (post.order settings env)
  | entity (post : EntityPost) : Ordered settings env post.order

theorem ordered_of_form {f : Form} (h : f.order settings env r = .ok o) : Ordered settings env o := by
  cases f with
  | configuration =>
    obtain ⟨post, -, h⟩ := ok_of_bind h
    obtain ⟨first, -, h⟩ := ok_of_bind h
    cases h
    exact .first first
  | overridden =>
    obtain ⟨post, -, h⟩ := ok_of_bind h
    obtain ⟨first, -, h⟩ := ok_of_bind h
    cases h
    exact .first first
  | reload =>
    obtain ⟨post, -, h⟩ := ok_of_bind h
    cases h
    exact .reload post
  | entity =>
    obtain ⟨post, -, h⟩ := ok_of_bind h
    cases h
    exact .entity post

theorem ordered_of_plan (h : r.plan settings env = .order o) : Ordered settings env o := by
  unfold Request.plan at h
  split at h
  · cases h
  · cases h
  · split at h
    · cases h
    · rename_i hform
      cases h
      exact ordered_of_form hform

end Orders

/-! ## A gateway that starts with a configuration -/

open scoped Simulation

def emptyDatabases : Introspectors Unit where
  serves _ := true
  ask _ _ _ memory := (⟨some ⟨0⟩, .found []⟩, memory)

/-- the start of a gateway with a configuration, up to its end -/
def firstTraffic : List Traffic :=
  [.applyHeld] ++ List.replicate 3 (.advance 0) ++ [.settle 0 "default"] ++ List.replicate 14 (.advance 0)

/-- a gateway after its start -/
def startedGateway : Gateway Unit :=
  (Gateway.boot (some World.plainConfig) ()).run {} (fun _ => none) emptyDatabases firstTraffic

end EntityGateway
