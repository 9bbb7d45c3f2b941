/-
The metadata and the services agree with the snapshot that is held.

While no change is between its commit and its end, a gateway that is ready holds a snapshot with which the set in use
and all services agree, and a gateway that is not ready uses no metadata. A change that fails leads back to this: the
set from before is still as it was, and pointing the services at it again cannot fail, since it did not fail before.

- `AtRest`: what is true between changes; `InStep`: what a change can count on in each of its phases;
- `move_inStep`: the job with the lock keeps to this; `kept_inStep`: all others leave it alone;
- `registry_and_services_agree`: the whole of it, along all traffic.
-/
import EntityGateway.Proofs.Orchestration.Reservation
import EntityGateway.Proofs.Served.Agreement
import EntityGateway.Proofs.Served.Custody

namespace EntityGateway

open Http

/-- whether services are pointed at something in this phase, or about to be pointed back -/
def Phase.isRewiring : Phase → Bool
  | .calling .. | .awaiting .. | .rollingBack .. => true
  | _ => false

namespace World

/-! ## What is true between changes, and what a change can count on -/

section InStep

variable [Pattern.Engine]

/-- what is true of a gateway while nothing is put in force -/
structure AtRest (w : World Services ι) : Prop where
  agrees : w.ready = true → ∃ s, w.served.held = some s ∧ Coherent s w.currentSet w.services
  empty : w.ready = false → w.currentSet.providers = .empty

/-- a change has a set of its own, built from its snapshot -/
structure Prepared (w : World Services ι) (job : Nat) (r : Run) (place : Nat) : Prop where
  rest : w.AtRest
  checkpoint : r.checkpoint = w.checkpoint servedHolder
  built : (w.set place).BuiltFrom r.snapshot
  reserved : w.Reserved job place

/-- what was in force before a change can be put in force again -/
structure Restorable (w : World Services ι) (c : Checkpoint) : Prop where
  ready : w.ready = c.wasReady
  held : c.wasReady = true → ∃ t, c.target = some t ∧ (w.set c.set).BuiltFrom t ∧ Compiles t (w.set c.set)
  empty : c.wasReady = false → (w.set c.set).providers = .empty

/-- services are being pointed at the set in use -/
structure Wiring (w : World Services ι) (rw : Rewiring) : Prop where
  built : w.currentSet.BuiltFrom rw.snapshot
  back : ∀ c, rw.purpose = .serve c → w.Restorable rw.run.checkpoint
  again : ∀ fault, rw.purpose = .restore fault → w.ready = true ∧ Compiles rw.snapshot w.currentSet

/-- a call was answered at once, and makes a service agree if it succeeds; it succeeds if it did before -/
structure Answered (w : World Services ι) (rw : Rewiring) (done : List Wire) (p : Pending) : Prop where
  atOnce : p.answersAt.any (· ≤ w.now) = true
  agrees : p.result = .ok () → ∀ x ∈ done, x.Done rw.snapshot w.currentSet w.services
  again : ∀ fault, rw.purpose = .restore fault → p.result = .ok ()

/-- what a job in a phase can count on -/
def InStep (w : World Services ι) (job : Nat) : Phase → Prop
  | .validating r | .constructing r => w.AtRest ∧ r.checkpoint = w.checkpoint servedHolder
  | .preparing r g _ => w.Prepared job r g.set
  | .relating r place _ | .committing r place _ => w.Prepared job r place
  | .calling rw todo =>
    w.Wiring rw ∧ ∃ done, done ++ todo = Wire.all ∧ ∀ x ∈ done, x.Done rw.snapshot w.currentSet w.services
  | .awaiting rw wire todo p =>
    w.Wiring rw ∧ ∃ done, done ++ wire :: todo = Wire.all ∧ w.Answered rw (done ++ [wire]) p
  | .generating r _ | .documenting r _ _ | .concluding r _ _ => Coherent r.snapshot w.currentSet w.services
  | .rollingBack r _ => w.Restorable r.checkpoint
  | .failing .. => w.AtRest
  | _ => True

/-- what is true of a gateway at every moment -/
structure Consistent (w : World Services ι) : Prop where
  served : w.Served
  spare : ∀ l ∈ w.leftovers, w.Reserved l.job l.set
  rest : w.running = none → w.AtRest
  inStep : ∀ j p, w.phase? j = some p → w.InStep j p

theorem inStep_of_free {w : World Services ι} {job : Nat} {p : Phase} (h : p.isLocked = false) : w.InStep job p := by
  cases p <;> trivial

end InStep

/-! ## What others leave alone -/

/-- what metadata and services agree about is as it was, and so are some sets -/
structure Kept (w u : World Services ι) (l : List Nat) : Prop where
  held : ∀ s, w.served.held = some s → u.served.held = some s
  ready : u.ready = w.ready
  bound : u.bound = w.bound
  current : u.current = w.current
  services : u.services = w.services
  now : w.now ≤ u.now
  sets : ∀ i, i = w.current ∨ i ∈ l → u.set i = w.set i

section Kept

variable {w u : World Services ι} {l : List Nat} {job : Nat}

/-- the stage, the lock, the jobs, what is left of them and the numbers of snapshots to come have no part in it -/
theorem kept_aside {stage : Stage} {running : Option Nat} {jobs : List Phase} {leftovers : List Leftover}
    {fresh : Nat} : Kept w { w with stage, running, jobs, leftovers, fresh } l :=
  ⟨fun _ h => h, rfl, rfl, rfl, rfl, le_rfl, fun _ _ => rfl⟩

theorem Kept.currentSet (h : Kept w u l) : u.currentSet = w.currentSet := by
  unfold World.currentSet
  rw [h.current]
  exact h.sets _ (Or.inl rfl)

theorem Kept.checkpoint (h : Kept w u l) (hsome : w.served.held.isSome) :
    u.checkpoint servedHolder = w.checkpoint servedHolder := by
  obtain ⟨s, hs⟩ := Option.isSome_iff_exists.1 hsome
  have hheld : (u.holder servedHolder).held = (w.holder servedHolder).held := (h.held s hs).trans hs.symm
  simp only [World.checkpoint, h.bound, h.current, h.ready, hheld]

theorem held_of_locked {p : Phase} (hw : w.Served) (hp : w.phase? job = some p) (hl : p.isLocked = true) :
    w.served.held.isSome := by
  obtain ⟨r, hr⟩ := Phase.exists_run hl
  obtain ⟨t, -, hheld⟩ := (hw.custody job p hp).run r hr
  rw [hheld]
  rfl

variable [Pattern.Engine]

theorem AtRest.kept (hr : w.AtRest) (h : Kept w u l) : u.AtRest := by
  refine ⟨fun hready => ?_, fun hready => ?_⟩
  · obtain ⟨s, hs, hc⟩ := hr.agrees (h.ready ▸ hready)
    rw [h.currentSet, h.services]
    exact ⟨s, h.held s hs, hc⟩
  · rw [h.currentSet]
    exact hr.empty (h.ready ▸ hready)

theorem Prepared.kept {r : Run} {place : Nat} (hp : w.Prepared job r place) (h : Kept w u l)
    (hsome : w.served.held.isSome) (hplace : place ∈ l) (hreserved : u.Reserved job place) :
    u.Prepared job r place := by
  refine ⟨hp.rest.kept h, hp.checkpoint.trans (h.checkpoint hsome).symm, ?_, hreserved⟩
  rw [h.sets _ (Or.inr hplace)]
  exact hp.built

theorem Restorable.kept {c : Checkpoint} (hr : w.Restorable c) (h : Kept w u l) (hplace : c.set ∈ l) :
    u.Restorable c := by
  have hset := h.sets _ (Or.inr hplace)
  refine ⟨h.ready.trans hr.ready, ?_, ?_⟩
  · rw [hset]
    exact hr.held
  · rw [hset]
    exact hr.empty

theorem Wiring.kept {rw : Rewiring} (hw : w.Wiring rw) (h : Kept w u l)
    (hplace : rw.run.checkpoint.set ∈ l) : u.Wiring rw := by
  refine ⟨?_, fun c hc => (hw.back c hc).kept h hplace, ?_⟩
  · rw [h.currentSet]
    exact hw.built
  · rw [h.currentSet, h.ready]
    exact hw.again

theorem Answered.kept {rw : Rewiring} {done : List Wire} {p : Pending} (ha : w.Answered rw done p)
    (h : Kept w u l) : u.Answered rw done p := by
  refine ⟨?_, ?_, ha.again⟩
  · have hat := ha.atOnce
    have hnow := h.now
    cases hp : p.answersAt with
    | none => simp [hp] at hat
    | some t =>
      simp only [hp, Option.any_some, decide_eq_true_eq] at hat ⊢
      omega
  · rw [h.currentSet, h.services]
    exact ha.agrees

/-- **A job can count on what it could**, if what it counts on is as it was -/
theorem kept_inStep {p : Phase} (hp : w.InStep job p) (h : Kept w u p.sets)
    (hsome : p.isLocked = true → w.served.held.isSome)
    (hreserved : ∀ place, w.Reserved job place → u.Reserved job place) : u.InStep job p := by
  cases p with
  | validating => exact ⟨hp.1.kept h, hp.2.trans (h.checkpoint (hsome rfl)).symm⟩
  | constructing => exact ⟨hp.1.kept h, hp.2.trans (h.checkpoint (hsome rfl)).symm⟩
  | preparing => exact Prepared.kept hp h (hsome rfl) (by simp [Phase.sets]) (hreserved _ hp.reserved)
  | relating => exact Prepared.kept hp h (hsome rfl) (by simp [Phase.sets]) (hreserved _ hp.reserved)
  | committing => exact Prepared.kept hp h (hsome rfl) (by simp [Phase.sets]) (hreserved _ hp.reserved)
  | calling =>
    obtain ⟨hwiring, done, hall, hdone⟩ := hp
    refine ⟨hwiring.kept h (by simp [Phase.sets]), done, hall, ?_⟩
    rw [h.currentSet, h.services]
    exact hdone
  | awaiting =>
    obtain ⟨hwiring, done, hall, hanswered⟩ := hp
    exact ⟨hwiring.kept h (by simp [Phase.sets]), done, hall, hanswered.kept h⟩
  | generating =>
    show Coherent _ _ _
    rw [h.currentSet, h.services]
    exact hp
  | documenting =>
    show Coherent _ _ _
    rw [h.currentSet, h.services]
    exact hp
  | concluding =>
    show Coherent _ _ _
    rw [h.currentSet, h.services]
    exact hp
  | rollingBack => exact Restorable.kept hp h (by simp [Phase.sets])
  | failing => exact AtRest.kept hp h
  | _ => trivial

end Kept

/-! ## Calls to the services -/

section Calls

variable {settings : Settings} {env : Environment} {introspectors : Introspectors ι} {w u : World Services ι}

theorem replied_atOnce {p : Pending} {reply : Option (Except GatewayError Unit)}
    (hat : p.answersAt.any (· ≤ w.now) = true) (h : w.replied? p = some reply) : reply = some p.result := by
  unfold replied? at h
  rw [if_pos hat] at h
  exact (Option.some.inj h).symm

theorem callFailure_eq_none {setup : Setup σ ι} {wire : Wire} {result : Except GatewayError Unit} :
    callFailure setup wire (some result) = none ↔ result = .ok () := by
  cases result <;> simp [callFailure]

variable [Pattern.Engine]

/-- a service answers at once, and changes only if its answer is a success -/
theorem makeCall_answer {c : Call} {p : Pending}
    (h : w.makeCall (Server.setup settings env introspectors) c = (p, u)) :
    ∃ v, u = { w with services := v } ∧ p.answersAt = some w.now ∧
      ((p.result = .ok () ∧ w.services.answer c = .ok v) ∨
        (∃ e, p.result = .error e ∧ w.services.answer c = .error e ∧ v = w.services)) := by
  have hcall : (Server.setup settings env introspectors).dependents.call c w.services =
      w.services.settle (w.services.answer c) := rfl
  simp only [makeCall, hcall] at h
  cases hanswer : w.services.answer c with
  | ok v =>
    rw [hanswer] at h
    cases h
    exact ⟨v, rfl, rfl, Or.inl ⟨rfl, rfl⟩⟩
  | error e =>
    rw [hanswer] at h
    cases h
    exact ⟨w.services, rfl, rfl, Or.inr ⟨e, rfl, rfl, rfl⟩⟩

/-- documentation takes nothing from what is agreed about -/
theorem coherent_generate {s c : Snapshot} {set : ProviderSet} {h : ConfigHolder} {v v' : Services}
    (hc : Coherent s set v) (hanswer : v.answer (.generate h c) = .ok v') : Coherent s set v' := by
  obtain ⟨document, -, rfl⟩ := ok_of_map hanswer
  exact ⟨hc.built, hc.permissions, hc.rules, hc.types⟩

end Calls

/-! ## The job with the lock -/

section Moves

variable {settings : Settings} {env : Environment} {introspectors : Introspectors ι} {w u : World Services ι}
  {job : Nat} {p q : Phase}

theorem snapshot_of_serve (hcustody : w.Custody (.calling rw todo)) (hpurpose : rw.purpose = .serve c) :
    rw.run.snapshot = rw.snapshot := by
  obtain ⟨t, -, hheld⟩ := hcustody.run rw.run rfl
  have hwired := hcustody.wires rw rfl
  rw [hheld] at hwired
  simpa [Phase.isInForce, Purpose.isService, hpurpose] using hwired

variable [Pattern.Engine]

theorem prepared_new (hw : w.Sound) {r : Run} {launched : ProviderSet} {memory : ι}
    (hsome : w.served.held.isSome) (hrest : w.AtRest) (hcheckpoint : r.checkpoint = w.checkpoint servedHolder)
    (hbuilt : launched.BuiltFrom r.snapshot) :
    World.Prepared (World.setPhase { w.addSet launched with memory } job q) job r w.sets.length := by
  have hkept : Kept w (World.setPhase { w.addSet launched with memory } job q) [] := by
    refine ⟨fun _ h => h, rfl, rfl, rfl, rfl, le_rfl, fun i hi => ?_⟩
    obtain rfl := hi.resolve_right List.not_mem_nil
    exact set_addSet_of_lt w launched hw.inUse
  refine ⟨hrest.kept hkept, hcheckpoint.trans (hkept.checkpoint hsome).symm, ?_, reserved_new hw⟩
  show ((w.addSet launched).set w.sets.length).BuiltFrom _
  rw [set_addSet_self]
  exact hbuilt

theorem restorable_commit {r : Run} {place : Nat} {report : InitializationReport}
    (h : w.InStep job (.committing r place report)) :
    w.Restorable r.checkpoint := by
  obtain ⟨hrest, hcheckpoint, -, -⟩ := h
  rw [hcheckpoint]
  refine ⟨rfl, fun hready => ?_, hrest.empty⟩
  obtain ⟨s, hs, hc⟩ := hrest.agrees hready
  exact ⟨s, hs, hc.built, hc.compiles⟩

/-- what was put back is at rest if it was not ready -/
theorem atRest_putBack {c : Checkpoint} {v : World Services ι} (hr : w.Restorable c) (hready : v.ready = w.ready)
    (hset : v.currentSet = w.set c.set) (hidle : c.wasReady = false) : v.AtRest := by
  refine ⟨fun h => ?_, fun _ => ?_⟩
  · rw [hready, hr.ready, hidle] at h
    cases h
  · rw [hset]
    exact hr.empty hidle

/-- a call is answered, and what it makes agree adds to what agrees -/
theorem answered_call {rw : Rewiring} {wire : Wire} {todo done : List Wire} {answer : Pending} (hwiring : w.Wiring rw)
    (hheld : (w.holder rw.holder).held = some rw.snapshot) (hall : done ++ wire :: todo = Wire.all)
    (hdone : ∀ x ∈ done, x.Done rw.snapshot w.currentSet w.services)
    (hcall : w.makeCall (Server.setup settings env introspectors)
      (wire.call (w.holder rw.holder) w.currentSet rw.snapshot) = (answer, u)) :
    (u.setPhase job (.awaiting rw wire todo answer)).InStep job (.awaiting rw wire todo answer) := by
  obtain ⟨v, rfl, hat, hanswer⟩ := makeCall_answer hcall
  refine ⟨⟨hwiring.built, fun c hc => ?_, hwiring.again⟩, done, hall, ?_, fun hok => ?_, fun fault hf => ?_⟩
  · obtain ⟨h₁, h₂, h₃⟩ := hwiring.back c hc
    exact ⟨h₁, h₂, h₃⟩
  · simp [hat, setPhase]
  · rcases hanswer with ⟨-, hanswer⟩ | ⟨e, herror, -⟩
    · exact answer_done hheld hanswer hdone
    · rw [hok] at herror
      cases herror
  · -- what was in force before is not refused
    rcases hanswer with ⟨hok, -⟩ | ⟨e, -, hanswer, -⟩
    · exact hok
    · obtain ⟨v', hv⟩ := answer_of_compiles hheld (hwiring.again fault hf).2
      rw [hv] at hanswer
      cases hanswer

theorem coherent_of_served {rw : Rewiring} {c : Commit} (hcustody : w.Custody (.calling rw []))
    (hin : w.InStep job (.calling rw [])) (hpurpose : rw.purpose = .serve c) :
    Coherent rw.run.snapshot w.currentSet w.services := by
  obtain ⟨hwiring, done, hall, hdone⟩ := hin
  rw [List.append_nil] at hall
  subst hall
  rw [snapshot_of_serve hcustody hpurpose]
  exact coherent_of_done hwiring.built hdone

theorem atRest_restored {rw : Rewiring} {fault : ChangeError} (hcustody : w.Custody (.calling rw []))
    (hin : w.InStep job (.calling rw [])) (hpurpose : rw.purpose = .restore fault) : w.AtRest := by
  obtain ⟨hwiring, done, hall, hdone⟩ := hin
  rw [List.append_nil] at hall
  subst hall
  refine ⟨fun _ => ⟨_, hcustody.wires _ rfl, coherent_of_done hwiring.built hdone⟩, fun hidle => ?_⟩
  rw [(hwiring.again _ hpurpose).1] at hidle
  cases hidle

/-- **The job with the lock can count on what it should**, phase by phase -/
theorem move_inStep (hw : w.Consistent) (hp : w.phase? job = some p) (hlocked : p.isLocked = true)
    (hm : Move (Server.setup settings env introspectors) job w p q u) : (u.setPhase job q).InStep job q := by
  have hin := hw.inStep job p hp
  have hcustody := hw.served.custody job p hp
  have hserves := hw.served.serves job p hp
  have hsome := held_of_locked hw.served hp hlocked
  have hreserved : u.current = w.current → ∀ place, w.Reserved job place → (u.setPhase job q).Reserved job place :=
    fun hcurrent place hr => reserved_step hr (Step.advance hp hm) fun _ => hcurrent
  cases hm with
  | invalid => exact AtRest.kept (l := []) hin.1 kept_aside
  | valid => exact ⟨AtRest.kept (l := []) hin.1 kept_aside, hin.2⟩
  | unsupported => exact AtRest.kept (l := []) hin.1 kept_aside
  | construct hset hlaunch =>
    exact prepared_new hw.served.sound hsome hin.1 hin.2 (builtFrom_launch (builtFrom_ofSnapshot hset) hlaunch)
  | gathered =>
    exact Prepared.kept (l := [_]) hin kept_aside hsome List.mem_cons_self
      (hreserved rfl _ hin.reserved)
  | gatheredInProduction =>
    exact Prepared.kept (l := [_]) hin kept_aside hsome List.mem_cons_self
      (hreserved rfl _ hin.reserved)
  | unprepared => exact AtRest.kept (l := []) hin.rest kept_aside
  | unrelated => exact AtRest.kept (l := []) hin.rest kept_aside
  | related =>
    exact Prepared.kept (l := [_]) hin kept_aside hsome List.mem_cons_self
      (hreserved rfl _ hin.reserved)
  | commit =>
    obtain ⟨h₁, h₂, h₃⟩ := restorable_commit hin
    refine ⟨⟨hin.built, fun _ _ => ⟨h₁, h₂, h₃⟩, fun _ h => by cases h⟩, [], rfl, ?_⟩
    simp
  | call hcall =>
    obtain ⟨hwiring, done, hall, hdone⟩ := hin
    obtain ⟨-, -, hholder⟩ := hserves
    have hheld := hcustody.wires _ rfl
    unfold World.served at hheld
    rw [← hholder] at hheld
    exact answered_call hwiring hheld hall hdone hcall
  | answered hreply hok =>
    obtain ⟨hwiring, done, hall, hanswered⟩ := hin
    obtain rfl := replied_atOnce hanswered.atOnce hreply
    refine ⟨?_, done ++ [_], List.append_cons .. ▸ hall, hanswered.agrees (callFailure_eq_none.1 hok)⟩
    exact hwiring.kept kept_aside (List.mem_singleton_self _)
  | refused hreply hbad hpurpose =>
    exact Restorable.kept (l := [_]) (hin.1.back _ hpurpose) kept_aside List.mem_cons_self
  | lost hreply hbad hpurpose =>
    obtain ⟨-, done, -, hanswered⟩ := hin
    obtain rfl := replied_atOnce hanswered.atOnce hreply
    rw [callFailure_eq_none.2 (hanswered.again _ hpurpose)] at hbad
    cases hbad
  | restored hpurpose => exact AtRest.kept (l := []) (atRest_restored hcustody hin hpurpose) kept_aside
  | document hpurpose => exact coherent_of_served (w := w) hcustody hin hpurpose
  | skip hpurpose => exact coherent_of_served (w := w) hcustody hin hpurpose
  | generate hcall =>
    obtain ⟨v, rfl, -, ⟨-, hanswer⟩ | ⟨e, -, -, rfl⟩⟩ := makeCall_answer hcall
    · exact coherent_generate hin hanswer
    · exact hin
  | documented => exact hin
  | succeed => trivial
  | restore hready hu hheld =>
    obtain ⟨t, ht, hbuilt, hcompiles⟩ := hin.held hready
    obtain ⟨t', ht', hput⟩ := held_rollBack hw.served hp hu
    obtain rfl := Option.some.inj (ht.symm.trans ht')
    rw [hserves.2] at hheld
    obtain rfl := Option.some.inj (hput.symm.trans hheld)
    subst hu
    refine ⟨⟨hbuilt, fun _ h => (by cases h), fun _ _ => ⟨hin.ready.trans hready, hcompiles⟩⟩, [], rfl, ?_⟩
    simp
  | giveUp hu hidle =>
    obtain ⟨t, -, hput⟩ := held_rollBack hw.served hp hu
    rcases hidle with hidle | hnone
    · subst hu
      exact atRest_putBack hin rfl rfl hidle
    · -- something was held, so it is held again
      rw [hserves.2] at hnone
      cases hput.symm.trans hnone
  | fail => trivial
  | _ => cases hlocked

/-- a change that ends leaves a gateway at rest -/
theorem atRest_end (hw : w.Consistent) (hp : w.phase? job = some p) (hlocked : p.isLocked = true)
    (hq : q.isLocked = false) (hm : Move (Server.setup settings env introspectors) job w p q u) : u.AtRest := by
  have hin := hw.inStep job p hp
  cases hm with
  | succeed =>
    obtain ⟨t, -, hheld⟩ := (hw.served.custody job _ hp).run _ rfl
    exact ⟨fun _ => ⟨_, hheld, hin⟩, fun h => by cases h⟩
  | fail => exact AtRest.kept (l := []) hin kept_aside
  | _ => contradiction

/-- a change that begins can count on a gateway at rest -/
theorem inStep_begin (hw : w.Consistent) (hp : w.phase? job = some p) (hfree : p.isLocked = false)
    (hq : q.isLocked = true) (hm : Move (Server.setup settings env introspectors) job w p q u) :
    (u.setPhase job q).InStep job q := by
  have hserves := hw.served.serves job p hp
  cases hm with
  | apply hrun =>
    obtain rfl := hserves
    exact ⟨AtRest.kept (l := []) (hw.rest hrun) kept_aside, rfl⟩
  | edit hrun =>
    obtain rfl := hserves
    exact ⟨AtRest.kept (l := []) (hw.rest hrun) kept_aside, rfl⟩
  | install => split_ifs at hq <;> cases hq
  | _ => contradiction

theorem kept_free {l : List Nat} (hw : w.Served) (hp : w.phase? job = some p) (hfree : p.isLocked = false)
    (hq : q.isLocked = false) (hm : Move (Server.setup settings env introspectors) job w p q u) : Kept w u l := by
  obtain ⟨hcurrent, hbound, -, hready, -, -⟩ := move_governed hm hfree hq
  have hnow := move_now hm
  have hheld : ∀ s, w.served.held = some s → u.served.held = some s := by
    intro s hs
    rcases move_held hw hp hm with hsame | ⟨hl, -⟩ | hnone
    · rw [hsame]
      exact hs
    · rw [hfree] at hl
      cases hl
    · rw [hnone] at hs
      cases hs
  have hserves := hw.serves job p hp
  refine ⟨hheld, hready, hbound, hcurrent, ?_, hnow.ge, fun i _ => ?_⟩
  · cases hm with
    | accept => split_ifs <;> rfl
    | call => cases hfree
    | generate => cases hfree
    | restore => cases hfree
    | giveUp => cases hfree
    | _ => rfl
  · cases hm with
    | accept => split_ifs <;> rfl
    | construct => cases hfree
    | call => cases hfree
    | generate => cases hfree
    | restore => cases hfree
    | giveUp => cases hfree
    | refresh => exact hserves.elim
    | _ => rfl

end Moves

/-! ## Steps -/

section Steps

variable {settings : Settings} {env : Environment} {introspectors : Introspectors ι} {w u : World Services ι}
  {job : Nat} {p q : Phase} {e : Event}

/-- a job that waits, or that is over, leaves the set in use as it is -/
theorem current_of_waiting {setup : Setup σ ι} {w u : World σ ι} (hs : Step setup w e u) (hmover : e.mover? = some job)
    (hp : w.phase? job = some p) (hwaits : p.isOver = true ∨ p.gathering?.isSome = true) : u.current = w.current := by
  cases hs with
  | advance hp' hm =>
    cases hmover
    rw [hp] at hp'
    cases hp'
    cases hm with
    | accept => split_ifs <;> rfl
    | commit => rcases hwaits with h | h <;> cases h
    | call => rcases hwaits with h | h <;> cases h
    | generate => rcases hwaits with h | h <;> cases h
    | restore => rcases hwaits with h | h <;> cases h
    | giveUp => rcases hwaits with h | h <;> cases h
    | _ => rfl
  | _ => rfl

theorem kept_update {place : Nat} {l : List Nat} (hunused : place ≠ w.current) (hl : place ∉ l) (s : ProviderSet)
    (left : List Leftover) (jobs : List Phase) :
    Kept w { w with sets := w.sets.set place s, leftovers := left, jobs := jobs } l := by
  refine ⟨fun _ h => h, rfl, rfl, rfl, rfl, le_rfl, fun i hi => set_update_of_ne ?_ _⟩
  rintro rfl
  exact hi.elim hunused hl

variable [Pattern.Engine]

/-- what is left to itself stays reserved for the job that began it -/
theorem spare_step (hw : w.Consistent) (hs : Step (Server.setup settings env introspectors) w e u) :
    ∀ l ∈ u.leftovers, u.Reserved l.job l.set := by
  intro l hl
  rcases leftovers_step hs hl with hl | ⟨hmover, p, g, hp, hg, hset⟩
  · obtain ⟨p, hp, hover⟩ := hw.served.sound.ended l hl
    exact reserved_step (hw.spare l hl) hs fun h => current_of_waiting hs h hp (Or.inl hover)
  · have hcurrent := current_of_waiting hs hmover hp (Or.inr (by simp [hg]))
    refine reserved_step ?_ hs fun _ => hcurrent
    cases p <;> cases hg
    · exact hset ▸ (hw.inStep l.job _ hp).reserved
    · exact (hw.served.serves l.job _ hp).elim

theorem consistent_submit (hw : w.Consistent)
    (hs : Step (Server.setup settings env introspectors) w (.submit t) (w.submit t)) (hserved : (w.submit t).Served) :
    (w.submit t).Consistent := by
  refine ⟨hserved, spare_step hw hs, fun hrun => AtRest.kept (l := []) (hw.rest hrun) kept_aside, fun k r hk => ?_⟩
  rcases phase?_submit_cases hk with hk | ⟨-, rfl⟩
  · exact kept_inStep (hw.inStep k r hk) kept_aside (held_of_locked hw.served hk) fun place hr =>
      reserved_step hr hs (by simp [Event.mover?])
  · exact inStep_of_free (start_plain t).1

/-- **A move keeps a gateway consistent** -/
theorem consistent_advance (hw : w.Consistent) (hp : w.phase? job = some p)
    (hm : Move (Server.setup settings env introspectors) job w p q u) : (u.setPhase job q).Consistent := by
  have hs : Step (Server.setup settings env introspectors) w (.advance job) (u.setPhase job q) := .advance hp hm
  have hserved := served_advance hw.served hp hm
  have hsound := hserved.sound
  have hq := phase?_moved (move_jobs hm) hp q
  refine ⟨hserved, spare_step hw hs, fun hrun => ?_, fun k r hk => ?_⟩
  · -- nobody has the lock afterwards: either the change has ended, or there was none before
    have hqfree : q.isLocked = false := hsound.free_of_none hrun hq
    cases hlocked : p.isLocked with
    | true =>
      obtain ⟨h₁, h₂⟩ := atRest_end hw hp hlocked hqfree hm
      exact ⟨h₁, h₂⟩
    | false =>
      obtain ⟨-, -, -, -, -, hrunning⟩ := move_governed hm hlocked hqfree
      obtain ⟨h₁, h₂⟩ := (hw.rest (hrunning.symm.trans hrun)).kept (kept_free (l := []) hw.served hp hlocked hqfree hm)
      exact ⟨h₁, h₂⟩
  · by_cases hkj : k = job
    · subst hkj
      obtain rfl := Option.some.inj (hq.symm.trans hk)
      cases hqlocked : q.isLocked with
      | false => exact inStep_of_free hqlocked
      | true =>
        cases hlocked : p.isLocked with
        | true => exact move_inStep hw hp hlocked hm
        | false => exact inStep_begin hw hp hlocked hqlocked hm
    · cases hr : r.isLocked with
      | false => exact inStep_of_free hr
      | true =>
        -- another job has the lock, so this move is one without it
        have hqfree := hsound.free_of_other (hsound.alone k r hk hr) hq (Ne.symm hkj)
        rw [phase?_other (move_jobs hm) hkj] at hk
        have hfree := hw.served.sound.free_of_other (hw.served.sound.alone k r hk hr) hp (Ne.symm hkj)
        obtain ⟨h₁, h₂, h₃, h₄, h₅, h₆, h₇⟩ := kept_free (l := r.sets) hw.served hp hfree hqfree hm
        refine kept_inStep (hw.inStep k r hk) ⟨h₁, h₂, h₃, h₄, h₅, h₆, h₇⟩ (held_of_locked hw.served hk) ?_
        exact fun place hplace => reserved_step hplace hs fun h => absurd (Option.some.inj h).symm hkj

theorem consistent_settle (hw : w.Consistent)
    (hs : Step (Server.setup settings env introspectors) w (.settle job source) u) (hserved : u.Served) :
    u.Consistent := by
  have hspare := spare_step hw hs
  have hreserved : ∀ place, w.Reserved job place → u.current = w.current → u.Reserved job place :=
    fun place hr hcurrent => reserved_step hr hs fun _ => hcurrent
  cases hs with
  | settle hp =>
    obtain ⟨hrest, hcheckpoint, hbuilt, hres⟩ := hw.inStep job _ hp
    have hrun := hw.served.sound.alone job _ hp rfl
    have hsome := held_of_locked hw.served hp rfl
    refine ⟨hserved, hspare, fun h => ?_, fun k r hk => ?_⟩
    · change w.running = none at h
      rw [hrun] at h
      cases h
    · rcases phase?_setPhase_cases rfl hp hk with ⟨rfl, rfl⟩ | ⟨hne, hk⟩
      · have hkept := kept_update hres.unused List.not_mem_nil
        refine ⟨hrest.kept (hkept _ _ _), hcheckpoint.trans ((hkept _ _ _).checkpoint hsome).symm, ?_,
          hreserved _ hres rfl⟩
        exact builtFrom_update hres.there (builtFrom_settle hbuilt _)
      · exact inStep_of_free (hw.served.sound.free_of_other hrun hk hne)
  | resettle hp => exact (hw.served.serves job _ hp).elim

theorem consistent_linger (hw : w.Consistent)
    (hs : Step (Server.setup settings env introspectors) w (.linger place) u) (hserved : u.Served) : u.Consistent := by
  have hspare := spare_step hw hs
  have hreserved : ∀ k i, w.Reserved k i → u.Reserved k i := fun k i hr => reserved_step hr hs (by simp [Event.mover?])
  cases hs with
  | linger hl hdue =>
    rename_i l
    have hmem := List.mem_of_getElem? hl
    have hres := hw.spare _ hmem
    refine ⟨hserved, hspare, fun h => ?_, fun k r hk => ?_⟩
    · exact (hw.rest h).kept (kept_update hres.unused List.not_mem_nil _ _ _)
    refine kept_inStep (hw.inStep k r hk) (kept_update hres.unused (fun hi => ?_) _ _ _) (held_of_locked hw.served hk)
      (hreserved k)
    by_cases hkj : k = l.job
    · subst hkj
      obtain ⟨p, hp, hover⟩ := hw.served.sound.ended _ hmem
      obtain rfl := Option.some.inj (hp.symm.trans hk)
      cases p <;> first | cases hi | cases hover
    · exact hres.apart k r hk hkj hi

theorem consistent_tick (hw : w.Consistent) (hs : Step (Server.setup settings env introspectors) w (.tick time) u)
    (hserved : u.Served) : u.Consistent := by
  have hspare := spare_step hw hs
  have hreserved : ∀ k i, w.Reserved k i → u.Reserved k i := fun k i hr => reserved_step hr hs (by simp [Event.mover?])
  cases hs with
  | tick hlt =>
    have hkept : ∀ l, Kept w { w with now := time } l :=
      fun _ => ⟨fun _ h => h, rfl, rfl, rfl, rfl, hlt.le, fun _ _ => rfl⟩
    exact ⟨hserved, hspare, fun h => (hw.rest h).kept (hkept []), fun k r hk =>
      kept_inStep (hw.inStep k r hk) (hkept _) (held_of_locked hw.served hk) (hreserved k)⟩

theorem consistent_hangUp (hw : w.Consistent) (hp : w.phase? job = some p) (hcall : p.isInCall = false)
    (hs : Step (Server.setup settings env introspectors) w (.drop job) u) (hserved : u.Served) : u.Consistent := by
  have hspare := spare_step hw hs
  have hreserved : ∀ k i, k ≠ job → w.Reserved k i → u.Reserved k i :=
    fun k i hne hr => reserved_step hr hs fun h => absurd (Option.some.inj h).symm hne
  cases hs with
  | drop hp' hcan =>
    obtain rfl := Option.some.inj (hp.symm.trans hp')
    refine ⟨hserved, hspare, fun h => ?_, fun k r hk => ?_⟩
    · refine AtRest.kept (w := w) (l := []) ?_ kept_aside
      change (if w.running = some job then none else w.running) = none at h
      split_ifs at h with hrun
      · -- the client has the lock, so it waits for metadata
        obtain ⟨p', hp'', hlocked⟩ := hw.served.sound.locked job hrun
        obtain rfl := Option.some.inj (hp.symm.trans hp'')
        have hin := hw.inStep job p hp
        cases p with
        | preparing => exact hin.rest
        | _ => contradiction
      · exact hw.rest h
    · rcases phase?_setPhase_cases (u := w) rfl hp hk with ⟨rfl, rfl⟩ | ⟨hne, hk⟩
      · exact inStep_of_free rfl
      · exact kept_inStep (hw.inStep k r hk) kept_aside (held_of_locked hw.served hk) fun i => hreserved k i hne

end Steps

end World

/-! ## Agreement along all traffic -/

section Traffic

variable [Pattern.Engine] {settings : Settings} {env : Environment} {introspectors : Introspectors ι} {g g' : Gateway ι}

theorem consistent_boot (config : Option RuntimeConfig) (memory : ι) :
    (Gateway.boot config memory).world.Consistent := by
  refine ⟨served_boot config memory, fun l hl => (by cases hl), fun _ => ⟨fun h => (by cases h), fun _ => rfl⟩, ?_⟩
  intro j p hp
  rw [show (Gateway.boot config memory).world.phase? j = none from rfl] at hp
  cases hp

/-- **Every piece of traffic keeps a gateway consistent** -/
theorem consistent_serve (hg : g.world.Consistent) (h : Serve settings env introspectors g t g') :
    g'.world.Consistent := by
  have hserved := served_serve hg.served h
  have hsubmit : ∀ t, Step (Server.setup settings env introspectors) g.world (.submit t) (g.world.submit t) :=
    fun _ => .submit
  cases h with
  | take => exact World.consistent_submit hg (hsubmit _) hserved
  | apply => exact World.consistent_submit hg (hsubmit _) hserved
  | advance hp hm => exact World.consistent_advance hg hp hm
  | settle hs => exact World.consistent_settle hg hs hserved
  | linger hs => exact World.consistent_linger hg hs hserved
  | tick hs => exact World.consistent_tick hg hs hserved
  | hangUp hp hcall hs => exact World.consistent_hangUp hg hp hcall hs hserved

theorem consistent_reached (h : g.Reached settings env introspectors) : g.world.Consistent := by
  obtain ⟨config, memory, l, rfl⟩ := h
  exact invariant_traffic (P := fun g => g.world.Consistent) (fun _ _ _ _ => consistent_serve)
    (consistent_boot config memory)

/-- a gateway is at rest unless something is put in force -/
theorem agrees_of_inStep {w : World Services ι} (hw : w.Consistent)
    (hquiet : ∀ j p, w.phase? j = some p → p.isRewiring = false) (hready : w.ready = true) :
    ∃ s, w.served.held = some s ∧ Coherent s w.currentSet w.services := by
  cases hrun : w.running with
  | none => exact (hw.rest hrun).agrees hready
  | some job =>
    obtain ⟨p, hp, hlocked⟩ := hw.served.sound.locked job hrun
    have hin := hw.inStep job p hp
    have hcustody := hw.served.custody job p hp
    have hphase := hquiet job p hp
    cases p with
    | validating => exact hin.1.agrees hready
    | constructing => exact hin.1.agrees hready
    | preparing => exact hin.rest.agrees hready
    | relating => exact hin.rest.agrees hready
    | committing => exact hin.rest.agrees hready
    | generating r =>
      obtain ⟨t, -, hheld⟩ := hcustody.run r rfl
      exact ⟨r.snapshot, hheld, hin⟩
    | documenting r =>
      obtain ⟨t, -, hheld⟩ := hcustody.run r rfl
      exact ⟨r.snapshot, hheld, hin⟩
    | concluding r =>
      obtain ⟨t, -, hheld⟩ := hcustody.run r rfl
      exact ⟨r.snapshot, hheld, hin⟩
    | failing => exact hin.agrees hready
    | _ => contradiction

/-- **Metadata and services agree with the snapshot that is held**, whenever a gateway is ready and no services are
being pointed at anything; while it is not ready and no change goes on, there are no metadata -/
theorem registry_and_services_agree (hg : g.Reached settings env introspectors)
    (hquiet : ∀ j p, g.world.phase? j = some p → p.isRewiring = false) :
    (g.world.ready = true →
      ∃ s, g.world.served.held = some s ∧ Coherent s g.world.currentSet g.world.services) ∧
    (g.world.running = none → g.world.ready = false → g.world.currentSet.providers = .empty) :=
  ⟨agrees_of_inStep (consistent_reached hg) hquiet, fun hrun => ((consistent_reached hg).rest hrun).empty⟩

end Traffic

open scoped Simulation in
theorem registry_agrees_after_start :
    startedGateway.world.ready = true ∧
    ∃ s, startedGateway.world.served.held = some s ∧
      Coherent s startedGateway.world.currentSet startedGateway.world.services := by
  have hphases : startedGateway.world.jobs.all (fun p => !p.isRewiring) = true := rfl
  have hquiet : ∀ j p, startedGateway.world.phase? j = some p → p.isRewiring = false := by
    intro j p hp
    have := List.all_eq_true.1 hphases p (List.mem_of_getElem? hp)
    simpa using this
  have hreached : startedGateway.Reached {} (fun _ => none) emptyDatabases := ⟨_, _, _, rfl⟩
  exact ⟨rfl, (registry_and_services_agree hreached hquiet).1 rfl⟩

end EntityGateway
