/-
The course of one job among the others, and the calls to services on its way.

- `turn_of_step`: to a job in some phase, a step is a move of its own, the end of one of its initializations, its being
  given up, or nothing at all;
- `exists_end`: a job that has a result came to it by a move of its own, at one moment;
- `failed_step`: what that moment is like for a change that is not made;
- `step_governed`: what the job with the lock governs is left alone by all others;
- `run_services`: what the services know is what came of the calls, and of nothing else;
- `replied_outcome`: a reply is in time or it is not, whenever it is looked at.
-/
import EntityGateway.Orchestration.Schedule
import EntityGateway.Proofs.Orchestration.Soundness

namespace EntityGateway

/-! ## Turns -/

def Trigger.holder : Trigger → Nat
  | .apply i _ | .edit i _ => i

/-- the job whose phase an event is about -/
def Event.mover? : Event → Option Nat
  | .advance job | .settle job _ | .drop job => some job
  | .submit _ | .linger _ | .tick _ | .replace .. => none

/-- whether a job in this phase has come to its end -/
def Phase.isEnded : Phase → Bool
  | .finished _ | .dropped => true
  | _ => false

/-- what a step is to a job in a phase, and the phase after it -/
inductive Turn (setup : Setup σ ι) (job : Nat) (w : World σ ι) (p : Phase) : Event → World σ ι → Phase → Prop
  | moves (hm : Move setup job w p q u) : Turn setup job w p (.advance job) (u.setPhase job q) q
  | settles (hg : p.gathering? = some g) (hdue : g.due? w.now source = some t) :
      Turn setup job w p (.settle job source)
        ({ w with sets := w.sets.set g.set ((w.set g.set).settle t) }.setPhase job (p.withGathering (g.without source)))
        (p.withGathering (g.without source))
  | drops (hcan : p.canDrop = true) :
      Turn setup job w p (.drop job)
        { w.setPhase job .dropped with
          leftovers := w.leftovers ++ p.leftovers job, running := if w.running = some job then none else w.running }
        .dropped
  | rests (hs : Step setup w e u) (hother : e.mover? ≠ some job) : Turn setup job w p e u p

namespace World

section Turn

variable {setup : Setup σ ι} {job : Nat} {w u : World σ ι} {p : Phase} {e : Event}

theorem phase?_of_other (hs : Step setup w e u) (hp : w.phase? job = some p) (hother : e.mover? ≠ some job) :
    u.phase? job = some p := by
  cases hs with
  | submit => rw [phase?_submit_of_lt w _ (lt_jobs_of_phase? hp)]; exact hp
  | advance _ hm =>
    have hne : job ≠ _ := fun h => hother (congrArg some h.symm)
    rw [phase?_other (move_jobs hm) hne]
    exact hp
  | settle =>
    have hne : job ≠ _ := fun h => hother (congrArg some h.symm)
    rw [phase?_other rfl hne]
    exact hp
  | resettle =>
    have hne : job ≠ _ := fun h => hother (congrArg some h.symm)
    rw [phase?_other rfl hne]
    exact hp
  | drop =>
    have hne : job ≠ _ := fun h => hother (congrArg some h.symm)
    exact (phase?_other (u := w) rfl hne _).trans hp
  | linger => exact hp
  | tick => exact hp
  | replace => exact hp

/-- **A step is one of four things to a job** -/
theorem turn_of_step (hs : Step setup w e u) (hp : w.phase? job = some p) :
    ∃ q, u.phase? job = some q ∧ Turn setup job w p e u q := by
  by_cases hmover : e.mover? = some job
  · cases hs with
    | submit => cases hmover
    | advance hp' hm =>
      cases hmover
      rw [hp] at hp'
      cases hp'
      exact ⟨_, phase?_moved (move_jobs hm) hp _, .moves hm⟩
    | settle hp' hdue =>
      cases hmover
      rw [hp] at hp'
      cases hp'
      exact ⟨_, phase?_moved rfl hp _, .settles rfl hdue⟩
    | resettle hp' hdue =>
      cases hmover
      rw [hp] at hp'
      cases hp'
      exact ⟨_, phase?_moved rfl hp _, .settles rfl hdue⟩
    | linger => cases hmover
    | tick => cases hmover
    | drop hp' hcan =>
      cases hmover
      rw [hp] at hp'
      cases hp'
      exact ⟨_, phase?_moved (u := w) rfl hp _, .drops hcan⟩
    | replace => cases hmover
  · exact ⟨p, phase?_of_other hs hp hmover, .rests hs hmover⟩

/-- **What is known of a job along a list of events** is known at its end if no event breaks it -/
theorem follow_run {I : List Event → Phase → Prop} (hp : w.phase? job = some p) (hstart : I [] p)
    (hidle : ∀ l e p, I l p → (w.run setup l).phase? job = some p → (w.run setup l).step? setup e = none →
      w.run setup (l ++ [e]) = w.run setup l → I (l ++ [e]) p)
    (hturn : ∀ l e p u q, I l p → (w.run setup l).phase? job = some p → Step setup (w.run setup l) e u →
      w.run setup (l ++ [e]) = u → Turn setup job (w.run setup l) p e u q → I (l ++ [e]) q) (l : List Event) :
    ∃ q, (w.run setup l).phase? job = some q ∧ I l q := by
  induction l using List.reverseRecOn with
  | nil => exact ⟨p, hp, hstart⟩
  | append_singleton l e ih =>
    obtain ⟨q, hq, h⟩ := ih
    rcases step_cases setup (w.run setup l) e with ⟨hnone, hstep⟩ | hs
    · rw [← run_snoc] at hstep
      exact ⟨q, by rw [hstep]; exact hq, hidle l e q h hq hnone hstep⟩
    · rw [← run_snoc] at hs
      obtain ⟨r, hr, hr'⟩ := turn_of_step hs hq
      exact ⟨r, hr, hturn l e q _ r h hq hs rfl hr'⟩

/-! ## The end of a job -/

theorem result?_eq_some {result : JobResult} :
    w.result? job = some result ↔ w.phase? job = some (.finished result) := by
  unfold result?
  constructor
  · intro h
    obtain ⟨p, hp, hr⟩ := Option.bind_eq_some_iff.1 h
    cases p <;> cases hr
    exact hp
  · intro h
    rw [h]
    rfl

theorem result?_of_other (hs : Step setup w e u) (hp : w.phase? job = some p) (hnone : w.result? job = none)
    {result : JobResult} (hu : u.result? job = some result) : e = .advance job := by
  obtain ⟨q, hq, hturn⟩ := turn_of_step hs hp
  have hfinished : q = .finished result := Option.some.inj (hq.symm.trans (result?_eq_some.1 hu))
  cases hturn with
  | moves => rfl
  | settles hg => cases p <;> cases hg <;> cases hfinished
  | drops => cases hfinished
  | rests =>
    subst hfinished
    rw [result?_eq_some.2 hp] at hnone
    cases hnone

theorem ended_step (hs : Step setup w e u) (hp : w.phase? job = some p) (hended : p.isEnded = true) :
    u.phase? job = some p := by
  obtain ⟨q, hq, hturn⟩ := turn_of_step hs hp
  cases hturn with
  | moves hm => cases hm <;> contradiction
  | settles hg => cases p <;> contradiction
  | drops hcan => cases p <;> contradiction
  | rests => exact hq

theorem finished_step {result : JobResult} (hs : Step setup w e u) (hp : w.phase? job = some (.finished result)) :
    u.phase? job = some (.finished result) := ended_step hs hp rfl

variable (setup) in
theorem finished_run {result : JobResult} (hp : w.phase? job = some (.finished result)) (l : List Event) :
    (w.run setup l).phase? job = some (.finished result) :=
  invariant_run (P := fun w => w.phase? job = some (.finished result)) (fun _ _ _ h hs => finished_step hs h) hp l

theorem exists_phase_step (hs : w.step setup e = u) (hp : ∃ p, w.phase? job = some p) :
    ∃ p, u.phase? job = some p := by
  obtain ⟨p, hp⟩ := hp
  rcases step_eq_or setup w e with h | h
  · exact ⟨p, by rw [← hs, h]; exact hp⟩
  · rw [hs] at h
    obtain ⟨q, hq, -⟩ := turn_of_step h hp
    exact ⟨q, hq⟩

variable (setup) in
/-- **A job that has a result came to it at one moment**, by a move of its own -/
theorem exists_end {result : JobResult} (l : List Event) (hp : ∃ p, w.phase? job = some p)
    (hnone : w.result? job = none) (hend : (w.run setup l).result? job = some result) :
    ∃ before after, l = before ++ .advance job :: after ∧ (w.run setup before).result? job = none ∧
      (w.run setup (before ++ [.advance job])).result? job = some result := by
  induction l generalizing w with
  | nil =>
    rw [show w.run setup [] = w from rfl, hnone] at hend
    cases hend
  | cons e l ih =>
    change ((w.step setup e).run setup l).result? job = some result at hend
    cases hstep : (w.step setup e).result? job with
    | none =>
      obtain ⟨before, after, rfl, hb, ha⟩ := ih (exists_phase_step rfl hp) hstep hend
      exact ⟨e :: before, after, rfl, hb, ha⟩
    | some r =>
      have hlast := finished_run setup (result?_eq_some.1 hstep) l
      rw [← result?_eq_some, hend] at hlast
      cases hlast
      obtain ⟨p, hp⟩ := hp
      rcases step_eq_or setup w e with h | h
      · rw [h, hnone] at hstep
        cases hstep
      · obtain rfl := result?_of_other h hp hnone hstep
        exact ⟨[], l, rfl, hnone, hstep⟩

end Turn

/-- why a change is refused when it asks for the lock, if it is -/
def refusal? (w : World σ ι) (t : Trigger) : Option ChangeError :=
  if w.running.isSome then some .inProgress
  else
    match t with
    | .apply .. => none
    | .edit holder make =>
      match (w.holder holder).config >>= make with
      | .error e => some (.stage .validating e)
      | .ok _ => none

theorem step_of_next? {setup : Setup σ ι} {w : World σ ι} {job : Nat} {p : Phase} (hp : w.phase? job = some p)
    (hnext : (w.next? setup job p).isSome) :
    Step setup w (.advance job) (w.step setup (.advance job)) := by
  rcases step_cases setup w (.advance job) with ⟨hnone, -⟩ | hstep
  · obtain ⟨next, hnext⟩ := Option.isSome_iff_exists.1 hnext
    simp [step?, advance?, hp, hnext] at hnone
  · exact hstep

theorem move_of_step {setup : Setup σ ι} {w u : World σ ι} {job : Nat} {p : Phase} (hp : w.phase? job = some p)
    (hs : Step setup w (.advance job) u) :
    ∃ q v, Move setup job w p q v ∧ u = v.setPhase job q ∧ u.phase? job = some q := by
  cases hs with
  | advance hp' hm =>
    obtain rfl := Option.some.inj (hp.symm.trans hp')
    exact ⟨_, _, hm, rfl, phase?_moved (move_jobs hm) hp _⟩

section Failed

variable {setup : Setup σ ι} {job : Nat} {w u : World σ ι} {p : Phase} {e : ChangeError}

/-- a change that ends with an error was refused the lock, or gives it back -/
theorem move_failed (hm : Move setup job w p (.finished (.changed (.error e))) u) :
    ((∃ t, p = .locking t ∧ w.refusal? t = some e) ∧ u = w) ∨
      ((∃ r, p = .failing r e) ∧ u = (w.enter .failed).unlock) := by
  generalize hq : Phase.finished (.changed (.error e)) = q at hm
  cases hm with
  | busy hrun =>
    cases hq
    exact Or.inl ⟨⟨_, rfl, if_pos hrun⟩, rfl⟩
  | reject hrun hmake =>
    cases hq
    refine Or.inl ⟨⟨_, rfl, ?_⟩, rfl⟩
    simp [refusal?, hrun, hmake]
  | fail =>
    cases hq
    exact Or.inr ⟨⟨_, rfl⟩, rfl⟩
  | install =>
    split_ifs at hq
    cases hq
  | _ => cases hq

/-- **The last step of a change that is not made** gives it its result, and changes the stage, or not even that -/
theorem failed_step (hp : w.phase? job = some p) (hopen : w.result? job = none)
    (hend : (w.step setup (.advance job)).result? job = some (.changed (.error e))) :
    ((∃ t, p = .locking t ∧ w.refusal? t = some e) ∧
        w.step setup (.advance job) = w.setPhase job (.finished (.changed (.error e)))) ∨
      ((∃ r, p = .failing r e) ∧
        w.step setup (.advance job) = (w.enter .failed).unlock.setPhase job (.finished (.changed (.error e)))) := by
  rcases step_eq_or setup w (.advance job) with hstep | hstep
  · rw [hstep, hopen] at hend
    cases hend
  · generalize w.step setup (.advance job) = u at hstep hend ⊢
    cases hstep with
    | advance hp' hm =>
      rename_i p' q v
      rw [hp] at hp'
      cases hp'
      have hq : q = .finished (.changed (.error e)) :=
        Option.some.inj ((phase?_moved (move_jobs hm) hp q).symm.trans (result?_eq_some.1 hend))
      subst hq
      rcases move_failed hm with ⟨hlocking, rfl⟩ | ⟨hfailing, rfl⟩
      · exact Or.inl ⟨hlocking, rfl⟩
      · exact Or.inr ⟨hfailing, rfl⟩

end Failed

/-! ## What the job with the lock governs -/

/-- what the job with the lock governs is as it was -/
structure Governed (w u : World σ ι) : Prop where
  current : u.current = w.current
  bound : u.bound = w.bound
  stage : u.stage = w.stage
  ready : u.ready = w.ready
  lastReport : u.lastReport = w.lastReport
  running : u.running = w.running

theorem move_governed {setup : Setup σ ι} {job : Nat} {w u : World σ ι} {p q : Phase} (hm : Move setup job w p q u)
    (hp : p.isLocked = false) (hq : q.isLocked = false) : Governed w u := by
  cases hm with
  | accept => split_ifs <;> exact ⟨rfl, rfl, rfl, rfl, rfl, rfl⟩
  | _ =>
    first
    | exact ⟨rfl, rfl, rfl, rfl, rfl, rfl⟩
    | exact Bool.noConfusion (show true = false from hp)
    | exact Bool.noConfusion (show true = false from hq)

/-- **All others leave alone what the job with the lock governs** -/
theorem step_governed {setup : Setup σ ι} {job : Nat} {w u : World σ ι} {e : Event} (h : w.Sound)
    (hrun : w.running = some job) (hs : Step setup w e u) (hother : e.mover? ≠ some job) : Governed w u := by
  cases hs with
  | advance hp hm =>
    rename_i k p q v
    have hp' : p.isLocked = false := h.free_of_other hrun hp fun hk => hother (congrArg some hk)
    have hq : q.isLocked = false := by
      rcases move_lock hm with ⟨-, hq, -⟩ | ⟨-, -, hfree, -⟩ | ⟨hpl, -, -⟩ | ⟨-, hq, -⟩
      · exact hq
      · rw [hfree] at hrun
        cases hrun
      · rw [hp'] at hpl
        cases hpl
      · exact hq
    obtain ⟨h₁, h₂, h₃, h₄, h₅, h₆⟩ := move_governed hm hp' hq
    exact ⟨h₁, h₂, h₃, h₄, h₅, h₆⟩
  | drop hp =>
    refine ⟨rfl, rfl, rfl, rfl, rfl, if_neg fun hk => hother ?_⟩
    exact congrArg some (Option.some.inj (hk.symm.trans hrun))
  | _ => exact ⟨rfl, rfl, rfl, rfl, rfl, rfl⟩

theorem held_setHolder {w : World σ ι} {i : Nat} {h : ConfigHolder} (hheld : h.held = (w.holder i).held) (k : Nat) :
    ((w.setHolder i h).holder k).held = (w.holder k).held := by
  by_cases hk : k = i
  · subst hk
    by_cases hlt : k < w.holders.length
    · rw [holder_setHolder_self hlt, hheld]
    · simp [holder, setHolder, hlt]
  · rw [holder_setHolder_of_ne w hk]

theorem held_of_free {setup : Setup σ ι} {job : Nat} {w u : World σ ι} {p q : Phase} (hm : Move setup job w p q u)
    (hp : p.isLocked = false) {k : Nat} {s : Snapshot} (hs : (w.holder k).held = some s) :
    (u.holder k).held = some s := by
  rw [← hs]
  cases hm with
  | install hheld =>
    refine (congrArg ConfigHolder.held (holder_setHolder_of_ne w (fun hk => ?_) _))
    rw [← hk, hs] at hheld
    cases hheld
  | mark => exact held_setHolder (h := (w.holder _).markLate) rfl k
  | accept =>
    split_ifs
    · exact held_setHolder (h := (w.holder _).markLate) rfl k
    · rfl
  | commit => cases hp
  | call hcall => cases hp
  | generate hcall => cases hp
  | restore => cases hp
  | giveUp => cases hp
  | _ => rfl

/-- **All others leave a holder what it holds**, unless it is given something else -/
theorem held_of_other {setup : Setup σ ι} {job : Nat} {w u : World σ ι} {e : Event} (h : w.Sound)
    (hrun : w.running = some job) (hs : Step setup w e u) (hother : e.mover? ≠ some job) {k : Nat} {s : Snapshot}
    (hreplace : ∀ t, e ≠ .replace k t) (hheld : (w.holder k).held = some s) : (u.holder k).held = some s := by
  cases hs with
  | advance hp hm =>
    have hmoved := held_of_free hm (h.free_of_other hrun hp fun hk => hother (congrArg some hk)) hheld
    exact hmoved
  | replace =>
    rename_i i t
    have hne : k ≠ i := by
      rintro rfl
      exact hreplace t rfl
    rw [holder_setHolder_of_ne w hne]
    exact hheld
  | _ => exact hheld

end World

/-! ## Calls -/

/-- whether the next move of a job in this phase is a call -/
def Phase.isCalling : Phase → Bool
  | .calling _ (_ :: _) | .generating .. => true
  | _ => false

/-- a call that a job made -/
structure CallRecord where
  job : Nat
  /-- what was to be done; nothing if a snapshot was documented -/
  wire : Option Wire
  holder : Nat
  snapshot : Snapshot
  /-- the set that was in use -/
  set : Nat
  asked : Call
  reply : Reply

namespace World

def recordOf (setup : Setup σ ι) (w : World σ ι) (job : Nat) (wire : Option Wire) (holder : Nat) (s : Snapshot)
    (asked : Call) : CallRecord :=
  ⟨job, wire, holder, s, w.current, asked, (setup.dependents.call asked w.services).1⟩

def callOf? (setup : Setup σ ι) (w : World σ ι) : Event → Option CallRecord
  | .advance job =>
    match w.phase? job with
    | some (.calling rw (wire :: _)) =>
      some (w.recordOf setup job (some wire) rw.holder rw.snapshot
        (wire.call (w.holder rw.holder) w.currentSet rw.snapshot))
    | some (.generating r _) =>
      some (w.recordOf setup job none r.holder r.snapshot (.generate (w.holder r.holder) r.snapshot))
    | _ => none
  | _ => none

def calls (setup : Setup σ ι) (w : World σ ι) : List Event → List CallRecord
  | [] => []
  | e :: l => (w.callOf? setup e).toList ++ (w.step setup e).calls setup l

/-- the calls that one job makes along a list of events -/
def callsBy (setup : Setup σ ι) (job : Nat) (w : World σ ι) (l : List Event) : List CallRecord :=
  (w.calls setup l).filter (·.job == job)

section Calls

variable {setup : Setup σ ι} {w u : World σ ι} {e : Event}

theorem calls_append (w : World σ ι) (a b : List Event) :
    w.calls setup (a ++ b) = w.calls setup a ++ (w.run setup a).calls setup b := by
  induction a generalizing w with
  | nil => rfl
  | cons e a ih =>
    simp only [List.cons_append, calls, ih, List.append_assoc]
    rfl

theorem callsBy_append (job : Nat) (w : World σ ι) (a b : List Event) :
    w.callsBy setup job (a ++ b) = w.callsBy setup job a ++ (w.run setup a).callsBy setup job b := by
  simp only [callsBy, calls_append, List.filter_append]

theorem callsBy_singleton (job : Nat) (w : World σ ι) (e : Event) :
    w.callsBy setup job [e] = ((w.callOf? setup e).filter (·.job == job)).toList := by
  simp only [callsBy, calls, List.append_nil]
  cases w.callOf? setup e with
  | none => rfl
  | some c =>
    by_cases hc : c.job = job <;> simp [Option.filter, hc]

/-- a call is made by a move of the job that makes it -/
theorem callOf?_job {c : CallRecord} (h : w.callOf? setup e = some c) : e = .advance c.job := by
  unfold callOf? at h
  split at h
  · split at h <;> cases h <;> rfl
  · cases h

theorem callsBy_of_ne {job : Nat} (h : e ≠ .advance job) : w.callsBy setup job [e] = [] := by
  rw [callsBy_singleton]
  cases hc : w.callOf? setup e with
  | none => rfl
  | some c =>
    have hjob : c.job ≠ job := by
      rintro rfl
      exact h (callOf?_job hc)
    simp [hjob]

theorem callsBy_of_quiet {job : Nat} {p : Phase} (hp : w.phase? job = some p) (hquiet : p.isCalling = false)
    (e : Event) : w.callsBy setup job [e] = [] := by
  by_cases he : e = .advance job
  · subst he
    rw [callsBy_singleton]
    unfold callOf?
    simp only [hp]
    cases p with
    | calling rw todo =>
      cases todo with
      | nil => rfl
      | cons => cases hquiet
    | generating => cases hquiet
    | _ => rfl
  · exact callsBy_of_ne he

/-- what a call leads to is done when it is made -/
theorem move_services {job : Nat} {p q : Phase} (hp : w.phase? job = some p) (hm : Move setup job w p q u) :
    u.services = ((w.callOf? setup (.advance job)).map fun c => (setup.dependents.call c.asked w.services).2).getD
      w.services := by
  unfold callOf?
  simp only [hp]
  cases hm with
  | accept => split_ifs <;> rfl
  | call hcall => cases hcall; rfl
  | generate hcall => cases hcall; rfl
  | restore _ hu => subst hu; rfl
  | giveUp hu => subst hu; rfl
  | _ => rfl

theorem step_services (hs : Step setup w e u) :
    u.services = ((w.callOf? setup e).map fun c => (setup.dependents.call c.asked w.services).2).getD w.services := by
  cases hs with
  | advance hp hm =>
    have hservices := move_services hp hm
    exact hservices
  | _ => rfl

theorem step?_isSome_of_callOf? {c : CallRecord} (h : w.callOf? setup e = some c) : (w.step? setup e).isSome := by
  unfold callOf? at h
  split at h
  · split at h
    · rename_i hp
      simp [step?, advance?, hp, next?]
    · rename_i hp
      simp [step?, advance?, hp, next?]
    · cases h
  · cases h

theorem callsBy_of_none {job : Nat} (h : w.step? setup e = none) : w.callsBy setup job [e] = [] := by
  rw [callsBy_singleton]
  cases hc : w.callOf? setup e with
  | none => rfl
  | some c =>
    have := step?_isSome_of_callOf? hc
    rw [h] at this
    cases this

/-- **The services know what came of the calls**, one after another, and of nothing else -/
theorem run_services (w : World σ ι) (l : List Event) :
    (w.run setup l).services =
      (w.calls setup l).foldl (fun s c => (setup.dependents.call c.asked s).2) w.services := by
  induction l generalizing w with
  | nil => rfl
  | cons e l ih =>
    have hstep : (w.step setup e).services =
        ((w.callOf? setup e).map fun c => (setup.dependents.call c.asked w.services).2).getD w.services := by
      rcases step_cases setup w e with ⟨hnone, hw⟩ | hstep
      · rw [hw]
        cases hcall : w.callOf? setup e with
        | none => rfl
        | some c =>
          have := step?_isSome_of_callOf? hcall
          rw [hnone] at this
          cases this
      · exact step_services hstep
    change ((w.step setup e).run setup l).services = _
    rw [ih, hstep]
    simp only [calls, List.foldl_append]
    cases w.callOf? setup e <;> rfl

end Calls

end World

/-! ## Replies -/

/-- what a call comes to when it is waited for up to a limit; on the limit is in time -/
def Reply.outcome (limit : Duration) (r : Reply) : Option (Except GatewayError Unit) :=
  if r.after.any fun d => d.nanoseconds ≤ limit.nanoseconds then some r.result else none

/-- a call that was made at a time and got a reply -/
structure Pending.Of (setup : Setup σ ι) (p : Pending) (start : Nat) (r : Reply) : Prop where
  answersAt : p.answersAt = r.after.map fun d => start + d.nanoseconds
  result : p.result = r.result
  deadline : p.deadline = start + setup.stageTimeout.nanoseconds

namespace World

theorem makeCall_of {setup : Setup σ ι} {w u : World σ ι} {c : Call} {p : Pending}
    (h : w.makeCall setup c = (p, u)) : p.Of setup w.now (setup.dependents.call c w.services).1 := by
  simp only [makeCall] at h
  cases h
  exact ⟨rfl, rfl, rfl⟩

/-- **A reply is in time or it is not**, whenever it is looked at: no timer is passed unseen -/
theorem replied_outcome {setup : Setup σ ι} {w : World σ ι} {p : Pending} {start : Nat} {r : Reply}
    {reply : Option (Except GatewayError Unit)} (hp : p.Of setup start r)
    (htimely : ∀ t ∈ p.deadline :: p.answersAt.toList, w.now ≤ t) (h : w.replied? p = some reply) :
    reply = r.outcome setup.stageTimeout := by
  obtain ⟨hanswers, hresult, hdeadline⟩ := hp
  have hlate := htimely _ List.mem_cons_self
  unfold replied? at h
  rw [hanswers, hdeadline, hresult] at h
  rw [hdeadline] at hlate
  rw [hanswers] at htimely
  unfold Reply.outcome
  cases hafter : r.after with
  | none =>
    simp only [hafter, Option.map_none, Option.any_none, Bool.false_eq_true, if_false] at h ⊢
    split_ifs at h
    exact (Option.some.inj h).symm
  | some d =>
    have hearly : w.now ≤ start + d.nanoseconds := htimely _ (by simp [hafter])
    simp only [hafter, Option.map_some, Option.any_some, decide_eq_true_eq] at h ⊢
    split_ifs at h with hanswered hpassed
    · rw [if_pos (by omega)]
      exact (Option.some.inj h).symm
    · rw [if_neg (by omega)]
      exact (Option.some.inj h).symm

/-- a configuration with one database and no entities -/
def plainConfig : RuntimeConfig where
  schema := none
  defaultDataSource := "default"
  dataSources := NameMap.empty.insert "default" { databaseType := .postgres, connectionString := "host" }
  runtime := {}
  entities := .empty

end World

end EntityGateway
