/-
Failures before anything is put in force.

A change that fails before its commit has touched nothing that others see: no service was called, and holders, the set
in use with everything in it, and what is known of earlier changes are as they were. This holds step by step among any
other jobs, and it goes on to hold for the initializations that the change leaves behind.

- `move_untouched`, `untouched_step`: what a change does before its commit touches nothing;
- `keeps_step`: the set that a change builds is nobody else's, before and after it fails;
- `early_failure_touches_nothing`: the whole of it, for a change that failed.
-/
import EntityGateway.Proofs.Orchestration.Reservation

namespace EntityGateway

/-! ## Before and after the commit -/

/-- whether services are called because something was put in force -/
def Purpose.isLate : Purpose → Bool
  | .serve _ => true
  | .restore e => e.stage? == some .rewiringDependents

namespace Phase

/-- whether a change in this phase has put nothing in force -/
def isEarly : Phase → Bool
  | .locking _ | .validating _ | .constructing _ | .preparing .. | .relating .. | .committing .. => true
  | .failing _ e | .finished (.changed (.error e)) => e.stage? != some .rewiringDependents
  | _ => false

/-- whether a change in this phase has put something in force, or was given up -/
def isLate : Phase → Bool
  | .calling rw _ | .awaiting rw _ _ _ => rw.purpose.isLate
  | .generating .. | .documenting .. | .concluding .. | .finished (.changed (.ok _)) | .dropped => true
  | .rollingBack _ e | .failing _ e | .finished (.changed (.error e)) => e.stage? == some .rewiringDependents
  | _ => false

theorem isLate_withGathering {p : Phase} (h : p.isLate = true) (g : Gathering) : (p.withGathering g).isLate = true := by
  cases p <;> exact h

theorem isEarly_withGathering {p : Phase} (h : p.isEarly = true) (g : Gathering) :
    (p.withGathering g).isEarly = true := by
  cases p <;> exact h

end Phase

namespace World

/-- a call that fails makes the change fail at one stage -/
theorem callFailure_stage {setup : Setup σ ι} {wire : Wire} {reply : Option (Except GatewayError Unit)}
    {e : ChangeError} (h : callFailure setup wire reply = some e) : e.stage? = some .rewiringDependents := by
  unfold callFailure at h
  split at h <;> cases h <;> rfl

section Stages

variable {setup : Setup σ ι} {job : Nat} {w u : World σ ι} {p q : Phase} {e : Event}

/-- after the commit there is no way back to before it -/
theorem move_late (hm : Move setup job w p q u) (hp : p.isLate = true) : q.isLate = true := by
  cases hm with
  | refused hreply hbad hpurpose => simp [Phase.isLate, callFailure_stage hbad]
  | lost hreply hbad hpurpose => simpa [Phase.isLate, Purpose.isLate, hpurpose] using hp
  | restored hpurpose => simpa [Phase.isLate, Purpose.isLate, hpurpose] using hp
  | _ => first | exact hp | rfl | cases hp

/-- a change that has put nothing in force still has not, or it has just done so -/
theorem move_early (hm : Move setup job w p q u) (hp : p.isEarly = true) :
    (q.isEarly = true ∧ ∀ t, q ≠ .locking t) ∨ q.isLate = true := by
  cases hm with
  | commit => exact Or.inr rfl
  | fail => exact Or.inl ⟨hp, by simp⟩
  | mark => cases hp
  | accept => cases hp
  | _ => first | exact Or.inl ⟨rfl, by simp⟩ | cases hp

theorem turn_early (hturn : Turn setup job w p e u q) (hp : p.isEarly = true) :
    (q.isEarly = true ∧ ∀ t, q = .locking t → p = .locking t) ∨ q.isLate = true := by
  cases hturn with
  | moves hm => exact (move_early hm hp).imp_left fun ⟨h, hne⟩ => ⟨h, fun t ht => absurd ht (hne t)⟩
  | settles hg =>
    refine Or.inl ⟨Phase.isEarly_withGathering hp _, fun t ht => ?_⟩
    cases p <;> cases hg <;> cases ht
  | drops => exact Or.inr rfl
  | rests => exact Or.inl ⟨hp, fun t ht => ht⟩

theorem late_step (hs : Step setup w e u) (h : ∃ p, w.phase? job = some p ∧ p.isLate = true) :
    ∃ p, u.phase? job = some p ∧ p.isLate = true := by
  obtain ⟨p, hp, hlate⟩ := h
  obtain ⟨q, hq, hturn⟩ := turn_of_step hs hp
  refine ⟨q, hq, ?_⟩
  cases hturn with
  | moves hm => exact move_late hm hlate
  | settles => exact Phase.isLate_withGathering hlate _
  | drops => rfl
  | rests => exact hlate

variable (setup) in
theorem late_run (h : ∃ p, w.phase? job = some p ∧ p.isLate = true) (l : List Event) :
    ∃ p, (w.run setup l).phase? job = some p ∧ p.isLate = true :=
  invariant_run (P := fun w => ∃ p, w.phase? job = some p ∧ p.isLate = true) (fun _ _ _ h hs => late_step hs h) h l

end Stages

/-! ## What is not touched -/

/-- what others see of a gateway is as it was: holders, the set in use, earlier changes, services -/
structure Untouched (w u : World σ ι) : Prop where
  holders : u.holders = w.holders
  bound : u.bound = w.bound
  current : u.current = w.current
  currentSet : u.currentSet = w.currentSet
  ready : u.ready = w.ready
  lastReport : u.lastReport = w.lastReport
  services : u.services = w.services

theorem Untouched.refl (w : World σ ι) : Untouched w w := ⟨rfl, rfl, rfl, rfl, rfl, rfl, rfl⟩

theorem Untouched.trans {w v u : World σ ι} (h₁ : Untouched w v) (h₂ : Untouched v u) : Untouched w u :=
  ⟨h₂.holders.trans h₁.holders, h₂.bound.trans h₁.bound, h₂.current.trans h₁.current, h₂.currentSet.trans h₁.currentSet,
    h₂.ready.trans h₁.ready, h₂.lastReport.trans h₁.lastReport, h₂.services.trans h₁.services⟩

/-- only the commit touches anything -/
theorem move_untouched {setup : Setup σ ι} {job : Nat} {w u : World σ ι} {p q : Phase}
    (hinUse : w.current < w.sets.length) (hm : Move setup job w p q u) (hp : p.isEarly = true)
    (hq : q.isEarly = true) : Untouched w u := by
  cases hm with
  | construct => exact ⟨rfl, rfl, rfl, set_addSet_of_lt w _ hinUse, rfl, rfl, rfl⟩
  | _ =>
    first
    | exact ⟨rfl, rfl, rfl, rfl, rfl, rfl, rfl⟩
    | exact Bool.noConfusion (show false = true from hp)
    | exact Bool.noConfusion (show false = true from hq)

theorem untouched_of_set {w : World σ ι} {place : Nat} (h : place ≠ w.current) (s : ProviderSet) (l : List Leftover) :
    Untouched w { w with sets := w.sets.set place s, leftovers := l } := by
  refine ⟨rfl, rfl, rfl, ?_, rfl, rfl, rfl⟩
  simp only [currentSet, World.set]
  rw [List.getElem?_set_ne h]

/-! ## A change before its commit -/

/-- the sets that a job waits for, or has left to themselves, are reserved for it -/
structure Keeps (w : World σ ι) (job : Nat) (p : Phase) : Prop where
  waits : ∀ g, p.gathering? = some g → w.Reserved job g.set
  left : ∀ l ∈ w.leftovers, l.job = job → w.Reserved job l.set

section Early

variable {setup : Setup σ ι} {job : Nat} {w u : World σ ι} {p q : Phase} {e : Event}

/-- the metadata that a change waits for are those it waited for, or new ones -/
theorem move_gathering (hm : Move setup job w p q u) (hp : p.isEarly = true) {g : Gathering}
    (hg : q.gathering? = some g) : g.set = w.sets.length ∧ w.sets.length < u.sets.length := by
  cases hm with
  | construct =>
    cases hg
    exact ⟨rfl, by simp [addSet]⟩
  | install => cases hp
  | refresh => cases hp
  | _ => cases hg

theorem keeps_step (h : w.Sound) (hp : w.phase? job = some p) (hkeeps : w.Keeps job p) (hs : Step setup w e u)
    (hq : u.phase? job = some q) (hearly : p.isEarly = true) (hearly' : q.isEarly = true) : u.Keeps job q := by
  obtain ⟨q', hq', hturn⟩ := turn_of_step hs hp
  obtain rfl : q' = q := Option.some.inj (hq'.symm.trans hq)
  have hcurrent : e.mover? = some job → u.current = w.current := by
    intro hmover
    cases hturn with
    | moves hm => exact (move_untouched h.inUse hm hearly hearly').current
    | settles => rfl
    | drops => rfl
    | rests _ hother => exact absurd hmover hother
  have hstays : ∀ {place}, w.Reserved job place → u.Reserved job place := fun h => reserved_step h hs hcurrent
  constructor
  · intro g hg
    cases hturn with
    | moves hm =>
      obtain ⟨hset, hlength⟩ := move_gathering hm hearly hg
      rw [hset]
      refine ⟨hlength, ?_, fun k r hk hne => ?_⟩
      · rw [hcurrent rfl]
        exact Nat.ne_of_gt h.inUse
      · rcases phase?_setPhase_cases (move_jobs hm) hp hk with ⟨rfl, -⟩ | ⟨-, hk⟩
        · exact absurd rfl hne
        · exact fun hmem => Nat.lt_irrefl _ (h.sets k r hk _ hmem)
    | settles hg' =>
      have hwaits := hstays (hkeeps.waits _ hg')
      cases p <;> cases hg' <;> cases hg <;> exact hwaits
    | drops => cases hg
    | rests => exact hstays (hkeeps.waits g hg)
  · intro l hl hjob
    refine hstays ?_
    rcases leftovers_step hs hl with hl | ⟨-, p', g, hp', hg, hset⟩
    · exact hkeeps.left l hl hjob
    · rw [hjob, hp] at hp'
      cases hp'
      rw [← hset]
      exact hkeeps.waits g hg

/-- the job that an event is about, also when the job has left something to itself -/
def owner? (w : World σ ι) : Event → Option Nat
  | .linger place => w.leftovers[place]?.map (·.job)
  | e => e.mover?

/-- **What a change does before its commit touches nothing**, nor does what it has left to itself -/
theorem untouched_step (h : w.Sound) (hp : w.phase? job = some p) (hkeeps : w.Keeps job p) (hs : Step setup w e u)
    (hown : w.owner? e = some job) (hq : u.phase? job = some q) (hearly : p.isEarly = true)
    (hearly' : q.isEarly = true) : Untouched w u := by
  obtain ⟨q', hq', hturn⟩ := turn_of_step hs hp
  obtain rfl : q' = q := Option.some.inj (hq'.symm.trans hq)
  cases hturn with
  | moves hm =>
    obtain ⟨h₁, h₂, h₃, h₄, h₅, h₆, h₇⟩ := move_untouched h.inUse hm hearly hearly'
    exact ⟨h₁, h₂, h₃, h₄, h₅, h₆, h₇⟩
  | settles hg =>
    obtain ⟨h₁, h₂, h₃, h₄, h₅, h₆, h₇⟩ := untouched_of_set (hkeeps.waits _ hg).unused _ w.leftovers
    exact ⟨h₁, h₂, h₃, h₄, h₅, h₆, h₇⟩
  | drops => cases hearly'
  | rests _ hother =>
    cases hs with
    | linger hl =>
      obtain ⟨l', hl', hjob⟩ := Option.map_eq_some_iff.1 hown
      rw [hl] at hl'
      cases hl'
      exact untouched_of_set (hkeeps.left _ (List.mem_of_getElem? hl) hjob).unused _ _
    | _ => exact absurd hown hother

/-- a change calls no service before its commit -/
theorem callsBy_early (hp : w.phase? job = some p) (hearly : p.isEarly = true) (e : Event) :
    w.callsBy setup job [e] = [] := by
  refine callsBy_of_quiet hp ?_ e
  cases p <;> first | rfl | cases hearly

end Early

/-! ## A change that fails before its commit -/

/-- where a change is that asked for the lock: past its commit, or before it with nothing touched -/
structure Waiting (setup : Setup σ ι) (w : World σ ι) (job : Nat) (t : Trigger) (l : List Event) (p : Phase) :
    Prop where
  early : p.isEarly = true
  keeps : (w.run setup l).Keeps job p
  silent : w.callsBy setup job l = []
  same : ∀ t', p = .locking t' → t' = t

section Failure

variable {setup : Setup σ ι} {job : Nat} {w : World σ ι} {t : Trigger}

theorem waiting_start (hw : w.Sound) (hp : w.phase? job = some (.locking t)) :
    Waiting setup w job t [] (.locking t) := by
  refine ⟨rfl, ⟨fun g hg => (by cases hg), fun l hl hjob => ?_⟩, rfl, fun t' ht => by cases ht; rfl⟩
  obtain ⟨p, hp', hover⟩ := hw.ended l hl
  rw [hjob, hp] at hp'
  cases hp'
  cases hover

variable (setup) in
/-- **A change is past its commit, or has touched nothing** -/
theorem early_run (hw : w.Sound) (hp : w.phase? job = some (.locking t)) (l : List Event) :
    ∃ p, (w.run setup l).phase? job = some p ∧ (p.isLate = true ∨ Waiting setup w job t l p) := by
  induction l using List.reverseRecOn with
  | nil => exact ⟨_, hp, Or.inr (waiting_start hw hp)⟩
  | append_singleton l e ih =>
    obtain ⟨p, hp, hcase⟩ := ih
    rcases hcase with hlate | hwaiting
    · obtain ⟨q, hq, hlate'⟩ := late_run setup ⟨p, hp, hlate⟩ [e]
      exact ⟨q, by rw [run_append]; exact hq, Or.inl hlate'⟩
    · have hsilent : w.callsBy setup job (l ++ [e]) = [] := by
        rw [callsBy_append, hwaiting.silent, callsBy_early hp hwaiting.early, List.append_nil]
      rw [run_snoc]
      rcases step_eq_or setup (w.run setup l) e with hstep | hstep
      · rw [hstep]
        refine ⟨p, hp, Or.inr ⟨hwaiting.early, ?_, hsilent, hwaiting.same⟩⟩
        rw [run_snoc, hstep]
        exact hwaiting.keeps
      · obtain ⟨q, hq, hturn⟩ := turn_of_step hstep hp
        rcases turn_early hturn hwaiting.early with ⟨hearly, hsame⟩ | hlate
        · refine ⟨q, hq, Or.inr ⟨hearly, ?_, hsilent, fun t' ht => hwaiting.same t' (hsame t' ht)⟩⟩
          rw [run_snoc]
          exact keeps_step (sound_run hw l) hp hwaiting.keeps hstep hq hwaiting.early hearly
        · exact ⟨q, hq, Or.inl hlate⟩

/-- a change that fails before its commit was not past it at any moment -/
theorem waiting_before {l before after : List Event} {e : ChangeError} (hw : w.Sound)
    (hp : w.phase? job = some (.locking t)) (hend : (w.run setup l).result? job = some (.changed (.error e)))
    (hstage : e.stage? ≠ some .rewiringDependents) (hl : l = before ++ after) :
    ∃ p, (w.run setup before).phase? job = some p ∧ Waiting setup w job t before p := by
  obtain ⟨p, hp', hcase⟩ := early_run setup hw hp before
  rcases hcase with hlate | hwaiting
  · -- past its commit, it would be so at its end
    obtain ⟨q, hq, hlate'⟩ := late_run setup ⟨p, hp', hlate⟩ after
    rw [← run_append, ← hl, result?_eq_some.1 hend] at hq
    cases hq
    simp [Phase.isLate, hstage] at hlate'
  · exact ⟨p, hp', hwaiting⟩

theorem untouched_tick (w : World σ ι) (time : Nat) : Untouched w (w.step setup (.tick time)) := by
  rcases step_eq_or setup w (.tick time) with hstep | hstep
  · rw [hstep]
    exact .refl w
  · generalize w.step setup (.tick time) = u at hstep
    cases hstep
    exact ⟨rfl, rfl, rfl, rfl, rfl, rfl, rfl⟩

theorem untouched_run {l : List Event}
    (h : ∀ before e after, l = before ++ e :: after →
      Untouched (w.run setup before) ((w.run setup before).step setup e)) : Untouched w (w.run setup l) := by
  induction l using List.reverseRecOn with
  | nil => exact .refl w
  | append_singleton l e ih =>
    rw [run_snoc]
    refine (ih fun before e' after hl => ?_).trans (h l e [] rfl)
    exact h before e' (after ++ [e]) (by rw [hl, List.append_assoc, List.cons_append])

variable (setup) in
/-- **A failure before the commit touches nothing.** The change calls no service. No step of its own, and no
initialization that it leaves behind, changes what others see, whatever they do between its steps; so if nothing but it
goes on, everything is as it was at the end. Its last step changes the stage, or not even that if it was refused. -/
theorem early_failure_touches_nothing (hw : w.Sound) (hp : w.phase? job = some (.locking t)) {l : List Event}
    {e : ChangeError} (hend : (w.run setup l).result? job = some (.changed (.error e)))
    (hstage : e.stage? ≠ some .rewiringDependents) :
    w.callsBy setup job l = [] ∧
    (∀ before ev after, l = before ++ ev :: after → (w.run setup before).owner? ev = some job →
      Untouched (w.run setup before) ((w.run setup before).step setup ev)) ∧
    ((∀ before ev after, l = before ++ ev :: after →
        (w.run setup before).owner? ev = some job ∨ ∃ time, ev = .tick time) → Untouched w (w.run setup l)) ∧
    ∃ before after, l = before ++ .advance job :: after ∧ (w.run setup before).result? job = none ∧
      (let v := w.run setup before
       let u := v.step setup (.advance job)
       (v.phase? job = some (.locking t) ∧ v.refusal? t = some e ∧
          u = v.setPhase job (.finished (.changed (.error e)))) ∨
       (∃ r, v.phase? job = some (.failing r e) ∧
          u = (v.enter .failed).unlock.setPhase job (.finished (.changed (.error e))))) := by
  have hsteps : ∀ before ev after, l = before ++ ev :: after → (w.run setup before).owner? ev = some job →
      Untouched (w.run setup before) ((w.run setup before).step setup ev) := by
    intro before ev after hl hown
    rcases step_eq_or setup (w.run setup before) ev with hstep | hstep
    · rw [hstep]
      exact .refl _
    · obtain ⟨p, hp', hwaiting⟩ := waiting_before hw hp hend hstage hl
      have hl' : l = (before ++ [ev]) ++ after := by rw [hl, List.append_assoc, List.singleton_append]
      obtain ⟨q, hq, hwaiting'⟩ := waiting_before hw hp hend hstage hl'
      rw [run_snoc] at hq
      exact untouched_step (sound_run hw before) hp' hwaiting.keeps hstep hown hq hwaiting.early hwaiting'.early
  obtain ⟨p, hp', hwaiting⟩ := waiting_before hw hp hend hstage (List.append_nil l).symm
  refine ⟨hwaiting.silent, hsteps, ?_, ?_⟩
  · refine fun halone => untouched_run fun before ev after hl => ?_
    rcases halone before ev after hl with hown | ⟨time, rfl⟩
    · exact hsteps before ev after hl hown
    · exact untouched_tick _ time
  · have hnone : w.result? job = none := by
      unfold result?
      rw [hp]
      rfl
    obtain ⟨before, after, hl, hopen, hdone⟩ := exists_end setup l ⟨_, hp⟩ hnone hend
    refine ⟨before, after, hl, hopen, ?_⟩
    obtain ⟨p, hp', hwaiting⟩ := waiting_before hw hp hend hstage hl
    rw [run_snoc] at hdone
    intro v u
    rcases failed_step hp' hopen hdone with ⟨⟨t', rfl, hrefusal⟩, hu⟩ | ⟨⟨r, rfl⟩, hu⟩
    · obtain rfl := hwaiting.same t' rfl
      exact Or.inl ⟨hp', hrefusal, hu⟩
    · exact Or.inr ⟨r, hp', hu⟩

end Failure

/-! ## A database that is too slow -/

/-- a setup whose databases answer after the time of a stage, but within the time of an initialization -/
def slowSetup : Setup Unit Unit where
  dependents := { name := fun _ => "", documents := false, call := fun _ s => ({}, s) }
  introspectors := { serves := fun _ => true, ask := fun _ _ _ memory => (⟨some ⟨2⟩, .found []⟩, memory) }
  environment := fun _ => none
  stageTimeout := ⟨1⟩
  introspectionTimeout := ⟨5⟩

def emptyGateway : World Unit Unit := { holders := [{}], services := (), memory := () }

/-- the change fails when its time is up, and the database answers after that -/
def slowEvents : List Event :=
  [.advance 0, .advance 0, .advance 0, .tick 1, .advance 0, .advance 0, .tick 2]

theorem slow_database_touches_nothing :
    (emptyGateway.submit (.change (.apply 0 ⟨0, plainConfig⟩))).callsBy slowSetup 0 (slowEvents ++ [.linger 0]) = [] ∧
    Untouched ((emptyGateway.submit (.change (.apply 0 ⟨0, plainConfig⟩))).run slowSetup slowEvents)
      (((emptyGateway.submit (.change (.apply 0 ⟨0, plainConfig⟩))).run slowSetup slowEvents).step slowSetup
        (.linger 0)) := by
  have hidle : emptyGateway.Idle := ⟨rfl, rfl, rfl, by decide⟩
  have hfailed : ((emptyGateway.submit (.change (.apply 0 ⟨0, plainConfig⟩))).run slowSetup
      (slowEvents ++ [.linger 0])).result? 0 = some (.changed (.error (.timeout .rebuildingMetadata ⟨1⟩))) := rfl
  obtain ⟨hcalls, hsteps, -, -⟩ := early_failure_touches_nothing slowSetup
    (sound_submit (sound_of_idle hidle) (.change (.apply 0 ⟨0, plainConfig⟩))) rfl hfailed (by decide)
  exact ⟨hcalls, hsteps slowEvents (.linger 0) [] rfl rfl⟩

end World

end EntityGateway
