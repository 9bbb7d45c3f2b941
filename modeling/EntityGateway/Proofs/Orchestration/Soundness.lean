/-
What is true of a gateway at every moment, whatever is asked of it and in whatever order its jobs take turns.

`Sound` has four parts: only the job with the lock is in a phase that needs it, and the job with the lock is in such a
phase; the places of sets of metadata are places there are; an initialization that nobody waits for was begun by a job
that has come to its end; and no timer has been passed.

- `sound_of_idle`: a gateway to which nothing was submitted yet is sound;
- `sound_step`, `sound_run`: every step, and so every run, keeps it sound.
-/
import EntityGateway.Proofs.Orchestration.Moves

namespace EntityGateway

/-! ## What phases hold -/

namespace Phase

/-- whether a job has the lock in this phase -/
def isLocked : Phase → Bool
  | .validating _ | .constructing _ | .preparing .. | .relating .. | .committing .. => true
  | .calling .. | .awaiting .. | .generating .. | .documenting .. | .concluding .. => true
  | .rollingBack .. | .failing .. => true
  | _ => false

/-- the change that is being made -/
def run? : Phase → Option Run
  | .validating r | .constructing r | .preparing r _ _ | .relating r _ _ | .committing r _ _ => some r
  | .calling rw _ | .awaiting rw _ _ _ => some rw.run
  | .generating r _ | .documenting r _ _ | .concluding r _ _ | .rollingBack r _ | .failing r _ => some r
  | _ => none

/-- whether nothing but the end is left to a job in this phase -/
def isOver : Phase → Bool
  | .failing .. | .finished _ | .dropped => true
  | _ => false

/-- the places of the sets that a job in this phase waits for, or may yet put in use -/
def sets : Phase → List Nat
  | .validating r | .constructing r | .rollingBack r _ => [r.checkpoint.set]
  | .preparing r g _ => [r.checkpoint.set, g.set]
  | .relating r i _ | .committing r i _ => [r.checkpoint.set, i]
  | .calling rw _ | .awaiting rw _ _ _ => [rw.run.checkpoint.set]
  | .gathering g => [g.set]
  | _ => []

theorem run?_eq_none {p : Phase} (h : p.isLocked = false) : p.run? = none := by
  cases p <;> first | rfl | cases h

theorem exists_run {p : Phase} (h : p.isLocked = true) : ∃ r, p.run? = some r := by
  cases p <;> first | exact ⟨_, rfl⟩ | cases h

end Phase

/-- what is true of a gateway at every moment -/
structure World.Sound (w : World σ ι) : Prop where
  alone : ∀ j p, w.phase? j = some p → p.isLocked = true → w.running = some j
  locked : ∀ j, w.running = some j → ∃ p, w.phase? j = some p ∧ p.isLocked = true
  inUse : w.current < w.sets.length
  sets : ∀ j p, w.phase? j = some p → ∀ i ∈ p.sets, i < w.sets.length
  left : ∀ l ∈ w.leftovers, l.set < w.sets.length
  ended : ∀ l ∈ w.leftovers, ∃ p, w.phase? l.job = some p ∧ p.isOver = true
  timely : ∀ j p, w.phase? j = some p → ∀ t ∈ p.timers, w.now ≤ t

/-- nothing was submitted yet -/
structure World.Idle (w : World σ ι) : Prop where
  jobs : w.jobs = []
  running : w.running = none
  leftovers : w.leftovers = []
  inUse : w.current < w.sets.length

namespace World

theorem Sound.free_of_other {w : World σ ι} (h : w.Sound) {job k : Nat} {p : Phase} (hrun : w.running = some job)
    (hk : w.phase? k = some p) (hne : k ≠ job) : p.isLocked = false := by
  rw [Bool.eq_false_iff]
  intro hl
  exact hne (Option.some.inj ((h.alone k p hk hl).symm.trans hrun))

theorem Sound.free_of_none {w : World σ ι} (h : w.Sound) {k : Nat} {p : Phase} (hrun : w.running = none)
    (hk : w.phase? k = some p) : p.isLocked = false := by
  rw [Bool.eq_false_iff]
  intro hl
  rw [h.alone k p hk hl] at hrun
  cases hrun

theorem sound_of_idle {w : World σ ι} (h : w.Idle) : w.Sound := by
  have hnone : ∀ j, w.phase? j = none := by
    intro j
    simp [phase?, h.jobs]
  refine ⟨?_, ?_, h.inUse, ?_, ?_, ?_, ?_⟩
  · intro j p hp
    rw [hnone] at hp
    cases hp
  · intro j hj
    rw [h.running] at hj
    cases hj
  · intro j p hp
    rw [hnone] at hp
    cases hp
  · simp [h.leftovers]
  · simp [h.leftovers]
  · intro j p hp
    rw [hnone] at hp
    cases hp

/-! ## Phases after a step -/

theorem phase?_setPhase_cases {w u : World σ ι} {j k : Nat} {p q r : Phase} (hjobs : u.jobs = w.jobs)
    (hp : w.phase? j = some p) (hk : (u.setPhase j q).phase? k = some r) :
    (k = j ∧ r = q) ∨ (k ≠ j ∧ w.phase? k = some r) := by
  have hpu : u.phase? j = some p := by simpa [phase?, hjobs] using hp
  by_cases hkj : k = j
  · subst hkj
    rw [phase?_setPhase_self hpu] at hk
    exact Or.inl ⟨rfl, (Option.some.inj hk).symm⟩
  · rw [phase?_setPhase_of_ne u hkj] at hk
    exact Or.inr ⟨hkj, by simpa [phase?, hjobs] using hk⟩

theorem phase?_moved {w u : World σ ι} {j : Nat} {p : Phase} (hjobs : u.jobs = w.jobs) (hp : w.phase? j = some p)
    (q : Phase) : (u.setPhase j q).phase? j = some q :=
  phase?_setPhase_self (p := p) (by simpa [phase?, hjobs] using hp) q

theorem phase?_other {w u : World σ ι} {j k : Nat} (hjobs : u.jobs = w.jobs) (hk : k ≠ j) (q : Phase) :
    (u.setPhase j q).phase? k = w.phase? k := by
  rw [phase?_setPhase_of_ne u hk]
  simp [phase?, hjobs]

theorem mem_timers {w : World σ ι} {t : Nat} : t ∈ w.timers ↔ ∃ j p, w.phase? j = some p ∧ t ∈ p.timers := by
  simp only [timers, List.mem_flatMap]
  constructor
  · rintro ⟨p, hp, ht⟩
    obtain ⟨j, hj⟩ := List.mem_iff_getElem?.1 hp
    exact ⟨j, p, hj, ht⟩
  · rintro ⟨j, p, hp, ht⟩
    exact ⟨p, List.mem_of_getElem? hp, ht⟩

/-! ## Initializations end in the future -/

theorem le_endsAt_ofAnswer (name : String) (now : Nat) (limit : Duration) (a : Answer) :
    now ≤ (SourceTask.ofAnswer name now limit a).endsAt := by
  unfold SourceTask.ofAnswer
  split
  · split_ifs <;> exact Nat.le_add_right _ _
  · exact Nat.le_add_right _ _

theorem le_endsAt_launch (i : Introspectors ι) (limit : Duration) (now : Nat) (p : Provider) (memory : ι) :
    now ≤ (p.launch i limit now memory).2.1.endsAt := by
  unfold Provider.launch
  split
  · exact le_endsAt_ofAnswer _ _ _ _
  · exact le_rfl

theorem le_endsAt_launchEach (i : Introspectors ι) (limit : Duration) (now : Nat) (l : List Provider) (memory : ι) :
    ∀ t ∈ (ProviderSet.launchEach i limit now l memory).2.1, now ≤ t.endsAt := by
  induction l generalizing memory with
  | nil => simp [ProviderSet.launchEach]
  | cons p l ih =>
    intro t ht
    simp only [ProviderSet.launchEach, List.mem_cons] at ht
    rcases ht with rfl | ht
    · exact le_endsAt_launch i limit now p memory
    · exact ih _ t ht

/-- what a set has begun ends no earlier than it began -/
theorem le_endsAt_of_launch {i : Introspectors ι} {limit : Duration} {now : Nat} {s launched : ProviderSet}
    {memory asked : ι} {tasks : List SourceTask} (h : s.launch i limit now memory = (launched, tasks, asked)) :
    ∀ t ∈ tasks, now ≤ t.endsAt := by
  simp only [ProviderSet.launch] at h
  cases h
  exact le_endsAt_launchEach i limit now _ memory

/-! ## What a move keeps -/

/-- how the lock goes with a job from one phase to another: it is left alone, taken when free, kept, or given back -/
def LockMove (job : Nat) (w : World σ ι) (p q : Phase) (u : World σ ι) : Prop :=
  (p.isLocked = false ∧ q.isLocked = false ∧ u.running = w.running) ∨
  (p.isLocked = false ∧ q.isLocked = true ∧ w.running = none ∧ u.running = some job) ∨
  (p.isLocked = true ∧ q.isLocked = true ∧ u.running = w.running) ∨
  (p.isLocked = true ∧ q.isLocked = false ∧ u.running = none)

section Move

variable {setup : Setup σ ι} {job : Nat} {w u : World σ ι} {p q : Phase}

theorem move_jobs (h : Move setup job w p q u) : u.jobs = w.jobs := by
  cases h with
  | accept => split_ifs <;> rfl
  | call hcall => cases hcall; rfl
  | generate hcall => cases hcall; rfl
  | restore _ hu => subst hu; rfl
  | giveUp hu => subst hu; rfl
  | _ => rfl

theorem move_now (h : Move setup job w p q u) : u.now = w.now := by
  cases h with
  | accept => split_ifs <;> rfl
  | call hcall => cases hcall; rfl
  | generate hcall => cases hcall; rfl
  | restore _ hu => subst hu; rfl
  | giveUp hu => subst hu; rfl
  | _ => rfl

theorem move_lock (h : Move setup job w p q u) : LockMove job w p q u := by
  cases h with
  | install => split_ifs <;> exact Or.inl ⟨rfl, rfl, rfl⟩
  | accept => split_ifs <;> exact Or.inl ⟨rfl, rfl, rfl⟩
  | apply hrun => exact Or.inr (Or.inl ⟨rfl, rfl, hrun, rfl⟩)
  | edit hrun => exact Or.inr (Or.inl ⟨rfl, rfl, hrun, rfl⟩)
  | call hcall => cases hcall; exact Or.inr (Or.inr (Or.inl ⟨rfl, rfl, rfl⟩))
  | generate hcall => cases hcall; exact Or.inr (Or.inr (Or.inl ⟨rfl, rfl, rfl⟩))
  | restore _ hu => subst hu; exact Or.inr (Or.inr (Or.inl ⟨rfl, rfl, rfl⟩))
  | giveUp hu => subst hu; exact Or.inr (Or.inr (Or.inl ⟨rfl, rfl, rfl⟩))
  | succeed => exact Or.inr (Or.inr (Or.inr ⟨rfl, rfl, rfl⟩))
  | fail => exact Or.inr (Or.inr (Or.inr ⟨rfl, rfl, rfl⟩))
  | _ => first | exact Or.inl ⟨rfl, rfl, rfl⟩ | exact Or.inr (Or.inr (Or.inl ⟨rfl, rfl, rfl⟩))

/-- between two phases with the lock the change is the same -/
theorem move_run (h : Move setup job w p q u) (hp : p.isLocked = true) (hq : q.isLocked = true) : q.run? = p.run? := by
  cases h <;> first | rfl | contradiction

theorem move_length (h : Move setup job w p q u) : w.sets.length ≤ u.sets.length := by
  cases h with
  | accept => split_ifs <;> exact le_rfl
  | construct => simp [addSet]
  | call hcall => cases hcall; exact le_rfl
  | generate hcall => cases hcall; exact le_rfl
  | restore _ hu => subst hu; exact le_rfl
  | giveUp hu => subst hu; exact le_rfl
  | refresh => simp
  | _ => exact le_rfl

theorem move_holders (hm : Move setup job w p q u) : u.holders.length = w.holders.length := by
  cases hm with
  | install => simp [setHolder]
  | mark => simp [setHolder]
  | accept => split_ifs <;> simp [setHolder]
  | commit => simp [publish, setHolder, enter]
  | call hcall => cases hcall; rfl
  | generate hcall => cases hcall; rfl
  | restore _ hu => subst hu; simp [publish, setHolder]
  | giveUp hu => subst hu; simp [publish, setHolder]
  | _ => rfl

theorem move_sets (h : Move setup job w p q u) (hinUse : w.current < w.sets.length)
    (hp : ∀ i ∈ p.sets, i < w.sets.length) : u.current < u.sets.length ∧ ∀ i ∈ q.sets, i < u.sets.length := by
  cases h with
  | install => refine ⟨hinUse, ?_⟩; split_ifs <;> simp [Phase.sets]
  | accept => split_ifs <;> exact ⟨hinUse, by simp [Phase.sets]⟩
  | apply => exact ⟨hinUse, by simpa [Phase.sets, checkpoint, enter] using hinUse⟩
  | edit => exact ⟨hinUse, by simpa [Phase.sets, checkpoint, enter] using hinUse⟩
  | construct =>
    simp only [Phase.sets, List.mem_cons, List.not_mem_nil, or_false, forall_eq_or_imp, forall_eq, addSet,
      List.length_append, List.length_singleton] at hp ⊢
    omega
  | commit => 
    refine ⟨hp _ (by simp [Phase.sets, publish]), fun i hi => hp i ?_⟩
    simp only [Phase.sets, List.mem_cons, List.not_mem_nil, or_false] at hi ⊢
    exact Or.inl hi
  | call hcall => cases hcall; exact ⟨hinUse, hp⟩
  | generate hcall => cases hcall; exact ⟨hinUse, hp⟩
  | restore _ hu => subst hu; exact ⟨hp _ (by simp [Phase.sets, publish]), hp⟩
  | giveUp hu => subst hu; exact ⟨hp _ (by simp [Phase.sets, publish]), by simp [Phase.sets]⟩
  | refresh => simpa [Phase.sets] using hinUse
  | _ => first | exact ⟨hinUse, hp⟩ | exact ⟨hinUse, by simp [Phase.sets]⟩

/-- an initialization is left to itself only by a job that fails then -/
theorem move_leftovers (h : Move setup job w p q u) :
    u.leftovers = w.leftovers ∨ (u.leftovers = w.leftovers ++ p.leftovers job ∧ q.isOver = true) := by
  cases h with
  | accept => split_ifs <;> exact Or.inl rfl
  | unprepared => exact Or.inr ⟨rfl, rfl⟩
  | call hcall => cases hcall; exact Or.inl rfl
  | generate hcall => cases hcall; exact Or.inl rfl
  | restore _ hu => subst hu; exact Or.inl rfl
  | giveUp hu => subst hu; exact Or.inl rfl
  | _ => exact Or.inl rfl

theorem move_over (h : Move setup job w p q u) (hp : p.isOver = true) : q.isOver = true := by
  cases h <;> first | rfl | simp [Phase.isOver] at hp

/-- what a job waits for lies ahead -/
theorem move_timers (h : Move setup job w p q u) (hp : ∀ t ∈ p.timers, w.now ≤ t) : ∀ t ∈ q.timers, w.now ≤ t := by
  cases h with
  | install => split_ifs <;> simp [Phase.timers]
  | construct _ hlaunch =>
    intro t ht
    simp only [Phase.timers, List.mem_cons, List.mem_map, Gathering.waiting, List.mem_filter] at ht
    rcases ht with rfl | ⟨task, ⟨htask, -⟩, rfl⟩
    · exact Nat.le_add_right _ _
    · exact le_endsAt_of_launch hlaunch task htask
  | call hcall =>
    cases hcall
    intro t ht
    simp only [Phase.timers, List.mem_cons, Option.mem_toList, Option.map_eq_some_iff] at ht
    rcases ht with rfl | ⟨d, -, rfl⟩ <;> exact Nat.le_add_right _ _
  | generate hcall =>
    cases hcall
    intro t ht
    simp only [Phase.timers, List.mem_cons, Option.mem_toList, Option.map_eq_some_iff] at ht
    rcases ht with rfl | ⟨d, -, rfl⟩ <;> exact Nat.le_add_right _ _
  | refresh hlaunch =>
    intro t ht
    simp only [Phase.timers, List.mem_map, Gathering.waiting, List.mem_filter] at ht
    obtain ⟨task, ⟨htask, -⟩, rfl⟩ := ht
    exact le_endsAt_of_launch hlaunch task htask
  | _ => simp [Phase.timers]

end Move

/-! ## Soundness -/

theorem step_places {setup : Setup σ ι} {w u : World σ ι} {e : Event} (hs : Step setup w e u) :
    u.holders.length = w.holders.length ∧ w.sets.length ≤ u.sets.length := by
  cases hs with
  | advance hp hm =>
    have hholders := move_holders hm
    have hlength := move_length hm
    exact ⟨hholders, hlength⟩
  | settle => exact ⟨rfl, by simp [setPhase]⟩
  | resettle => exact ⟨rfl, by simp [setPhase]⟩
  | linger => exact ⟨rfl, by simp⟩
  | replace => exact ⟨by simp [setHolder], le_rfl⟩
  | _ => exact ⟨rfl, le_rfl⟩

theorem now_le_of_step {setup : Setup σ ι} {w u : World σ ι} {e : Event} (hs : Step setup w e u) : w.now ≤ u.now := by
  cases hs with
  | advance _ hm => exact (move_now hm).ge
  | tick hlt => exact hlt.le
  | _ => exact le_rfl

theorem mem_leftovers {job : Nat} {p : Phase} {l : Leftover} (h : l ∈ p.leftovers job) :
    l.job = job ∧ l.set ∈ p.sets := by
  cases p with
  | preparing r g deadline =>
    obtain ⟨t, -, rfl⟩ := List.mem_map.1 (show l ∈ g.leftovers job from h)
    exact ⟨rfl, by simp [Phase.sets]⟩
  | gathering g =>
    obtain ⟨t, -, rfl⟩ := List.mem_map.1 (show l ∈ g.leftovers job from h)
    exact ⟨rfl, by simp [Phase.sets]⟩
  | _ => simp [Phase.leftovers, Phase.gathering?] at h

/-- one job in another phase: what has to be seen to -/
theorem sound_setPhase {w u : World σ ι} {job : Nat} {p q : Phase} (h : w.Sound) (hp : w.phase? job = some p)
    (hjobs : u.jobs = w.jobs) (hnow : u.now = w.now) (hlock : LockMove job w p q u)
    (hlength : w.sets.length ≤ u.sets.length) (hinUse : u.current < u.sets.length)
    (hsets : ∀ i ∈ q.sets, i < u.sets.length)
    (hleft : ∀ l ∈ u.leftovers, l ∈ w.leftovers ∨ (l ∈ p.leftovers job ∧ q.isOver = true))
    (hover : p.isOver = true → q.isOver = true) (htimers : ∀ t ∈ q.timers, w.now ≤ t) :
    (u.setPhase job q).Sound := by
  refine ⟨?_, ?_, hinUse, ?_, ?_, ?_, ?_⟩
  · intro k r hk hr
    show u.running = some k
    rcases phase?_setPhase_cases hjobs hp hk with ⟨rfl, rfl⟩ | ⟨hne, hk⟩
    · rcases hlock with ⟨-, hq, -⟩ | ⟨-, -, -, hu⟩ | ⟨hpl, -, hu⟩ | ⟨-, hq, -⟩
      · rw [hq] at hr
        cases hr
      · exact hu
      · rw [hu]
        exact h.alone k p hp hpl
      · rw [hq] at hr
        cases hr
    · have hw : w.running = some k := h.alone k r hk hr
      rcases hlock with ⟨-, -, hu⟩ | ⟨-, -, hfree, -⟩ | ⟨hpl, -, -⟩ | ⟨hpl, -, -⟩
      · rw [hu]
        exact hw
      · rw [hfree] at hw
        cases hw
      · exact absurd (Option.some.inj (hw.symm.trans (h.alone job p hp hpl))) hne
      · exact absurd (Option.some.inj (hw.symm.trans (h.alone job p hp hpl))) hne
  · intro k hk
    change u.running = some k at hk
    rcases hlock with ⟨hpl, -, hu⟩ | ⟨-, hq, -, hu⟩ | ⟨hpl, hq, hu⟩ | ⟨-, -, hu⟩
    · obtain ⟨r, hr, hrl⟩ := h.locked k (hu ▸ hk)
      have hne : k ≠ job := by
        rintro rfl
        rw [hp] at hr
        cases hr
        rw [hpl] at hrl
        cases hrl
      exact ⟨r, by rw [phase?_other hjobs hne]; exact hr, hrl⟩
    · obtain rfl : job = k := Option.some.inj (hu.symm.trans hk)
      exact ⟨q, phase?_moved hjobs hp q, hq⟩
    · obtain rfl : job = k := Option.some.inj ((h.alone job p hp hpl).symm.trans (hu ▸ hk))
      exact ⟨q, phase?_moved hjobs hp q, hq⟩
    · rw [hu] at hk
      cases hk
  · intro k r hk i hi
    show i < u.sets.length
    rcases phase?_setPhase_cases hjobs hp hk with ⟨rfl, rfl⟩ | ⟨-, hk⟩
    · exact hsets i hi
    · exact lt_of_lt_of_le (h.sets k r hk i hi) hlength
  · intro l hl
    show l.set < u.sets.length
    rcases hleft l hl with hl | ⟨hl, -⟩
    · exact lt_of_lt_of_le (h.left l hl) hlength
    · exact lt_of_lt_of_le (h.sets job p hp _ (mem_leftovers hl).2) hlength
  · intro l hl
    rcases hleft l hl with hl | ⟨hl, hq⟩
    · obtain ⟨r, hr, hro⟩ := h.ended l hl
      by_cases hk : l.job = job
      · rw [hk] at hr ⊢
        rw [hp] at hr
        cases hr
        exact ⟨q, phase?_moved hjobs hp q, hover hro⟩
      · exact ⟨r, by rw [phase?_other hjobs hk]; exact hr, hro⟩
    · rw [(mem_leftovers hl).1]
      exact ⟨q, phase?_moved hjobs hp q, hq⟩
  · intro k r hk t ht
    show u.now ≤ t
    rw [hnow]
    rcases phase?_setPhase_cases hjobs hp hk with ⟨rfl, rfl⟩ | ⟨-, hk⟩
    · exact htimers t ht
    · exact h.timely k r hk t ht

theorem start_plain (t : Task) : t.start.isLocked = false ∧ t.start.sets = [] ∧ t.start.timers = [] := by
  cases t <;> exact ⟨rfl, rfl, rfl⟩

theorem sound_submit {w : World σ ι} (h : w.Sound) (t : Task) : (w.submit t).Sound := by
  obtain ⟨hlocked, hsets, htimers⟩ := start_plain t
  refine ⟨?_, ?_, h.inUse, ?_, h.left, ?_, ?_⟩
  · intro j p hj hp
    rcases phase?_submit_cases hj with hj | ⟨-, rfl⟩
    · exact h.alone j p hj hp
    · rw [hlocked] at hp
      cases hp
  · intro j hj
    obtain ⟨p, hp, hl⟩ := h.locked j hj
    exact ⟨p, by rw [phase?_submit_of_lt w t (lt_jobs_of_phase? hp)]; exact hp, hl⟩
  · intro j p hj i hi
    rcases phase?_submit_cases hj with hj | ⟨-, rfl⟩
    · exact h.sets j p hj i hi
    · rw [hsets] at hi
      cases hi
  · intro l hl
    obtain ⟨p, hp, ho⟩ := h.ended l hl
    exact ⟨p, by rw [phase?_submit_of_lt w t (lt_jobs_of_phase? hp)]; exact hp, ho⟩
  · intro j p hj i hi
    rcases phase?_submit_cases hj with hj | ⟨-, rfl⟩
    · exact h.timely j p hj i hi
    · rw [htimers] at hi
      cases hi

theorem mem_waiting_without {g : Gathering} {source : String} {t : SourceTask}
    (h : t ∈ (g.without source).waiting) : t ∈ g.waiting := by
  simp only [Gathering.waiting, Gathering.without, List.mem_filter, List.contains_iff_mem] at h ⊢
  exact ⟨h.1, h.2.1⟩

theorem sound_advance {w u : World σ ι} {job : Nat} {p q : Phase} (h : w.Sound) (hp : w.phase? job = some p)
    (hm : Move setup job w p q u) : (u.setPhase job q).Sound := by
  obtain ⟨hinUse, hsets⟩ := move_sets hm h.inUse (h.sets job p hp)
  refine sound_setPhase h hp (move_jobs hm) (move_now hm) (move_lock hm) (move_length hm) hinUse hsets ?_ (move_over hm)
    (move_timers hm (h.timely job p hp))
  intro l hl
  rcases move_leftovers hm with hu | ⟨hu, hq⟩
  · exact Or.inl (hu ▸ hl)
  · rw [hu] at hl
    exact (List.mem_append.1 hl).imp_right fun hl => ⟨hl, hq⟩

/-- **Every step keeps a gateway sound** -/
theorem sound_step {w u : World σ ι} {e : Event} (h : w.Sound) (hs : Step setup w e u) : u.Sound := by
  cases hs with
  | submit => exact sound_submit h _
  | advance hp hm => exact sound_advance h hp hm
  | settle hp hdue =>
    have hlock := h.alone _ _ hp rfl
    refine sound_setPhase h hp rfl rfl (Or.inr (Or.inr (Or.inl ⟨rfl, rfl, rfl⟩))) (by simp) (by simpa using h.inUse) ?_
      (fun l hl => Or.inl hl) id ?_
    · intro i hi
      simpa using h.sets _ _ hp i hi
    · intro t ht
      refine h.timely _ _ hp t ?_
      simp only [Phase.timers, List.mem_cons, List.mem_map] at ht ⊢
      obtain rfl | ⟨task, htask, he⟩ := ht
      · exact Or.inl rfl
      · exact Or.inr ⟨task, mem_waiting_without htask, he⟩
  | resettle hp hdue =>
    refine sound_setPhase h hp rfl rfl (Or.inl ⟨rfl, rfl, rfl⟩) (by simp) (by simpa using h.inUse) ?_
      (fun l hl => Or.inl hl) id ?_
    · intro i hi
      simpa using h.sets _ _ hp i hi
    · intro t ht
      refine h.timely _ _ hp t ?_
      simp only [Phase.timers, List.mem_map] at ht ⊢
      obtain ⟨task, htask, he⟩ := ht
      exact ⟨task, mem_waiting_without htask, he⟩
  | linger hl hdue =>
    refine ⟨h.alone, h.locked, by simpa using h.inUse, ?_, ?_, ?_, h.timely⟩
    · intro j p hj i hi
      simpa using h.sets j p hj i hi
    · intro l hl
      simpa using h.left l (List.mem_of_mem_eraseIdx hl)
    · intro l hl
      exact h.ended l (List.mem_of_mem_eraseIdx hl)
  | tick hlt htimers =>
    refine ⟨h.alone, h.locked, h.inUse, h.sets, h.left, h.ended, ?_⟩
    intro j p hj t ht
    exact htimers t (mem_timers.2 ⟨j, p, hj, ht⟩)
  | drop hp hcan =>
    rename_i job p
    refine sound_setPhase (u := { w with
      leftovers := w.leftovers ++ p.leftovers job, running := if w.running = some job then none else w.running })
      h hp rfl rfl ?_ le_rfl h.inUse (by simp [Phase.sets]) ?_ (fun _ => rfl) (by simp [Phase.timers])
    · cases hpl : p.isLocked
      · refine Or.inl ⟨hpl, rfl, if_neg fun hrun => ?_⟩
        obtain ⟨r, hr, hrl⟩ := h.locked job hrun
        rw [hp] at hr
        cases hr
        rw [hpl] at hrl
        cases hrl
      · exact Or.inr (Or.inr (Or.inr ⟨hpl, rfl, if_pos (h.alone job p hp hpl)⟩))
    · intro l hl
      exact (List.mem_append.1 hl).imp_right fun hl => ⟨hl, rfl⟩
  | replace => exact ⟨h.alone, h.locked, h.inUse, h.sets, h.left, h.ended, h.timely⟩

/-- **Every run keeps a gateway sound** -/
theorem sound_run {w : World σ ι} (h : w.Sound) (events : List Event) : (w.run setup events).Sound :=
  invariant_run (fun _ _ _ => sound_step) h events

end World

end EntityGateway
