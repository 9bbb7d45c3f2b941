/-
First configurations that compete for an empty holder.

Any number of calls may want to be the first. Each looks whether the holder is empty, reads its configuration, and looks
again when it puts the configuration in; between these moves all others go on as they like. The second look and the
installation are one move, so one call wins at most. All others leave the holder as they find it, however they fail.

- `attempt_of_move`: a move of a call changes nothing, or it is the one that wins;
- `Contest`: what is known while the calls compete, with `contest_step` and `contest_run`;
- `first_configuration_wins`: at most one call installs its snapshot, and that one is held from then on.
-/
import EntityGateway.Proofs.Config.Request
import EntityGateway.Proofs.Orchestration.Rollback

namespace EntityGateway

/-! ## Calls -/

/-- the request of a call that comes in -/
def Event.request? : Event → Option FirstConfig
  | .submit (.configure _ request _) => some request
  | _ => none

/-- an event while first configurations compete for a holder: calls come in and go on, and nothing else is put into the
holder -/
def Event.Contends (i : Nat) : Event → Prop
  | .submit (.configure k _ applies) => k = i ∧ applies = false
  | .submit _ => False
  | .replace k _ => k ≠ i
  | _ => True

/-- how far a call is with its request -/
inductive FirstConfig.At (env : Environment) (i : Nat) (r : FirstConfig) : Phase → Prop
  | looking : At env i r (.checking i r false)
  | reading : At env i r (.reading i r false)
  | ready (hc : r.config env = .ok c) : At env i r (.installing i c false)
  | installed (hc : r.config env = .ok s.config) : At env i r (.finished (.installed s))
  | late : At env i r (.finished (.refused .alreadyConfigured))
  | unreadable (he : r.config env = .error e) : At env i r (.finished (.refused (.config e)))
  | dropped : At env i r .dropped

/-- the moves that a call still has to make at most -/
def Phase.movesLeft : Phase → Nat
  | .checking .. => 3
  | .reading .. => 2
  | .installing .. => 1
  | _ => 0

namespace World

/-- what a move of a call does: it changes nothing but how far the call is, or it is the move that wins -/
inductive Attempt (env : Environment) (i : Nat) (r : FirstConfig) (w : World σ ι) : Phase → World σ ι → Prop
  | goesOn (hq : r.At env i q) (hopen : ∀ s, q ≠ .finished (.installed s))
      (hlate : q = .finished (.refused .alreadyConfigured) → (w.holder i).held.isSome) : Attempt env i r w q w
  | wins (hempty : (w.holder i).held = none) (hc : r.config env = .ok c) :
      Attempt env i r w (.finished (.installed ⟨w.fresh, c⟩))
        { w.setHolder i ((w.holder i).replace (some ⟨w.fresh, c⟩)) with fresh := w.fresh + 1 }

/-- what is known while the calls with some requests compete for a holder that was as in `start` -/
structure Contest (env : Environment) (i : Nat) (start : ConfigHolder) (requests : List FirstConfig) (w : World σ ι) :
    Prop where
  place : i < w.holders.length
  count : w.jobs.length = requests.length
  calls : ∀ j p, w.phase? j = some p → ∃ r, requests[j]? = some r ∧ r.At env i p
  /-- nobody has won yet, or one call has -/
  held : (w.holder i = start ∧ ∀ j s, w.phase? j ≠ some (.finished (.installed s))) ∨
    ∃ j s, w.holder i = start.replace (some s) ∧ w.phase? j = some (.finished (.installed s)) ∧
      ∀ k t, w.phase? k = some (.finished (.installed t)) → k = j
  late : ∀ j, w.phase? j = some (.finished (.refused .alreadyConfigured)) → (w.holder i).held.isSome

section Contest

variable {setup : Setup σ ι} {i job : Nat} {r : FirstConfig} {w u : World σ ι} {p q : Phase} {e : Event}
  {start : ConfigHolder} {requests : List FirstConfig}

theorem attempt_of_move (h : r.At setup.environment i p) (hm : Move setup job w p q u) :
    Attempt setup.environment i r w q u := by
  cases h with
  | looking =>
    cases hm with
    | occupied hheld => exact .goesOn .late (by simp) fun _ => hheld
    | vacant => exact .goesOn .reading (by simp) (by simp)
  | reading =>
    cases hm with
    | unreadable hread => exact .goesOn (.unreadable hread) (by simp) (by simp)
    | readable hread => exact .goesOn (.ready hread) (by simp) (by simp)
  | ready hc =>
    cases hm with
    | overtaken hheld => exact .goesOn .late (by simp) fun _ => hheld
    | install hempty => exact .wins hempty hc
  | installed => cases hm
  | late => cases hm
  | unreadable => cases hm
  | dropped => cases hm

theorem open_of_move (hm : Move setup job w p q u) : p.isEnded = false := by
  cases hm <;> rfl

/-- nothing is known of anything but the calls and the holder -/
theorem Contest.kept {env : Environment} (h : Contest env i start requests w) (hjobs : u.jobs = w.jobs)
    (hplaces : u.holders.length = w.holders.length) (hholder : u.holder i = w.holder i) :
    Contest env i start requests u := by
  have hphase : ∀ j, u.phase? j = w.phase? j := fun j => by simp [phase?, hjobs]
  exact {
    place := hplaces ▸ h.place
    count := (congrArg List.length hjobs).trans h.count
    calls := fun j p hp => h.calls j p (hphase j ▸ hp)
    held := by simpa only [hphase, hholder] using h.held
    late := fun j hj => by
      rw [hholder]
      exact h.late j (hphase j ▸ hj) }

theorem Contest.goesOn {env : Environment} (h : Contest env i start requests w) (hp : w.phase? job = some p)
    (hopen : p.isEnded = false) (hr : requests[job]? = some r) (hq : r.At env i q)
    (hloses : ∀ s, q ≠ .finished (.installed s))
    (hlate : q = .finished (.refused .alreadyConfigured) → (w.holder i).held.isSome) :
    Contest env i start requests (w.setPhase job q) where
  place := h.place
  count := (List.length_set ..).trans h.count
  calls := by
    intro k p' hk
    rcases phase?_setPhase_cases rfl hp hk with ⟨rfl, rfl⟩ | ⟨-, hk⟩
    · exact ⟨r, hr, hq⟩
    · exact h.calls k p' hk
  held := by
    rcases h.held with ⟨hstart, hnone⟩ | ⟨j, s, hheld, hj, hunique⟩
    · refine Or.inl ⟨hstart, fun k t hk => ?_⟩
      rcases phase?_setPhase_cases rfl hp hk with ⟨-, ht⟩ | ⟨-, hk⟩
      · exact hloses t ht.symm
      · exact hnone k t hk
    · have hne : j ≠ job := by
        rintro rfl
        cases hp.symm.trans hj
        cases hopen
      refine Or.inr ⟨j, s, hheld, (phase?_setPhase_of_ne w hne q).trans hj, fun k t hk => ?_⟩
      rcases phase?_setPhase_cases rfl hp hk with ⟨-, ht⟩ | ⟨-, hk⟩
      · exact absurd ht.symm (hloses t)
      · exact hunique k t hk
  late := by
    intro k hk
    rcases phase?_setPhase_cases rfl hp hk with ⟨-, hq'⟩ | ⟨-, hk⟩
    · exact hlate hq'.symm
    · exact h.late k hk

/-- the call that wins: nobody had won before, and what it installed is held -/
theorem Contest.wins {env : Environment} {c : RuntimeConfig} (h : Contest env i start requests w)
    (hp : w.phase? job = some p) (hr : requests[job]? = some r) (hempty : (w.holder i).held = none)
    (hc : r.config env = .ok c) :
    Contest env i start requests
      ({ w.setHolder i ((w.holder i).replace (some ⟨w.fresh, c⟩)) with fresh := w.fresh + 1 }.setPhase job
        (.finished (.installed ⟨w.fresh, c⟩))) := by
  obtain ⟨hstart, hnone⟩ : w.holder i = start ∧ ∀ j s, w.phase? j ≠ some (.finished (.installed s)) := by
    refine h.held.resolve_right fun ⟨j, s, hheld, _⟩ => ?_
    rw [hheld] at hempty
    cases hempty
  set v : World σ ι := { w.setHolder i ((w.holder i).replace (some ⟨w.fresh, c⟩)) with fresh := w.fresh + 1 } with hv
  have hheld : v.holder i = start.replace (some ⟨w.fresh, c⟩) := by
    rw [← hstart]
    exact holder_setHolder_self h.place _
  exact {
    place := by simpa [hv, setPhase, setHolder] using h.place
    count := (List.length_set ..).trans h.count
    calls := by
      intro k p' hk
      rcases phase?_setPhase_cases (w := w) rfl hp hk with ⟨rfl, rfl⟩ | ⟨-, hk⟩
      · exact ⟨r, hr, .installed hc⟩
      · exact h.calls k p' hk
    held := by
      refine Or.inr ⟨job, _, hheld, phase?_moved (w := w) rfl hp _, fun k t hk => ?_⟩
      rcases phase?_setPhase_cases (w := w) rfl hp hk with ⟨hk, -⟩ | ⟨-, hk⟩
      · exact hk
      · exact absurd hk (hnone k t)
    late := fun _ _ => by
      show (v.holder i).held.isSome
      rw [hheld]
      rfl }

theorem Contest.submit {env : Environment} (h : Contest env i start requests w) :
    Contest env i start (requests ++ [r]) (w.submit (.configure i r false)) where
  place := h.place
  count := by simp [World.submit, h.count]
  calls := by
    intro k p hk
    rcases phase?_submit_cases hk with hk | ⟨rfl, rfl⟩
    · obtain ⟨r', hr', hat⟩ := h.calls k p hk
      exact ⟨r', List.getElem?_append_left (List.getElem?_eq_some_iff.1 hr').1 ▸ hr', hat⟩
    · exact ⟨r, by simp [h.count], .looking⟩
  held := by
    rcases h.held with ⟨hstart, hnone⟩ | ⟨j, s, hheld, hj, hunique⟩
    · refine Or.inl ⟨hstart, fun k t hk => ?_⟩
      rcases phase?_submit_cases hk with hk | ⟨-, hk⟩
      · exact hnone k t hk
      · cases hk
    · refine Or.inr ⟨j, s, hheld, (phase?_submit_of_lt w _ (lt_jobs_of_phase? hj)).trans hj, fun k t hk => ?_⟩
      rcases phase?_submit_cases hk with hk | ⟨-, hk⟩
      · exact hunique k t hk
      · cases hk
  late := by
    intro k hk
    rcases phase?_submit_cases hk with hk | ⟨-, hk⟩
    · exact h.late k hk
    · cases hk

/-- **A step while the calls compete** -/
theorem contest_step (h : Contest setup.environment i start requests w) (hs : Step setup w e u)
    (he : e.Contends i) : Contest setup.environment i start (requests ++ e.request?.toList) u := by
  cases hs with
  | submit =>
    rename_i t
    cases t with
    | configure k r applies =>
      obtain ⟨rfl, rfl⟩ := he
      exact h.submit
    | change => exact he.elim
    | amend => exact he.elim
    | refresh => exact he.elim
  | advance hp hm =>
    rw [show (Event.request? (.advance _)).toList = [] from rfl, List.append_nil]
    obtain ⟨r, hr, hat⟩ := h.calls _ _ hp
    have hopen := open_of_move hm
    cases attempt_of_move hat hm with
    | goesOn hq hloses hlate => exact h.goesOn hp hopen hr hq hloses hlate
    | wins hempty hc => exact h.wins hp hr hempty hc
  | settle hp => obtain ⟨r, -, hat⟩ := h.calls _ _ hp; cases hat
  | resettle hp => obtain ⟨r, -, hat⟩ := h.calls _ _ hp; cases hat
  | linger => exact (List.append_nil requests).symm ▸ h.kept rfl rfl rfl
  | tick => exact (List.append_nil requests).symm ▸ h.kept rfl rfl rfl
  | drop hp hcan =>
    rw [show (Event.request? (.drop _)).toList = [] from rfl, List.append_nil]
    obtain ⟨r, hr, hat⟩ := h.calls _ _ hp
    have hdropped := h.goesOn hp (by cases hat <;> first | rfl | cases hcan) hr .dropped (by simp) (by simp)
    exact hdropped.kept rfl rfl rfl
  | replace =>
    rename_i k s
    refine (List.append_nil requests).symm ▸ h.kept rfl (List.length_set ..) ?_
    exact holder_setHolder_of_ne w (Ne.symm he) _

/-- **The calls compete as long as nothing else happens to the holder** -/
theorem contest_run (hi : i < w.holders.length) (hjobs : w.jobs = []) {events : List Event}
    (hcalls : ∀ e ∈ events, e.Contends i) :
    Contest setup.environment i (w.holder i) (events.filterMap Event.request?) (w.run setup events) := by
  induction events using List.reverseRecOn with
  | nil =>
    have hnobody : ∀ j p, w.phase? j ≠ some p := fun j p hp => by simp [phase?, hjobs] at hp
    exact ⟨hi, by simp [run, hjobs], fun j p hp => absurd hp (hnobody j p),
      Or.inl ⟨rfl, fun j s => hnobody j _⟩, fun j hj => absurd hj (hnobody j _)⟩
  | append_singleton l e ih =>
    have hl := ih fun e he => hcalls e (List.mem_append_left _ he)
    have he := hcalls e (List.mem_append_right _ List.mem_cons_self)
    rw [run_snoc, List.filterMap_append, show [e].filterMap Event.request? = e.request?.toList by
      cases he : e.request? <;> simp [he]]
    rcases step_cases setup (w.run setup l) e with ⟨hnone, hsame⟩ | hs
    · have hrequest : e.request? = none := by
        cases e with
        | submit => cases hnone
        | _ => rfl
      simpa [hsame, hrequest] using hl
    · exact contest_step hl hs he

end Contest

/-! ## The winner -/

/-- what came of a call with a request, when it has come to its end -/
inductive Verdict (env : Environment) (i : Nat) (start : ConfigHolder) (r : FirstConfig) (w : World σ ι) :
    JobResult → Prop
  /-- its snapshot is held, and it is the first one -/
  | won (hmade : r.Makes env s.config) (hheld : w.holder i = { start with held := some s, version := 1 }) :
      Verdict env i start r w (.installed s)
  /-- another call has won -/
  | late (hwinner : ∃ k s, w.result? k = some (.installed s)) : Verdict env i start r w (.refused .alreadyConfigured)
  /-- its texts could not be merged, its variables not be filled in, or what came of it is no configuration -/
  | unreadable (he : r.config env = .error e) (hnone : ∀ c, ¬ r.Makes env c) :
      Verdict env i start r w (.refused (.config e))

/-- what holds while calls with some requests compete for a holder that was as in `start` -/
structure OneShot (setup : Setup σ ι) (i : Nat) (start : ConfigHolder) (requests : List FirstConfig) (w : World σ ι) :
    Prop where
  /-- one call wins at most -/
  unique : ∀ j k s t, w.result? j = some (.installed s) → w.result? k = some (.installed t) → j = k
  verdict : ∀ j result, w.result? j = some result →
    ∃ r, requests[j]? = some r ∧ Verdict setup.environment i start r w result
  /-- as long as nobody has won, the holder is as it was -/
  untouched : (∀ j s, w.result? j ≠ some (.installed s)) → w.holder i = start
  /-- once something is held, it is held from then on -/
  settled : (w.holder i).held.isSome → ∀ later : List Event, (∀ e ∈ later, e.Contends i) →
    (w.run setup later).holder i = w.holder i
  /-- only the move with which a call wins changes the holder -/
  quiet : ∀ e : Event, e.Contends i → (w.step setup e).holder i ≠ w.holder i →
    ∃ j s, e = .advance j ∧ (w.step setup e).result? j = some (.installed s)
  /-- a call that finds something held is refused, whether it looks for the first time or for the second -/
  occupied : ∀ j, (∃ r, w.phase? j = some (.checking i r false)) ∨ (∃ c, w.phase? j = some (.installing i c false)) →
    (w.holder i).held.isSome → (w.step setup (.advance j)).result? j = some (.refused .alreadyConfigured)
  /-- a call waits for nobody: it comes to its end with three moves of its own -/
  ends : ∀ j, j < requests.length →
    ∃ p, (w.run setup (List.replicate 3 (.advance j))).phase? j = some p ∧ p.isEnded = true

section Winner

variable {setup : Setup σ ι} {i j : Nat} {w : World σ ι} {r : FirstConfig} {c : RuntimeConfig} {start : ConfigHolder}
  {requests : List FirstConfig} {env : Environment} {e : Event}

theorem Contest.holder_of_installed (h : Contest env i start requests w) (hversion : start.version = 0) {s : Snapshot}
    (hj : w.result? j = some (.installed s)) :
    w.holder i = { start with held := some s, version := 1 } ∧
      ∀ k t, w.result? k = some (.installed t) → k = j := by
  rcases h.held with ⟨-, hnone⟩ | ⟨k, t, hheld, hk, hunique⟩
  · exact absurd (result?_eq_some.1 hj) (hnone j s)
  · obtain rfl := hunique j s (result?_eq_some.1 hj)
    cases hk.symm.trans (result?_eq_some.1 hj)
    refine ⟨?_, fun k t hk => hunique k t (result?_eq_some.1 hk)⟩
    rw [hheld, ConfigHolder.replace, hversion]

theorem Contest.exists_winner (h : Contest env i start requests w) (hempty : start.held = none)
    (hheld : (w.holder i).held.isSome) : ∃ k s, w.result? k = some (.installed s) := by
  rcases h.held with ⟨hstart, -⟩ | ⟨k, s, -, hk, -⟩
  · rw [hstart, hempty] at hheld
    cases hheld
  · exact ⟨k, s, result?_eq_some.2 hk⟩

/-- **Every call that has come to its end has a verdict** -/
theorem Contest.verdict (h : Contest env i start requests w) (hempty : start.held = none)
    (hversion : start.version = 0) {result : JobResult} (hj : w.result? j = some result) :
    ∃ r, requests[j]? = some r ∧ Verdict env i start r w result := by
  obtain ⟨r, hr, hat⟩ := h.calls j _ (result?_eq_some.1 hj)
  refine ⟨r, hr, ?_⟩
  cases hat with
  | installed hc => exact .won (FirstConfig.makes_of_config hc) (h.holder_of_installed hversion hj).1
  | late => exact .late (h.exists_winner hempty (h.late j (result?_eq_some.1 hj)))
  | unreadable he => exact .unreadable he fun c => FirstConfig.not_makes_of_error he

/-- a step changes the holder only if it is the one that wins, and only if nothing was held -/
theorem Contest.changes (h : Contest setup.environment i start requests w) (he : e.Contends i)
    (hne : (w.step setup e).holder i ≠ w.holder i) :
    (w.holder i).held = none ∧ ∃ j s, e = .advance j ∧ (w.step setup e).result? j = some (.installed s) := by
  rcases step_eq_or setup w e with hsame | hs
  · exact absurd (congrArg (World.holder · i) hsame) hne
  · generalize w.step setup e = u at hs hne
    cases hs with
    | advance hp hm =>
      obtain ⟨r, -, hat⟩ := h.calls _ _ hp
      cases attempt_of_move hat hm with
      | goesOn => exact absurd rfl hne
      | wins hempty =>
        exact ⟨hempty, _, _, rfl, result?_eq_some.2 (phase?_moved (w := w) rfl hp _)⟩
    | replace => exact absurd (holder_setHolder_of_ne w (Ne.symm he) _) hne
    | _ => exact absurd rfl hne

theorem Contest.settled (h : Contest setup.environment i start requests w) (hheld : (w.holder i).held.isSome)
    {later : List Event} (hcalls : ∀ e ∈ later, e.Contends i) : (w.run setup later).holder i = w.holder i := by
  induction later generalizing w requests with
  | nil => rfl
  | cons e later ih =>
    have he := hcalls e List.mem_cons_self
    have hsame : (w.step setup e).holder i = w.holder i := by
      by_contra hne
      rw [(h.changes he hne).1] at hheld
      cases hheld
    have hrest : ∀ e ∈ later, e.Contends i := fun e he => hcalls e (List.mem_cons_of_mem _ he)
    rcases step_eq_or setup w e with hstay | hs
    · exact (congrArg (fun v => (World.run setup v later).holder i) hstay).trans (ih h hheld hrest)
    · exact (ih (contest_step h hs he) (hsame.symm ▸ hheld) hrest).trans hsame

theorem refused_of_held
    (hj : (∃ r, w.phase? j = some (.checking i r false)) ∨ ∃ c, w.phase? j = some (.installing i c false))
    (hheld : (w.holder i).held.isSome) :
    (w.step setup (.advance j)).result? j = some (.refused .alreadyConfigured) := by
  rcases hj with ⟨r, hp⟩ | ⟨c, hp⟩
  · have hs : Step setup w (.advance j) (w.step setup (.advance j)) := step_of_next? hp rfl
    obtain ⟨q, u, hm, -, hq⟩ := move_of_step hp hs
    cases hm with
    | occupied => exact result?_eq_some.2 hq
    | vacant hempty => simp [hempty] at hheld
  · have hs : Step setup w (.advance j) (w.step setup (.advance j)) := step_of_next? hp rfl
    obtain ⟨q, u, hm, -, hq⟩ := move_of_step hp hs
    cases hm with
    | overtaken => exact result?_eq_some.2 hq
    | install hempty => simp [hempty] at hheld

theorem movesLeft_of_move {u : World σ ι} {p q : Phase} (h : r.At env i p) (hm : Move setup j w p q u) :
    q.movesLeft < p.movesLeft := by
  cases h with
  | looking => cases hm <;> simp [Phase.movesLeft]
  | reading => cases hm <;> simp [Phase.movesLeft]
  | ready hc => cases hm <;> simp [Phase.movesLeft]
  | installed => cases hm
  | late => cases hm
  | unreadable => cases hm
  | dropped => cases hm

/-- a call that has not come to its end can go on, whatever the others do -/
theorem next?_of_at {p : Phase} (h : r.At env i p) (hopen : p.isEnded = false) :
    (w.next? setup j p).isSome := by
  cases h with
  | looking => rfl
  | reading => rfl
  | ready => rfl
  | _ => cases hopen

/-- a call makes its moves, and has come to its end when there are none left -/
theorem Contest.ends (h : Contest setup.environment i start requests w) {p : Phase} (hp : w.phase? j = some p) {n : Nat}
    (hn : p.movesLeft ≤ n) :
    ∃ q, (w.run setup (List.replicate n (.advance j))).phase? j = some q ∧ q.isEnded = true := by
  induction n generalizing w p requests with
  | zero =>
    obtain ⟨r, -, hat⟩ := h.calls j p hp
    refine ⟨p, hp, ?_⟩
    cases hat with
    | looking => cases hn
    | reading => cases hn
    | ready => cases hn
    | _ => rfl
  | succ n ih =>
    obtain ⟨r, -, hat⟩ := h.calls j p hp
    cases hended : p.isEnded with
    | true =>
      refine ⟨p, ?_, hended⟩
      exact invariant_run (P := fun w => w.phase? j = some p) (fun _ _ _ h hs => ended_step hs h hended) hp _
    | false =>
      have hs : Step setup w (.advance j) (w.step setup (.advance j)) := step_of_next? hp (next?_of_at hat hended)
      obtain ⟨q, u, hm, -, hq⟩ := move_of_step hp hs
      exact ih (contest_step h hs trivial) hq (Nat.le_of_lt_succ ((movesLeft_of_move hat hm).trans_le hn))

/-- **A first configuration is installed once.** Any number of calls come in for a holder that holds nothing and whose
version is zero, with any requests; their looks, their readings and their installations take place in any order, and
nothing else is put into the holder meanwhile. Then one call wins at most. What it installed is what its request makes,
and is held at version one from then on; a call that finds something held is refused, and no call that fails changes the
holder. -/
theorem first_configuration_wins (hi : i < w.holders.length) (hempty : (w.holder i).held = none)
    (hversion : (w.holder i).version = 0) (hjobs : w.jobs = []) {events : List Event}
    (hcalls : ∀ e ∈ events, e.Contends i) :
    OneShot setup i (w.holder i) (events.filterMap Event.request?) (w.run setup events) := by
  have h : Contest setup.environment i (w.holder i) (events.filterMap Event.request?) (w.run setup events) :=
    contest_run hi hjobs hcalls
  exact {
    unique := fun j k s t hj hk => (h.holder_of_installed hversion hk).2 j s hj
    verdict := fun j result hj => h.verdict hempty hversion hj
    untouched := fun hnone =>
      (h.held.resolve_right fun ⟨j, s, _, hj, _⟩ => hnone j s (result?_eq_some.2 hj)).1
    settled := fun hheld later hlater => h.settled hheld hlater
    quiet := fun e he hne => (h.changes he hne).2
    occupied := fun j hj hheld => refused_of_held hj hheld
    ends := fun j hj => by
      obtain ⟨p, hp⟩ : ∃ p, (w.run setup events).phase? j = some p := by
        rw [← h.count] at hj
        exact ⟨_, List.getElem?_eq_getElem hj⟩
      refine h.ends hp ?_
      cases p <;> simp [Phase.movesLeft] }

end Winner

/-! ## Four calls -/

/-- a gateway whose only holder is empty -/
def vacantGateway : World Nat Unit := { holders := [{}], services := 0, memory := () }

def hostRequest : FirstConfig where
  configuration := "\x7b\"data-source\":\x7b\"database-type\":\"postgresql\",\"connection-string\":\"host\"\x7d\x7d"

/-- the same with other texts merged over it, and a token -/
def mergedRequest : FirstConfig :=
  { hostRequest with
    overrides := some "\x7b\"data-source\":\x7b\"connection-string\":\"other\"\x7d\x7d", accessToken := some "token" }

/-- Three calls look while nothing is held. One of them cannot be read, and of the two others the second one installs
its configuration first; a fourth call comes in when that is done. -/
def rivalry : List Event :=
  [hostRequest, mergedRequest, { configuration := "\x7b" }].map (fun r => .submit (.configure 0 r false)) ++
    [.advance 0, .advance 1, .advance 2, .advance 2, .advance 0, .advance 1, .advance 1, .advance 0] ++
    [.submit (.configure 0 hostRequest false), .advance 3]

def installed? (w : World σ ι) (job : Nat) : Option Snapshot :=
  match w.result? job with
  | some (.installed s) => some s
  | _ => none

def refused? (w : World σ ι) (job : Nat) : Option GatewayError :=
  match w.result? job with
  | some (.refused e) => some e
  | _ => none

theorem result?_of_installed? {w : World σ ι} {job : Nat} {s : Snapshot} (h : w.installed? job = some s) :
    w.result? job = some (.installed s) := by
  unfold installed? at h
  split at h
  · rename_i hresult
    cases h
    exact hresult
  · cases h

theorem first_of_rivals_wins :
    ∃ s, (vacantGateway.run refusingSetup rivalry).result? 1 = some (.installed s) ∧
      (vacantGateway.run refusingSetup rivalry).holder 0 = { held := some s, version := 1 } ∧
      s.config.defaultSource?.map (fun d => (d.connectionString, d.accessToken)) = some ("other", some "token") ∧
      [0, 3].map (vacantGateway.run refusingSetup rivalry).refused? =
        [some .alreadyConfigured, some .alreadyConfigured] ∧
      ((vacantGateway.run refusingSetup rivalry).refused? 2).isSome = true := by
  obtain ⟨hsource, hlate, hunread⟩ :
      ((vacantGateway.run refusingSetup rivalry).installed? 1).map (fun s =>
        s.config.defaultSource?.map fun d => (d.connectionString, d.accessToken)) =
          some (some ("other", some "token")) ∧
      [0, 3].map (vacantGateway.run refusingSetup rivalry).refused? =
        [some .alreadyConfigured, some .alreadyConfigured] ∧
      ((vacantGateway.run refusingSetup rivalry).refused? 2).isSome = true := by decide +kernel
  obtain ⟨s, hs, hsource⟩ := Option.map_eq_some_iff.1 hsource
  have hresult := result?_of_installed? hs
  have hcalls : ∀ e ∈ rivalry, e.Contends 0 := by simp [rivalry, Event.Contends]
  obtain ⟨r, -, hverdict⟩ :=
    (first_configuration_wins (w := vacantGateway) Nat.one_pos rfl rfl rfl hcalls).verdict 1 _ hresult
  cases hverdict with
  | won _ hheld => exact ⟨s, hresult, hheld, hsource, hlate, hunread⟩

end World

end EntityGateway
