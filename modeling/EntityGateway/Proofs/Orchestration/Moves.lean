/-
What a job and an event can do to a gateway.

`Move setup job w p q u`: the job, in phase `p` in the world `w`, goes on to phase `q` and leaves the world `u`, with
`q` not yet written down. There is one rule for each outcome of each phase. `Step setup w e u`: the event `e` happens in
`w` and leaves `u`.

- `move_of_next?`, `step_of_step?`: the machine does nothing else;
- `step_eq_or`: an event that cannot happen changes nothing;
- `invariant_run`: what no step breaks holds along every run.
-/
import Mathlib.Tactic
import EntityGateway.Orchestration.Machine

namespace EntityGateway

namespace World

/-! ## Places -/

@[simp] theorem phase?_setPhase_of_ne (w : World σ ι) {j k : Nat} (h : k ≠ j) (q : Phase) :
    (w.setPhase j q).phase? k = w.phase? k := by
  simp only [phase?, setPhase]
  rw [List.getElem?_set_ne (Ne.symm h)]

theorem phase?_setPhase_self {w : World σ ι} {j : Nat} {p : Phase} (h : w.phase? j = some p) (q : Phase) :
    (w.setPhase j q).phase? j = some q := by
  obtain ⟨hj, -⟩ := List.getElem?_eq_some_iff.1 h
  simp only [phase?, setPhase]
  rw [List.getElem?_set_self hj]

theorem phase?_submit_of_lt (w : World σ ι) (t : Task) {k : Nat} (h : k < w.jobs.length) :
    (w.submit t).phase? k = w.phase? k := by
  simp only [phase?, submit]
  rw [List.getElem?_append_left h]

theorem phase?_submit_self (w : World σ ι) (t : Task) : (w.submit t).phase? w.jobs.length = some t.start := by
  simp [phase?, submit]

theorem phase?_submit_cases {w : World σ ι} {t : Task} {k : Nat} {p : Phase} (h : (w.submit t).phase? k = some p) :
    w.phase? k = some p ∨ (k = w.jobs.length ∧ p = t.start) := by
  rcases Nat.lt_trichotomy k w.jobs.length with hk | rfl | hk
  · rw [phase?_submit_of_lt w t hk] at h
    exact Or.inl h
  · rw [phase?_submit_self] at h
    exact Or.inr ⟨rfl, (Option.some.inj h).symm⟩
  · have : (w.submit t).jobs.length ≤ k := by simp [submit]; omega
    simp only [phase?] at h
    rw [List.getElem?_eq_none this] at h
    cases h

theorem lt_jobs_of_phase? {w : World σ ι} {j : Nat} {p : Phase} (h : w.phase? j = some p) : j < w.jobs.length :=
  (List.getElem?_eq_some_iff.1 h).1

theorem holder_setHolder_self {w : World σ ι} {i : Nat} (hi : i < w.holders.length) (h : ConfigHolder) :
    (w.setHolder i h).holder i = h := by
  simp [holder, setHolder, hi]

@[simp] theorem holder_setHolder_of_ne (w : World σ ι) {i k : Nat} (hk : k ≠ i) (h : ConfigHolder) :
    (w.setHolder i h).holder k = w.holder k := by
  simp only [holder, setHolder]
  rw [List.getElem?_set_ne (Ne.symm hk)]

@[simp] theorem set_addSet_of_lt (w : World σ ι) (s : ProviderSet) {i : Nat} (hi : i < w.sets.length) :
    (w.addSet s).set i = w.set i := by
  simp only [World.set, addSet]
  rw [List.getElem?_append_left hi]

@[simp] theorem set_addSet_self (w : World σ ι) (s : ProviderSet) : (w.addSet s).set w.sets.length = s := by
  simp [World.set, addSet]

end World

/-! ## Moves -/

/-- what a job does when it goes one phase further: there is a rule for each outcome -/
inductive Move (setup : Setup σ ι) (job : Nat) (w : World σ ι) : Phase → Phase → World σ ι → Prop
  -- first configurations
  | occupied (hheld : (w.holder i).held.isSome) :
      Move setup job w (.checking i request applies) (.finished (.refused .alreadyConfigured)) w
  | vacant (hheld : (w.holder i).held = none) :
      Move setup job w (.checking i request applies) (.reading i request applies) w
  | unreadable (hread : request.config setup.environment = .error e) :
      Move setup job w (.reading i request applies) (.finished (.refused (.config e))) w
  | readable (hread : request.config setup.environment = .ok c) :
      Move setup job w (.reading i request applies) (.installing i c applies) w
  | overtaken (hheld : (w.holder i).held.isSome) :
      Move setup job w (.installing i c applies) (.finished (.refused .alreadyConfigured)) w
  | install (hheld : (w.holder i).held = none) :
      Move setup job w (.installing i c applies)
        (if applies then .marking i ⟨w.fresh, c⟩ else .finished (.installed ⟨w.fresh, c⟩))
        { w.setHolder i ((w.holder i).replace (some ⟨w.fresh, c⟩)) with fresh := w.fresh + 1 }
  | mark :
      Move setup job w (.marking i s) (.locking (.apply i s)) (w.setHolder i (w.holder i).markLate)
  -- amendments
  | decline (hwhy : ((w.holder a.holder).held = none ∧ e = .notConfigured) ∨ a.make = .error e) :
      Move setup job w (.considering a) (.finished (.refused e)) w
  | accept (hheld : (w.holder a.holder).held.isSome) (hmake : a.make = .ok make) :
      Move setup job w (.considering a) (.locking (.edit a.holder make))
        (if a.marks then w.setHolder a.holder (w.holder a.holder).markLate else w)
  -- the lock
  | busy (hrun : w.running.isSome) :
      Move setup job w (.locking t) (.finished (.changed (.error .inProgress))) w
  | apply (hrun : w.running = none) :
      Move setup job w (.locking (.apply i s)) (.validating ⟨i, s, w.checkpoint i⟩)
        { w.enter .validating with running := some job }
  | reject (hrun : w.running = none) (hmake : (w.holder i).config >>= make = .error e) :
      Move setup job w (.locking (.edit i make)) (.finished (.changed (.error (.stage .validating e)))) w
  | edit (hrun : w.running = none) (hmake : (w.holder i).config >>= make = .ok c) :
      Move setup job w (.locking (.edit i make)) (.validating ⟨i, ⟨w.fresh, c⟩, w.checkpoint i⟩)
        { w.enter .validating with fresh := w.fresh + 1, running := some job }
  -- before anything is put in force
  | invalid (hcheck : World.checkSnapshot r.snapshot.config = .error e) :
      Move setup job w (.validating r) (.failing r (.stage .validating (.config e))) w
  | valid (hcheck : World.checkSnapshot r.snapshot.config = .ok ()) :
      Move setup job w (.validating r) (.constructing r) (w.enter .rebuildingMetadata)
  | unsupported (hset : ProviderSet.ofSnapshot setup.introspectors r.snapshot = .error e) :
      Move setup job w (.constructing r) (.failing r (.stage .rebuildingMetadata (.config e))) w
  | construct (hset : ProviderSet.ofSnapshot setup.introspectors r.snapshot = .ok built)
      (hlaunch :
        built.launch setup.introspectors setup.introspectionTimeout w.now w.memory = (launched, tasks, asked)) :
      Move setup job w (.constructing r)
        (.preparing r ⟨w.sets.length, tasks, tasks.map (·.name)⟩ (w.now + setup.stageTimeout.nanoseconds))
        { w.addSet launched with memory := asked }
  | gathered (hpending : g.pending = []) (hdev : r.snapshot.config.isDevelopment = true) :
      Move setup job w (.preparing r g deadline) (.relating r g.set g.report) (w.enter .revalidatingRelationships)
  | gatheredInProduction (hpending : g.pending = []) (hdev : r.snapshot.config.isDevelopment = false) :
      Move setup job w (.preparing r g deadline) (.committing r g.set g.report) w
  | unprepared (hpending : g.pending ≠ []) (hlate : deadline ≤ w.now) :
      Move setup job w (.preparing r g deadline) (.failing r (.timeout .rebuildingMetadata setup.stageTimeout))
        (w.leave job g)
  | unrelated (hcheck : World.checkRelations r.snapshot.config (w.set place) = .error e) :
      Move setup job w (.relating r place report) (.failing r (.stage .revalidatingRelationships e)) w
  | related (hcheck : World.checkRelations r.snapshot.config (w.set place) = .ok ()) :
      Move setup job w (.relating r place report) (.committing r place report) w
  -- from the commit on
  | commit :
      Move setup job w (.committing r place report)
        (.calling ⟨r, .serve ⟨place, report, (World.hold (w.holder r.holder) r.snapshot).version⟩, r.holder, r.snapshot⟩
          Wire.all)
        (((w.enter .rewiringDependents).setHolder r.holder (World.hold (w.holder r.holder) r.snapshot)).publish
          r.holder place)
  | call (hcall : w.makeCall setup (wire.call (w.holder rw.holder) w.currentSet rw.snapshot) = (p, u)) :
      Move setup job w (.calling rw (wire :: todo)) (.awaiting rw wire todo p) u
  | answered (hreply : w.replied? p = some reply) (hok : World.callFailure setup wire reply = none) :
      Move setup job w (.awaiting rw wire todo p) (.calling rw todo) w
  | refused (hreply : w.replied? p = some reply) (hbad : World.callFailure setup wire reply = some e)
      (hpurpose : rw.purpose = .serve c) :
      Move setup job w (.awaiting rw wire todo p) (.rollingBack rw.run e) w
  | lost (hreply : w.replied? p = some reply) (hbad : World.callFailure setup wire reply = some e)
      (hpurpose : rw.purpose = .restore fault) :
      Move setup job w (.awaiting rw wire todo p) (.failing rw.run fault) w
  | restored (hpurpose : rw.purpose = .restore fault) :
      Move setup job w (.calling rw []) (.failing rw.run fault) w
  | document (hpurpose : rw.purpose = .serve c) (hdocs : setup.dependents.documents = true)
      (hstore : rw.snapshot.config.usesDocumentStore = false) :
      Move setup job w (.calling rw []) (.generating rw.run c) (w.enter .generatingArtifacts)
  | skip (hpurpose : rw.purpose = .serve c)
      (hdocs : setup.dependents.documents = false ∨ rw.snapshot.config.usesDocumentStore = true) :
      Move setup job w (.calling rw []) (.concluding rw.run c []) w
  | generate (hcall : w.makeCall setup (.generate (w.holder r.holder) r.snapshot) = (p, u)) :
      Move setup job w (.generating r c) (.documenting r c p) u
  | documented (hreply : w.replied? p = some reply) :
      Move setup job w (.documenting r c p) (.concluding r c (World.diagnostic setup reply)) w
  | succeed (hreport : report = ⟨c.version, c.initialization, (w.set c.set).exceptions, diagnostics⟩) :
      Move setup job w (.concluding r c diagnostics) (.finished (.changed (.ok report)))
        { w.enter .ready with ready := true, lastReport := some report, running := none }
  | restore (hready : r.checkpoint.wasReady = true)
      (hu : u = (w.setHolder r.holder (World.putBack r.checkpoint.target (w.holder r.holder))).publish
        r.checkpoint.bound r.checkpoint.set)
      (hheld : (u.holder r.checkpoint.bound).held = some s) :
      Move setup job w (.rollingBack r fault)
        (.calling ⟨r, .restore fault, r.checkpoint.bound, s⟩ Wire.all) u
  | giveUp
      (hu : u = (w.setHolder r.holder (World.putBack r.checkpoint.target (w.holder r.holder))).publish
        r.checkpoint.bound r.checkpoint.set)
      (hidle : r.checkpoint.wasReady = false ∨ (u.holder r.checkpoint.bound).held = none) :
      Move setup job w (.rollingBack r fault) (.failing r fault) u
  | fail :
      Move setup job w (.failing r fault) (.finished (.changed (.error fault))) (w.enter .failed).unlock
  -- the current metadata again
  | refresh (hlaunch : w.currentSet.launch setup.introspectors setup.introspectionTimeout w.now w.memory =
        (launched, tasks, asked)) :
      Move setup job w .refreshing (.gathering ⟨w.current, tasks, tasks.map (·.name)⟩)
        { w with sets := w.sets.set w.current launched, memory := asked }
  | refreshed (hpending : g.pending = []) :
      Move setup job w (.gathering g) (.finished (.initialized g.report)) w

namespace World

/-! ## The machine makes no other moves -/

theorem config_ok {h : ConfigHolder} {c : RuntimeConfig} (hc : h.config = .ok c) :
    ∃ s, h.held = some s ∧ s.config = c := by
  unfold ConfigHolder.config at hc
  split at hc
  · rename_i s hs
    cases hc
    exact ⟨s, hs, rfl⟩
  · cases hc

theorem config_error {h : ConfigHolder} {e : GatewayError} (hc : h.config = .error e) :
    h.held = none ∧ e = .notConfigured := by
  unfold ConfigHolder.config at hc
  split at hc
  · cases hc
  · rename_i hs
    cases hc
    exact ⟨hs, rfl⟩

theorem check_move {w u : World σ ι} (h : w.check i request applies = (q, u)) :
    Move setup job w (.checking i request applies) q u := by
  unfold check ConfigHolder.checkEmpty at h
  cases hheld : (w.holder i).held with
  | none =>
    simp only [hheld] at h
    cases h
    exact .vacant hheld
  | some s =>
    simp only [hheld] at h
    cases h
    exact .occupied (by simp [hheld])

theorem read_move {w u : World σ ι} (h : w.read setup i request applies = (q, u)) :
    Move setup job w (.reading i request applies) q u := by
  unfold World.read at h
  split at h
  · rename_i e hread
    cases h
    exact .unreadable hread
  · rename_i c hread
    cases h
    exact .readable hread

theorem install_move {w u : World σ ι} (h : w.install i c applies = (q, u)) :
    Move setup job w (.installing i c applies) q u := by
  unfold World.install ConfigHolder.install ConfigHolder.checkEmpty at h
  cases hheld : (w.holder i).held with
  | none =>
    simp only [hheld] at h
    cases h
    exact .install hheld
  | some s =>
    simp only [hheld] at h
    cases h
    exact .overtaken (by simp [hheld])

theorem consider_move {w u : World σ ι} (h : w.consider a = (q, u)) : Move setup job w (.considering a) q u := by
  unfold consider at h
  split at h
  · rename_i hconfig
    cases h
    exact .decline (Or.inl (config_error hconfig))
  · rename_i hmake
    cases h
    exact .decline (Or.inr hmake)
  · rename_i hconfig hmake
    obtain ⟨s, hs, -⟩ := config_ok hconfig
    cases h
    exact .accept (by simp [hs]) hmake

theorem lock_move {w u : World σ ι} (h : w.lock job t = (q, u)) : Move setup job w (.locking t) q u := by
  unfold lock at h
  split at h
  · rename_i k hrun
    cases h
    exact .busy (by simp [hrun])
  · rename_i hrun
    split at h
    · cases h
      exact .apply hrun
    · split at h
      · rename_i hmake
        cases h
        exact .reject hrun hmake
      · rename_i hmake
        cases h
        exact .edit hrun hmake

theorem validate_move {w u : World σ ι} (h : w.validate r = (q, u)) : Move setup job w (.validating r) q u := by
  unfold validate at h
  split at h
  · rename_i hcheck
    cases h
    exact .invalid hcheck
  · rename_i hcheck
    cases h
    exact .valid hcheck

theorem construct_move {w u : World σ ι} (h : w.construct setup r = (q, u)) :
    Move setup job w (.constructing r) q u := by
  unfold construct at h
  split at h
  · rename_i hset
    cases h
    exact .unsupported hset
  · rename_i built hset
    cases h
    exact .construct hset rfl

theorem gather_move {w u : World σ ι} (h : w.gather? setup job r g deadline = some (q, u)) :
    Move setup job w (.preparing r g deadline) q u := by
  unfold gather? at h
  split_ifs at h with hpending hdev hlate
  · cases h
    exact .gathered (List.isEmpty_iff.1 hpending) hdev
  · cases h
    exact .gatheredInProduction (List.isEmpty_iff.1 hpending) (by simpa using hdev)
  · cases h
    exact .unprepared (fun hnil => hpending (by simp [hnil])) hlate

theorem relate_move {w u : World σ ι} (h : w.relate r place report = (q, u)) :
    Move setup job w (.relating r place report) q u := by
  unfold relate at h
  split at h
  · rename_i hcheck
    cases h
    exact .unrelated hcheck
  · rename_i hcheck
    cases h
    exact .related hcheck

theorem callNext_move {w u : World σ ι} (h : w.callNext setup rw todo = (q, u)) :
    Move setup job w (.calling rw todo) q u := by
  cases todo with
  | nil =>
    simp only [callNext, rewired] at h
    split at h
    · rename_i fault hpurpose
      cases h
      exact .restored hpurpose
    · rename_i c hpurpose
      split_ifs at h with hdocs
      · cases h
        simp only [Bool.and_eq_true, Bool.not_eq_true'] at hdocs
        exact .document hpurpose hdocs.1 hdocs.2
      · cases h
        refine .skip hpurpose ?_
        cases hd : setup.dependents.documents
        · exact Or.inl rfl
        · exact Or.inr (by simpa [hd] using hdocs)
  | cons wire todo =>
    simp only [callNext] at h
    cases h
    exact .call rfl

theorem afterCall_move {w u : World σ ι} (h : w.afterCall? setup rw wire todo p = some (q, u)) :
    Move setup job w (.awaiting rw wire todo p) q u := by
  obtain ⟨reply, hreply, h⟩ := Option.map_eq_some_iff.1 h
  split at h
  · rename_i hok
    cases h
    exact .answered hreply hok
  · rename_i hbad hpurpose
    cases h
    exact .refused hreply hbad hpurpose
  · rename_i hbad hpurpose
    cases h
    exact .lost hreply hbad hpurpose

theorem rollBack_move {w u : World σ ι} (h : w.rollBack r fault = (q, u)) :
    Move setup job w (.rollingBack r fault) q u := by
  simp only [rollBack] at h
  split at h
  · rename_i hready hheld
    cases h
    exact .restore hready rfl hheld
  · rename_i hidle
    cases h
    refine .giveUp rfl ?_
    cases hready : r.checkpoint.wasReady
    · exact Or.inl rfl
    · exact Or.inr (Option.eq_none_iff_forall_ne_some.2 fun s hs => hidle s hready hs)

theorem gathered_move {w u : World σ ι} (h : w.gathered? g = some (q, u)) : Move setup job w (.gathering g) q u := by
  unfold gathered? at h
  split_ifs at h with hpending
  cases h
  exact .refreshed (List.isEmpty_iff.1 hpending)

/-- **The machine moves by the rules**: one lemma for each phase, put together -/
theorem move_of_next? {w u : World σ ι} (h : w.next? setup job p = some (q, u)) : Move setup job w p q u := by
  cases p with
  | checking i request applies => exact check_move (Option.some.inj h)
  | reading i request applies => exact read_move (Option.some.inj h)
  | installing i c applies => exact install_move (Option.some.inj h)
  | marking i s =>
    cases h
    exact .mark
  | considering a => exact consider_move (Option.some.inj h)
  | locking t => exact lock_move (Option.some.inj h)
  | validating r => exact validate_move (Option.some.inj h)
  | constructing r => exact construct_move (Option.some.inj h)
  | preparing r g deadline => exact gather_move h
  | relating r place report => exact relate_move (Option.some.inj h)
  | committing r place report =>
    cases h
    exact .commit
  | calling rw todo => exact callNext_move (Option.some.inj h)
  | awaiting rw wire todo p => exact afterCall_move h
  | generating r c =>
    cases h
    exact .generate rfl
  | documenting r c p =>
    obtain ⟨reply, hreply, h⟩ := Option.map_eq_some_iff.1 h
    cases h
    exact .documented hreply
  | concluding r c diagnostics =>
    cases h
    exact .succeed rfl
  | rollingBack r fault => exact rollBack_move (Option.some.inj h)
  | failing r fault =>
    cases h
    exact .fail
  | refreshing =>
    cases h
    exact .refresh rfl
  | gathering g => exact gathered_move h
  | finished result => cases h
  | dropped => cases h

end World

/-! ## Steps -/

/-- the initializations that a job leaves to themselves when it is given up in a phase -/
def Phase.leftovers (job : Nat) (p : Phase) : List Leftover := (p.gathering?.map (·.leftovers job)).getD []

/-- an event that happens, and what it leads to -/
inductive Step (setup : Setup σ ι) (w : World σ ι) : Event → World σ ι → Prop
  | submit : Step setup w (.submit t) (w.submit t)
  | advance (hp : w.phase? job = some p) (hm : Move setup job w p q u) : Step setup w (.advance job) (u.setPhase job q)
  | settle (hp : w.phase? job = some (.preparing r g deadline)) (hdue : g.due? w.now source = some t) :
      Step setup w (.settle job source)
        ({ w with sets := w.sets.set g.set ((w.set g.set).settle t) }.setPhase job
          (.preparing r (g.without source) deadline))
  | resettle (hp : w.phase? job = some (.gathering g)) (hdue : g.due? w.now source = some t) :
      Step setup w (.settle job source)
        ({ w with sets := w.sets.set g.set ((w.set g.set).settle t) }.setPhase job (.gathering (g.without source)))
  | linger (hl : w.leftovers[place]? = some l) (hdue : l.task.endsAt ≤ w.now) :
      Step setup w (.linger place)
        { w with sets := w.sets.set l.set ((w.set l.set).settleAlone l.task), leftovers := w.leftovers.eraseIdx place }
  | tick (hlt : w.now < time) (htimers : ∀ t ∈ w.timers, time ≤ t) : Step setup w (.tick time) { w with now := time }
  | drop (hp : w.phase? job = some p) (hcan : p.canDrop = true) :
      Step setup w (.drop job)
        { w.setPhase job .dropped with
          leftovers := w.leftovers ++ p.leftovers job, running := if w.running = some job then none else w.running }
  | replace : Step setup w (.replace i s) (w.setHolder i ((w.holder i).replace (some s)))

namespace World

theorem advance_step {w u : World σ ι} (h : w.advance? setup job = some u) : Step setup w (.advance job) u := by
  unfold advance? at h
  obtain ⟨p, hp, h⟩ := Option.bind_eq_some_iff.1 h
  obtain ⟨⟨q, v⟩, hnext, h⟩ := Option.bind_eq_some_iff.1 h
  cases h
  exact .advance hp (move_of_next? hnext)

theorem settle_step {w u : World σ ι} (h : w.settle? job source = some u) : Step setup w (.settle job source) u := by
  unfold settle? at h
  obtain ⟨p, hp, h⟩ := Option.bind_eq_some_iff.1 h
  obtain ⟨g, hg, h⟩ := Option.bind_eq_some_iff.1 h
  obtain ⟨t, ht, h⟩ := Option.bind_eq_some_iff.1 h
  cases h
  unfold Phase.gathering? at hg
  split at hg
  · cases hg
    exact .settle hp ht
  · cases hg
    exact .resettle hp ht
  · cases hg

theorem linger_step {w u : World σ ι} (h : w.linger? place = some u) : Step setup w (.linger place) u := by
  unfold linger? at h
  obtain ⟨l, hl, h⟩ := Option.bind_eq_some_iff.1 h
  split_ifs at h with hdue
  cases h
  exact .linger hl hdue

theorem tick_step {w u : World σ ι} (h : w.tick? time = some u) : Step setup w (.tick time) u := by
  unfold tick? at h
  split_ifs at h with hc
  cases h
  simp only [Bool.and_eq_true, decide_eq_true_eq, List.all_eq_true] at hc
  exact .tick hc.1 hc.2

theorem leaveAll_eq (w : World σ ι) (job : Nat) (p : Phase) :
    w.leaveAll job p = { w with leftovers := w.leftovers ++ p.leftovers job } := by
  unfold leaveAll Phase.leftovers
  cases p.gathering? <;> simp [leave]

theorem drop_step {w u : World σ ι} (h : w.drop? job = some u) : Step setup w (.drop job) u := by
  unfold drop? at h
  obtain ⟨p, hp, h⟩ := Option.bind_eq_some_iff.1 h
  simp only [leaveAll_eq] at h
  split_ifs at h with hcan hrun
  · cases h
    have hstep : Step setup w (.drop job) _ := .drop hp hcan
    rw [if_pos (show w.running = some job from hrun)] at hstep
    exact hstep
  · cases h
    have hstep : Step setup w (.drop job) _ := .drop hp hcan
    rw [if_neg (show ¬ w.running = some job from hrun)] at hstep
    exact hstep

/-- **The machine takes only these steps** -/
theorem step_of_step? {w u : World σ ι} {e : Event} (h : w.step? setup e = some u) : Step setup w e u := by
  cases e with
  | submit t =>
    cases h
    exact .submit
  | advance job => exact advance_step h
  | settle job source => exact settle_step h
  | linger place => exact linger_step h
  | tick time => exact tick_step h
  | drop job => exact drop_step h
  | replace i s =>
    cases h
    exact .replace

theorem step_cases (setup : Setup σ ι) (w : World σ ι) (e : Event) :
    (w.step? setup e = none ∧ w.step setup e = w) ∨ Step setup w e (w.step setup e) := by
  unfold step
  cases h : w.step? setup e with
  | none => exact Or.inl ⟨rfl, rfl⟩
  | some u => exact Or.inr (step_of_step? h)

theorem step_eq_or (setup : Setup σ ι) (w : World σ ι) (e : Event) :
    w.step setup e = w ∨ Step setup w e (w.step setup e) :=
  (step_cases setup w e).imp_left And.right

/-! ## Runs -/

theorem run_append (setup : Setup σ ι) (w : World σ ι) (a b : List Event) :
    w.run setup (a ++ b) = (w.run setup a).run setup b := by
  simp [run, List.foldl_append]

theorem run_snoc (setup : Setup σ ι) (w : World σ ι) (l : List Event) (e : Event) :
    w.run setup (l ++ [e]) = (w.run setup l).step setup e := by
  simp [run, List.foldl_append]

/-- **What no step breaks holds along every run** -/
theorem invariant_run {P : World σ ι → Prop} (hstep : ∀ w e u, P w → Step setup w e u → P u) {w : World σ ι} (hw : P w)
    (events : List Event) : P (w.run setup events) := by
  induction events generalizing w with
  | nil => exact hw
  | cons e events ih =>
    refine ih ?_
    rcases step_eq_or setup w e with h | h
    · rw [h]
      exact hw
    · exact hstep w e _ hw h

end World

end EntityGateway
