/-
The books of a gateway that is served: which order each job carries out, and which jobs have committed.

A job makes the change that its order asks for. A job commits once, and until it is done no other job commits; a job
whose request was acknowledged has committed.

- `piece_of_serve`: a piece of traffic is an order, a move, or nothing that matters here;
- `carried_serve`, `booked_serve`: all traffic keeps the books in order;
- `isAcknowledged_iff`: a request is acknowledged if its change was made, and only then.
-/
import EntityGateway.Proofs.Orchestration.EarlyFailure
import EntityGateway.Proofs.Served.Custody
import EntityGateway.Proofs.Served.Edits

namespace EntityGateway

open Http

/-! ## Pieces of traffic -/

/-- a job that only waits, or that is given up while it waits -/
inductive Phase.Stays : Phase → Phase → Prop
  | same (p : Phase) : Stays p p
  | gathers : Stays (.preparing r g deadline) (.preparing r g' deadline)
  | drops (hcan : p.canDrop = true) (hcall : p.isInCall = false) : Stays p .dropped

/-- nothing was put into a holder, and no job went on -/
structure World.Still (w u : World σ ι) : Prop where
  held : u.served.held = w.served.held
  length : u.jobs.length = w.jobs.length
  phases : ∀ j p, w.phase? j = some p → ∃ q, u.phase? j = some q ∧ p.Stays q

/-- an order of a request, or the order to apply what is held -/
inductive Taken (settings : Settings) (env : Environment) : Order → Prop
  | ordered (h : Ordered settings env o) : Taken settings env o
  | applied (s : Snapshot) : Taken settings env ⟨.change (.apply servedHolder s), 200⟩

/-- what a piece of traffic is to the books -/
inductive Piece [Pattern.Engine] (settings : Settings) (env : Environment) (introspectors : Introspectors ι)
    (g : Gateway ι) : Traffic → Gateway ι → Prop
  | take (ho : Taken settings env o) (hheld : ∀ s, o.task.start.brings? = some s → g.world.served.held = some s)
      (hplain : t ≠ .applyHeld → o.task.start.brings? = none) : Piece settings env introspectors g t (g.take o)
  | advance (hp : g.world.phase? job = some p)
      (hm : Move (Server.setup settings env introspectors) job g.world p q u) :
      Piece settings env introspectors g (.advance job)
        { g with world := u.setPhase job q, commits := g.commits ++ if p.isCommitting then [job] else [] }
  | still (h : g.world.Still w) : Piece settings env introspectors g t { g with world := w }

section Pieces

namespace World

theorem Still.before {w u : World σ ι} (h : w.Still u) {j : Nat} {q : Phase} (hq : u.phase? j = some q) :
    ∃ p, w.phase? j = some p ∧ p.Stays q := by
  have hj : j < w.jobs.length := h.length ▸ lt_jobs_of_phase? hq
  obtain ⟨q', hq', hstays⟩ := h.phases j _ (List.getElem?_eq_getElem hj)
  obtain rfl := Option.some.inj (hq'.symm.trans hq)
  exact ⟨_, List.getElem?_eq_getElem hj, hstays⟩

theorem still_setPhase {w u : World σ ι} {job : Nat} {p q : Phase} (hheld : u.served.held = w.served.held)
    (hjobs : u.jobs = w.jobs) (hp : w.phase? job = some p) (hstays : p.Stays q) : w.Still (u.setPhase job q) := by
  refine ⟨hheld, by simp [setPhase, hjobs], fun j r hr => ?_⟩
  by_cases hj : j = job
  · subst hj
    obtain rfl := Option.some.inj (hp.symm.trans hr)
    exact ⟨q, phase?_moved hjobs hp q, hstays⟩
  · exact ⟨r, (phase?_other hjobs hj q).trans hr, .same r⟩

end World

variable [Pattern.Engine] {settings : Settings} {env : Environment} {introspectors : Introspectors ι} {g g' : Gateway ι}

/-- **A piece of traffic is an order, a move, or nothing that matters to the books** -/
theorem piece_of_serve (hg : g.world.Served) (h : Serve settings env introspectors g t g') :
    Piece settings env introspectors g t g' := by
  cases h with
  | take ho =>
    have hordered := ordered_of_plan ho
    have hnone : ∀ {o}, Ordered settings env o → o.task.start.brings? = none := fun h => by cases h <;> rfl
    exact .take (.ordered hordered) (fun s hs => by simp [hnone hordered] at hs) fun _ => hnone hordered
  | apply hheld =>
    refine .take (.applied _) (fun s hs => ?_) fun h => absurd rfl h
    cases hs
    exact hheld
  | advance hp hm => exact .advance hp hm
  | settle hs =>
    refine .still ?_
    cases hs with
    | settle hp => exact World.still_setPhase rfl rfl hp .gathers
    | resettle hp => exact (hg.serves _ _ hp).elim
  | linger hs =>
    refine .still ?_
    cases hs
    exact ⟨rfl, rfl, fun j p hp => ⟨p, hp, .same p⟩⟩
  | tick hs =>
    refine .still ?_
    cases hs
    exact ⟨rfl, rfl, fun j p hp => ⟨p, hp, .same p⟩⟩
  | hangUp hp hcall hs =>
    refine .still ?_
    cases hs with
    | drop hp' hcan =>
      obtain rfl := Option.some.inj (hp.symm.trans hp')
      obtain ⟨h₁, h₂, h₃⟩ := World.still_setPhase (u := g.world) rfl rfl hp (.drops hcan hcall)
      exact ⟨h₁, h₂, h₃⟩

end Pieces

/-! ## Orders and the jobs that carry them out -/

/-- what a job in a phase has from its order; what is installed was read from it -/
def Phase.Carries (o : Order) : Phase → Prop
  | .considering a => o.task = .amend a
  | .locking (.edit _ make) => ∃ a, o.task = .amend a ∧ a.make = .ok make
  | .installing _ c _ => c.IsProper
  | _ => True

/-- every job carries out an order, and all snapshots are proper -/
structure Gateway.Carried (settings : Settings) (env : Environment) (g : Gateway ι) : Prop where
  served : g.world.Served
  length : g.orders.length = g.world.jobs.length
  carries : ∀ j p, g.world.phase? j = some p → ∃ o, g.orders[j]? = some o ∧ Taken settings env o ∧ p.Carries o
  proper : ∀ s, g.world.Knows s → s.config.IsProper

section Carried

variable {settings : Settings} {env : Environment} {introspectors : Introspectors ι} {g g' : Gateway ι}

theorem stays_carries {p q : Phase} {o : Order} (hs : p.Stays q) (h : p.Carries o) : q.Carries o := by
  cases hs with
  | same => exact h
  | gathers => trivial
  | drops => trivial

theorem stays_snapshots {p q : Phase} (h : p.Stays q) : ∀ s ∈ q.snapshots, s ∈ p.snapshots := by
  cases h with
  | same => exact fun _ hs => hs
  | gathers => exact fun _ hs => hs
  | drops => exact fun _ hs => by cases hs

theorem start_carries {o : Order} (h : Taken settings env o) : o.task.start.Carries o := by
  cases h with
  | ordered h => cases h <;> trivial
  | applied => trivial

/-- **A change of what is held is the edit that its order asks for** -/
theorem edit_of_locking (hg : g.Carried settings env) {job i : Nat}
    {make : RuntimeConfig → Except GatewayError RuntimeConfig} {c : RuntimeConfig}
    (hp : g.world.phase? job = some (.locking (.edit i make))) (hmake : (g.world.holder i).config >>= make = .ok c) :
    ∃ t o, g.world.served.held = some t ∧ g.orders[job]? = some o ∧ Edit settings env t.config o c := by
  obtain rfl := hg.served.serves job _ hp
  obtain ⟨d, hd, hmake⟩ := ok_of_bind hmake
  obtain ⟨t, ht, rfl⟩ := World.config_ok hd
  obtain ⟨o, ho, htaken, a, htask, ha⟩ := hg.carries job _ hp
  cases htaken with
  | ordered hordered => exact ⟨t, o, ht, ho, edit_of_make hordered htask ha (hg.proper t (Or.inl ht)) hmake⟩
  | applied => cases htask

theorem proper_makes (hg : g.Carried settings env) {job : Nat} {p : Phase} {c : RuntimeConfig}
    (hp : g.world.phase? job = some p) (hmakes : g.world.Makes p c) : c.IsProper := by
  cases hmakes with
  | install =>
    obtain ⟨o, -, -, hproper⟩ := hg.carries job _ hp
    exact hproper
  | edit hmake =>
    obtain ⟨t, o, ht, -, hedit⟩ := edit_of_locking hg hp hmake
    exact proper_edit (hg.proper t (Or.inl ht)) hedit

variable [Pattern.Engine]

theorem move_carries {w u : World Services ι} {job : Nat} {p q : Phase} {o : Order}
    (hm : Move (Server.setup settings env introspectors) job w p q u) (h : p.Carries o) : q.Carries o := by
  cases hm with
  | readable hread => exact proper_first hread
  | install => split_ifs <;> trivial
  | accept _ hmake => exact ⟨_, h, hmake⟩
  | _ => trivial

/-- **All traffic keeps orders and jobs together** -/
theorem carried_serve (hg : g.Carried settings env) (h : Serve settings env introspectors g t g') :
    g'.Carried settings env := by
  have hserved := served_serve hg.served h
  cases piece_of_serve hg.served h with
  | take ho hheld hplain =>
    refine ⟨hserved, ?_, fun j p hp => ?_, fun s hs => ?_⟩
    · simp [Gateway.take, World.submit, hg.length]
    · rcases World.phase?_submit_cases hp with hp | ⟨rfl, rfl⟩
      · obtain ⟨o', ho', htaken, hcarries⟩ := hg.carries j p hp
        refine ⟨o', ?_, htaken, hcarries⟩
        rw [← ho']
        exact List.getElem?_append_left (hg.length ▸ World.lt_jobs_of_phase? hp)
      · refine ⟨_, ?_, ho, start_carries ho⟩
        rw [← hg.length]
        simp [Gateway.take]
    · rcases hs with hs | ⟨j, p, hp, hs⟩
      · exact hg.proper s (Or.inl hs)
      · rcases World.phase?_submit_cases hp with hp | ⟨-, rfl⟩
        · exact hg.proper s (Or.inr ⟨j, p, hp, hs⟩)
        · rw [Phase.snapshots_of_free (World.start_plain _).1, Option.mem_toList] at hs
          exact hg.proper s (Or.inl (hheld s hs))
  | advance hp hm =>
    refine ⟨hserved, ?_, fun j r hr => ?_, fun s hs => ?_⟩
    · rw [hg.length]
      simp [World.setPhase, World.move_jobs hm]
    · rcases World.phase?_setPhase_cases (World.move_jobs hm) hp hr with ⟨rfl, rfl⟩ | ⟨-, hr⟩
      · obtain ⟨o, ho, htaken, hcarries⟩ := hg.carries j _ hp
        exact ⟨o, ho, htaken, move_carries hm hcarries⟩
      · exact hg.carries j r hr
    · rcases World.knows_moved hp hm hs with hs | hs
      · rcases World.move_snapshots hg.served hp hm with ⟨-, hold⟩ | ⟨-, c, hmakes, hnew⟩
        · exact hg.proper s (hold s hs)
        · rcases hnew s hs with hs | rfl
          · exact hg.proper s hs
          · exact proper_makes hg hp hmakes
      · exact hg.proper s hs
  | still hstill =>
    refine ⟨hserved, hg.length.trans hstill.length.symm, fun j q hq => ?_, fun s hs => ?_⟩
    · obtain ⟨p, hp, hstays⟩ := hstill.before hq
      obtain ⟨o, ho, htaken, hcarries⟩ := hg.carries j p hp
      exact ⟨o, ho, htaken, stays_carries hstays hcarries⟩
    · rcases hs with hs | ⟨j, q, hq, hs⟩
      · exact hg.proper s (Or.inl (hstill.held.symm.trans hs))
      · obtain ⟨p, hp, hstays⟩ := hstill.before hq
        exact hg.proper s (Or.inr ⟨j, p, hp, stays_snapshots hstays s hs⟩)

end Carried

/-! ## Commits -/

/-- what is true of the jobs that have committed -/
structure Gateway.Booked (g : Gateway ι) : Prop where
  distinct : g.commits.Nodup
  late : ∀ j ∈ g.commits, ∃ p, g.world.phase? j = some p ∧ p.isLate = true
  last : ∀ j p, g.world.phase? j = some p → p.isInForce = true → g.commits.getLast? = some j
  made : ∀ j report, g.world.phase? j = some (.finished (.changed (.ok report))) → j ∈ g.commits

section Booked

theorem isLocked_of_isInForce {p : Phase} (h : p.isInForce = true) : p.isLocked = true := by
  cases p <;> first | rfl | cases h

/-- a snapshot is in force after a commit, and until the change is done or undone -/
theorem move_inForce {setup : Setup σ ι} {w u : World σ ι} {job : Nat} {p q : Phase} (hm : Move setup job w p q u)
    (hq : q.isInForce = true) : p.isInForce = true ∨ p.isCommitting = true := by
  cases hm with
  | commit => exact Or.inr rfl
  | install => split_ifs at hq <;> cases hq
  | refused _ _ hpurpose => exact Or.inl (by simp [Phase.isInForce, Purpose.isService, hpurpose])
  | document hpurpose => exact Or.inl (by simp [Phase.isInForce, Purpose.isService, hpurpose])
  | skip hpurpose => exact Or.inl (by simp [Phase.isInForce, Purpose.isService, hpurpose])
  | _ => first | exact Or.inl hq | cases hq

theorem stays_late {p q : Phase} (h : p.Stays q) (hp : p.isLate = true) : q.isLate = true := by
  cases h with
  | same => exact hp
  | gathers => cases hp
  | drops => rfl

theorem stays_inForce {p q : Phase} (h : p.Stays q) (hq : q.isInForce = true) : q = p := by
  cases h with
  | same => rfl
  | gathers => cases hq
  | drops => cases hq

theorem stays_finished {p : Phase} {result : JobResult} (h : p.Stays (.finished result)) : p = .finished result := by
  cases h
  rfl

theorem start_ne_finished (t : Task) (result : JobResult) : t.start ≠ .finished result := by
  cases t <;> exact fun h => by cases h

variable [Pattern.Engine] {settings : Settings} {env : Environment} {introspectors : Introspectors ι} {g g' : Gateway ι}

theorem booked_commit (hw : g.world.Served) (hg : g.Booked) {job : Nat} {p q : Phase} {u : World Services ι}
    (hp : g.world.phase? job = some p) (hcommits : p.isCommitting = true)
    (hm : Move (Server.setup settings env introspectors) job g.world p q u) :
    Gateway.Booked { g with world := u.setPhase job q, commits := g.commits ++ [job] } := by
  have hjobs := World.move_jobs hm
  have hstep : Step (Server.setup settings env introspectors) g.world (.advance job) (u.setPhase job q) :=
    .advance hp hm
  have hlocked : p.isLocked = true := by
    cases p <;> first | rfl | cases hcommits
  have hearly : p.isLate = false := by
    cases p <;> first | rfl | cases hcommits
  have hq : q.isLate = true ∧ ∀ result, q ≠ .finished result := by
    cases hm with
    | commit => exact ⟨rfl, fun _ h => by cases h⟩
    | _ => cases hcommits
  refine ⟨?_, fun j hj => ?_, fun j r hr hforce => ?_, fun j report hr => ?_⟩
  · refine List.nodup_append.2 ⟨hg.distinct, List.nodup_singleton _, fun j hj k hk => ?_⟩
    obtain rfl := List.mem_singleton.1 hk
    rintro rfl
    obtain ⟨p', hp', hlate⟩ := hg.late j hj
    obtain rfl := Option.some.inj (hp.symm.trans hp')
    rw [hearly] at hlate
    cases hlate
  · rcases List.mem_append.1 hj with hj | hj
    · exact World.late_step hstep (hg.late j hj)
    · obtain rfl := List.mem_singleton.1 hj
      exact ⟨q, World.phase?_moved hjobs hp q, hq.1⟩
  · rcases World.phase?_setPhase_cases hjobs hp hr with ⟨rfl, rfl⟩ | ⟨hne, hr⟩
    · exact List.getLast?_concat
    · have hother := hw.sound.alone j r hr (isLocked_of_isInForce hforce)
      exact absurd (Option.some.inj (hother.symm.trans (hw.sound.alone job p hp hlocked))) hne
  · rcases World.phase?_setPhase_cases hjobs hp hr with ⟨rfl, rfl⟩ | ⟨-, hr⟩
    · exact absurd rfl (hq.2 _)
    · exact List.mem_append_left _ (hg.made j report hr)

theorem booked_move (hg : g.Booked) {job : Nat} {p q : Phase} {u : World Services ι}
    (hp : g.world.phase? job = some p) (hcommits : p.isCommitting = false)
    (hm : Move (Server.setup settings env introspectors) job g.world p q u) :
    Gateway.Booked { g with world := u.setPhase job q } := by
  have hjobs := World.move_jobs hm
  have hstep : Step (Server.setup settings env introspectors) g.world (.advance job) (u.setPhase job q) :=
    .advance hp hm
  refine ⟨hg.distinct, fun j hj => World.late_step hstep (hg.late j hj), fun j r hr hforce => ?_, fun j report hr => ?_⟩
  · rcases World.phase?_setPhase_cases hjobs hp hr with ⟨rfl, rfl⟩ | ⟨-, hr⟩
    · rcases move_inForce hm hforce with hforce | h
      · exact hg.last j p hp hforce
      · rw [hcommits] at h
        cases h
    · exact hg.last j r hr hforce
  · rcases World.phase?_setPhase_cases hjobs hp hr with ⟨rfl, rfl⟩ | ⟨-, hr⟩
    · generalize hq : Phase.finished _ = q at hm
      cases hm with
      | succeed => exact List.mem_of_getLast? (hg.last j _ hp rfl)
      | install =>
        split_ifs at hq
        cases hq
      | _ => cases hq
    · exact hg.made j report hr

/-- **All traffic keeps the books of commits** -/
theorem booked_serve (hw : g.world.Served) (hg : g.Booked) (h : Serve settings env introspectors g t g') :
    g'.Booked := by
  cases piece_of_serve hw h with
  | take =>
    refine ⟨hg.distinct, fun j hj => ?_, fun j p hp hforce => ?_, fun j report hp => ?_⟩
    · obtain ⟨p, hp, hlate⟩ := hg.late j hj
      exact ⟨p, (World.phase?_submit_of_lt _ _ (World.lt_jobs_of_phase? hp)).trans hp, hlate⟩
    · rcases World.phase?_submit_cases hp with hp | ⟨-, rfl⟩
      · exact hg.last j p hp hforce
      · have := isLocked_of_isInForce hforce
        rw [(World.start_plain _).1] at this
        cases this
    · rcases World.phase?_submit_cases hp with hp | ⟨-, hstart⟩
      · exact hg.made j report hp
      · exact absurd hstart.symm (start_ne_finished _ _)
  | advance hp hm =>
    rename_i job p q u
    cases hcommits : p.isCommitting with
    | true => exact booked_commit hw hg hp hcommits hm
    | false =>
      obtain ⟨h₁, h₂, h₃, h₄⟩ := booked_move hg hp hcommits hm
      simp only [Bool.false_eq_true, if_false, List.append_nil]
      exact ⟨h₁, h₂, h₃, h₄⟩
  | still hstill =>
    refine ⟨hg.distinct, fun j hj => ?_, fun j q hq hforce => ?_, fun j report hq => ?_⟩
    · obtain ⟨p, hp, hlate⟩ := hg.late j hj
      obtain ⟨q, hq, hstays⟩ := hstill.phases j p hp
      exact ⟨q, hq, stays_late hstays hlate⟩
    · obtain ⟨p, hp, hstays⟩ := hstill.before hq
      obtain rfl := stays_inForce hstays hforce
      exact hg.last j _ hp hforce
    · obtain ⟨p, hp, hstays⟩ := hstill.before hq
      obtain rfl := stays_finished hstays
      exact hg.made j report hp

end Booked

/-! ## Requests that are acknowledged -/

namespace Gateway

/-- the response to the request of a job that has come to its end -/
def answer? (g : Gateway ι) (job : Nat) : Option Response :=
  match g.orders[job]?, g.world.result? job with
  | some o, some result => some (JobResult.response o.success result)
  | _, _ => none

/-- whether the request of a job was answered with a success -/
def isAcknowledged (g : Gateway ι) (job : Nat) : Bool := (g.answer? job).any fun r => 200 ≤ r.status && r.status < 300

end Gateway

def Phase.isMade : Phase → Bool
  | .finished (.changed (.ok _)) => true
  | _ => false

section Acknowledged

variable {settings : Settings} {env : Environment} {g : Gateway ι}

/-- no error is answered with a success -/
theorem le_status (e : GatewayError) : 400 ≤ e.status.1 := by
  unfold GatewayError.status
  split <;> decide

theorem error_not_acknowledged (e : GatewayError) :
    (decide (200 ≤ (Response.error e).status) && decide ((Response.error e).status < 300)) = false := by
  have h : 400 ≤ (Response.error e).status := le_status e
  have hlate : ¬ (Response.error e).status < 300 := by omega
  simp [hlate]

theorem success_of_taken {o : Order} (h : Taken settings env o) : o.success = 200 ∨ o.success = 201 := by
  cases h with
  | ordered h => cases h <;> first | exact Or.inl rfl | exact Or.inr rfl
  | applied => exact Or.inl rfl

/-- **A request is acknowledged if its change was made**, and only then -/
theorem isAcknowledged_iff (hg : g.Carried settings env) (j : Nat) :
    g.isAcknowledged j = (g.world.phase? j).any Phase.isMade := by
  unfold Gateway.isAcknowledged Gateway.answer? World.result?
  cases hp : g.world.phase? j with
  | none => cases g.orders[j]? <;> rfl
  | some p =>
    obtain ⟨o, ho, htaken, -⟩ := hg.carries j p hp
    have hserves := hg.served.serves j p hp
    have hsuccess := success_of_taken htaken
    simp only [ho]
    cases p with
    | finished result =>
      cases result with
      | changed result =>
        cases result with
        | ok report =>
          show (decide (200 ≤ o.success) && decide (o.success < 300)) = true
          rcases hsuccess with h | h <;> rw [h] <;> rfl
        | error e => exact error_not_acknowledged (.change e)
      | refused e => exact error_not_acknowledged e
      | installed => exact hserves.elim
      | initialized => exact hserves.elim
    | _ => rfl

end Acknowledged

end EntityGateway
