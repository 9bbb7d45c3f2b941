/-
No edit is lost.

From a moment on at which a configuration is held and nothing is being changed, the configuration that is held is what
was held then, with the edits of the acknowledged requests made since, one after another in the order of their commits.
A change reads what is held after it has taken the lock, and whatever fails puts back what it read.

- `Ledger`: what is held or put back is what the acknowledged edits come to, and a change under way is one edit more;
- `ledger_serve`: every piece of traffic keeps to this;
- `no_edit_is_lost`: the whole of it, along all traffic.
-/
import EntityGateway.Proofs.Served.Bookkeeping

namespace EntityGateway

open Http

/-! ## The ledger -/

namespace Gateway

/-- the jobs that were acknowledged, but for those among some first commits, in the order of their commits -/
def acknowledged (g : Gateway ι) (n : Nat) : List Nat := (g.commits.drop n).filter g.isAcknowledged

def ordersOf (g : Gateway ι) (jobs : List Nat) : List Order := jobs.filterMap (g.orders[·]?)

/-- a configuration is held, or is to be put back, and a change under way is an edit of it -/
structure Basis (settings : Settings) (env : Environment) (g : Gateway ι) (c : RuntimeConfig) : Prop where
  rest : (∀ j p, g.world.phase? j = some p → p.isInForce = false) → ∃ s, g.world.served.held = some s ∧ s.config = c
  runs : ∀ j p r, g.world.phase? j = some p → p.run? = some r →
    (∃ t, r.checkpoint.target = some t ∧ t.config = c) ∧
      ∃ o, g.orders[j]? = some o ∧ Edit settings env c o r.snapshot.config

/-- what was done since some first commits, at which a configuration was held -/
structure Ledger (settings : Settings) (env : Environment) (start : RuntimeConfig) (n : Nat) (g : Gateway ι) :
    Prop where
  carried : g.Carried settings env
  booked : g.Booked
  bound : n ≤ g.commits.length
  plain : ∀ j p, g.world.phase? j = some p → p.brings? = none
  later : ∀ j p, g.world.phase? j = some p → p.isInForce = true → n < g.commits.length
  edited : ∃ c, Edits settings env start (g.ordersOf (g.acknowledged n)) c ∧ g.Basis settings env c

end Gateway

section Ledger

variable {settings : Settings} {env : Environment} {introspectors : Introspectors ι} {g g' : Gateway ι}
  {start c : RuntimeConfig} {n : Nat} {job : Nat} {p q : Phase} {u : World Services ι}

/-! ## Acknowledged jobs -/

theorem ordersOf_append (jobs jobs' : List Nat) : g.ordersOf (jobs ++ jobs') = g.ordersOf jobs ++ g.ordersOf jobs' :=
  List.filterMap_append

theorem ordersOf_singleton {o : Order} (h : g.orders[job]? = some o) : g.ordersOf [job] = [o] := by
  simp [Gateway.ordersOf, h]

theorem acknowledged_eq (hg : g.Carried settings env) (n : Nat) :
    g.acknowledged n = (g.commits.drop n).filter fun j => (g.world.phase? j).any Phase.isMade :=
  List.filter_congr fun j _ => isAcknowledged_iff hg j

theorem ordersOf_acknowledged_congr (hg : g.Carried settings env) (hg' : g'.Carried settings env)
    (hcommits : g'.commits = g.commits)
    (hmade : ∀ j ∈ g.commits, (g'.world.phase? j).any Phase.isMade = (g.world.phase? j).any Phase.isMade)
    (horders : ∀ j ∈ g.commits, g'.orders[j]? = g.orders[j]?) (n : Nat) :
    g'.ordersOf (g'.acknowledged n) = g.ordersOf (g.acknowledged n) := by
  have hsame : g'.acknowledged n = g.acknowledged n := by
    rw [acknowledged_eq hg, acknowledged_eq hg', hcommits]
    exact List.filter_congr fun j hj => hmade j (List.mem_of_mem_drop hj)
  rw [hsame]
  refine List.filterMap_congr fun j hj => horders j ?_
  exact List.mem_of_mem_drop (List.mem_filter.1 hj).1

theorem finished_of_made {phase : Option Phase} (h : phase.any Phase.isMade = true) :
    ∃ report, phase = some (.finished (.changed (.ok report))) := by
  obtain ⟨p, rfl, hp⟩ := (Option.any_eq_true _ _).1 h
  unfold Phase.isMade at hp
  split at hp
  · exact ⟨_, rfl⟩
  · cases hp

theorem not_made_of_move {setup : Setup σ ι} {w u : World σ ι} (hm : Move setup job w p q u) : p.isMade = false := by
  cases hm <;> rfl

/-- a change is done only by the job with the lock -/
theorem not_made_of_free {setup : Setup σ ι} {w u : World σ ι} (hm : Move setup job w p q u)
    (hp : p.isLocked = false) : q.isMade = false := by
  cases hm with
  | install => split_ifs <;> rfl
  | succeed => cases hp
  | _ => rfl

/-- a move that does not end a change well leaves the acknowledged jobs as they are -/
theorem acknowledged_move [Pattern.Engine] (hg : g.Carried settings env) (hbound : n ≤ g.commits.length)
    (hp : g.world.phase? job = some p) (hm : Move (Server.setup settings env introspectors) job g.world p q u)
    (hq : q.isMade = false) {commits : List Nat} (hcommits : commits = g.commits ∨ commits = g.commits ++ [job])
    (hg' : Gateway.Carried settings env { g with world := u.setPhase job q, commits := commits }) :
    Gateway.acknowledged { g with world := u.setPhase job q, commits := commits } n = g.acknowledged n := by
  have hjobs := World.move_jobs hm
  have hsame : ∀ j, ((u.setPhase job q).phase? j).any Phase.isMade = (g.world.phase? j).any Phase.isMade := by
    intro j
    by_cases hj : j = job
    · subst hj
      rw [World.phase?_moved hjobs hp, hp]
      simp [hq, not_made_of_move hm]
    · rw [World.phase?_other hjobs hj]
  have hjob : ((g.world.phase? job).any Phase.isMade) = false := by simp [hp, not_made_of_move hm]
  rw [acknowledged_eq hg, acknowledged_eq hg']
  simp only [hsame]
  rcases hcommits with rfl | rfl
  · rfl
  · rw [List.drop_append_of_le_length hbound, List.filter_append]
    simp [hjob]

/-- a change that is done is acknowledged after all others -/
theorem acknowledged_succeed [Pattern.Engine] (hg : g.Ledger settings env start n) (hp : g.world.phase? job = some p)
    (hforce : p.isInForce = true) (hm : Move (Server.setup settings env introspectors) job g.world p q u)
    (hq : q.isMade = true) (hg' : Gateway.Carried settings env { g with world := u.setPhase job q }) :
    Gateway.acknowledged { g with world := u.setPhase job q } n = g.acknowledged n ++ [job] := by
  have hjobs := World.move_jobs hm
  obtain ⟨before, hbefore⟩ := List.getLast?_eq_some_iff.1 (hg.booked.last job p hp hforce)
  have hlater := hg.later job p hp hforce
  have hdistinct := hg.booked.distinct
  have hjob : ((g.world.phase? job).any Phase.isMade) = false := by simp [hp, not_made_of_move hm]
  have hjob' : (((u.setPhase job q).phase? job).any Phase.isMade) = true := by
    simp [World.phase?_moved hjobs hp, hq]
  have hn : n ≤ before.length := by
    rw [hbefore] at hlater
    simp at hlater
    omega
  rw [acknowledged_eq hg.carried, acknowledged_eq hg']
  simp only [hbefore, List.drop_append_of_le_length hn, List.filter_append]
  rw [hbefore] at hdistinct
  have hsame : ∀ j ∈ before.drop n,
      ((u.setPhase job q).phase? j).any Phase.isMade = (g.world.phase? j).any Phase.isMade := by
    intro j hj
    have hne : j ≠ job := by
      rintro rfl
      exact (List.nodup_append.1 hdistinct).2.2 j (List.mem_of_mem_drop hj) j (by simp) rfl
    rw [World.phase?_other hjobs hne]
  rw [List.filter_congr hsame]
  simp [hjob, hjob']

/-! ## What is held -/

/-- something is held at every moment: the basis, or one edit of it -/
theorem held_of_basis (hw : g.world.Served) (hc : g.Basis settings env c) :
    ∃ s, g.world.served.held = some s ∧ (s.config = c ∨ ∃ o, Edit settings env c o s.config) := by
  by_cases hforce : ∀ j p, g.world.phase? j = some p → p.isInForce = false
  · obtain ⟨s, hs, hconfig⟩ := hc.rest hforce
    exact ⟨s, hs, Or.inl hconfig⟩
  · simp only [not_forall, Bool.not_eq_false] at hforce
    obtain ⟨j, p, hp, hforce⟩ := hforce
    obtain ⟨r, hr⟩ := Phase.exists_run (isLocked_of_isInForce hforce)
    obtain ⟨t, -, hheld⟩ := (hw.custody j p hp).run r hr
    obtain ⟨-, o, -, hedit⟩ := hc.runs j p r hp hr
    rw [if_pos hforce] at hheld
    exact ⟨r.snapshot, hheld, Or.inr ⟨o, hedit⟩⟩

theorem basis_free [Pattern.Engine] (hw : g.world.Served) (hc : g.Basis settings env c)
    (hp : g.world.phase? job = some p)
    (hfree : p.isLocked = false) (hqfree : q.isLocked = false)
    (hm : Move (Server.setup settings env introspectors) job g.world p q u) {commits : List Nat} :
    Gateway.Basis settings env { g with world := u.setPhase job q, commits := commits } c := by
  have hjobs := World.move_jobs hm
  refine ⟨fun hforce => ?_, fun j r s hr hs => ?_⟩
  · have hforce' : ∀ j p, g.world.phase? j = some p → p.isInForce = false := by
      intro j r hr
      by_cases hj : j = job
      · subst hj
        obtain rfl := Option.some.inj (hp.symm.trans hr)
        exact Phase.isInForce_eq_false hfree
      · exact hforce j r ((World.phase?_other hjobs hj q).trans hr)
    obtain ⟨s, hs, hconfig⟩ := hc.rest hforce'
    rcases World.move_held hw hp hm with hsame | ⟨hl, -⟩ | hnone
    · exact ⟨s, hsame.trans hs, hconfig⟩
    · rw [hfree] at hl
      cases hl
    · rw [hnone] at hs
      cases hs
  · rcases World.phase?_setPhase_cases hjobs hp hr with ⟨rfl, rfl⟩ | ⟨-, hr⟩
    · rw [Phase.run?_eq_none hqfree] at hs
      cases hs
    · exact hc.runs j r s hr hs

/-- a change that begins is an edit of the basis -/
theorem basis_begin [Pattern.Engine] (hg : g.Carried settings env) (hc : g.Basis settings env c)
    (hp : g.world.phase? job = some p)
    (hplain : p.brings? = none) (hfree : p.isLocked = false) (hqlocked : q.isLocked = true)
    (hm : Move (Server.setup settings env introspectors) job g.world p q u) {commits : List Nat} :
    Gateway.Basis settings env { g with world := u.setPhase job q, commits := commits } c := by
  have hjobs := World.move_jobs hm
  cases hm with
  | edit hrun hmake =>
    have hforce : ∀ j p, g.world.phase? j = some p → p.isInForce = false :=
      fun _ _ hr => Phase.isInForce_eq_false (hg.served.sound.free_of_none hrun hr)
    obtain ⟨s, hs, rfl⟩ := hc.rest hforce
    obtain ⟨t, o, ht, ho, hedit⟩ := edit_of_locking hg hp hmake
    obtain rfl := Option.some.inj (hs.symm.trans ht)
    refine ⟨fun _ => ⟨s, hs, rfl⟩, fun j r x hr hx => ?_⟩
    rcases World.phase?_setPhase_cases hjobs hp hr with ⟨rfl, rfl⟩ | ⟨-, hr⟩
    · cases hx
      obtain rfl := hg.served.serves j _ hp
      exact ⟨⟨s, hs, rfl⟩, o, ho, hedit⟩
    · exact hc.runs j r x hr hx
  | apply => cases hplain
  | install => split_ifs at hqlocked <;> cases hqlocked
  | _ => contradiction

theorem basis_go [Pattern.Engine] (hw : g.world.Served) (hc : g.Basis settings env c) (hp : g.world.phase? job = some p)
    (hlocked : p.isLocked = true) (hqlocked : q.isLocked = true)
    (hm : Move (Server.setup settings env introspectors) job g.world p q u) {commits : List Nat} :
    Gateway.Basis settings env { g with world := u.setPhase job q, commits := commits } c := by
  have hjobs := World.move_jobs hm
  have hserved := World.served_advance hw hp hm
  have hq := World.phase?_moved hjobs hp q
  have hruns : ∀ r, q.run? = some r → (∃ t, r.checkpoint.target = some t ∧ t.config = c) ∧
      ∃ o, g.orders[job]? = some o ∧ Edit settings env c o r.snapshot.config :=
    fun r hr => hc.runs job p r hp (World.move_run hm hlocked hqlocked ▸ hr)
  refine ⟨fun hforce => ?_, fun j r s hr hs => ?_⟩
  · obtain ⟨r, hr⟩ := Phase.exists_run hqlocked
    obtain ⟨⟨t, ht, hconfig⟩, -⟩ := hruns r hr
    obtain ⟨t', ht', hheld⟩ := (hserved.custody job q hq).run r hr
    obtain rfl := Option.some.inj (ht.symm.trans ht')
    rw [hforce job q hq] at hheld
    exact ⟨t, hheld, hconfig⟩
  · rcases World.phase?_setPhase_cases hjobs hp hr with ⟨rfl, rfl⟩ | ⟨-, hr⟩
    · exact hruns s hs
    · exact hc.runs j r s hr hs

theorem run?_of_ended {w u : World σ ι} (hw : w.Served) (hp : w.phase? job = some p) (hlocked : p.isLocked = true)
    (hqfree : q.isLocked = false) (hjobs : u.jobs = w.jobs) {j : Nat} {r : Phase}
    (hr : (u.setPhase job q).phase? j = some r) : r.run? = none := by
  rcases World.phase?_setPhase_cases hjobs hp hr with ⟨rfl, rfl⟩ | ⟨hne, hr⟩
  · exact Phase.run?_eq_none hqfree
  · exact Phase.run?_eq_none (hw.sound.free_of_other (hw.sound.alone job p hp hlocked) hr hne)

/-- **A change that ends** has added its edit and is acknowledged, or has left the basis as it was -/
theorem edited_end [Pattern.Engine] (hg : g.Ledger settings env start n) (hp : g.world.phase? job = some p)
    (hlocked : p.isLocked = true)
    (hqfree : q.isLocked = false) (hm : Move (Server.setup settings env introspectors) job g.world p q u)
    (hg' : Gateway.Carried settings env { g with world := u.setPhase job q }) :
    ∃ c, Edits settings env start
        (Gateway.ordersOf { g with world := u.setPhase job q }
          (Gateway.acknowledged { g with world := u.setPhase job q } n)) c ∧
      Gateway.Basis settings env { g with world := u.setPhase job q } c := by
  have hjobs := World.move_jobs hm
  have hw := hg.carried.served
  have hmove := hm
  obtain ⟨c, hedits, hbasis⟩ := hg.edited
  have hruns : ∀ j r s, (u.setPhase job q).phase? j = some r → r.run? = some s → False := by
    intro j r s hr hs
    rw [run?_of_ended hw hp hlocked hqfree hjobs hr] at hs
    cases hs
  cases hm with
  | succeed =>
    obtain ⟨t, -, hheld⟩ := (hw.custody job _ hp).run _ rfl
    obtain ⟨-, o, ho, hedit⟩ := hbasis.runs job _ _ hp rfl
    refine ⟨_, ?_, fun _ => ⟨_, hheld, rfl⟩, fun j r s hr hs => (hruns j r s hr hs).elim⟩
    rw [acknowledged_succeed hg hp rfl hmove rfl hg', ordersOf_append, ordersOf_singleton (o := o)]
    · exact .snoc hedits hedit
    · exact ho
  | fail =>
    obtain ⟨t, ht, hheld⟩ := (hw.custody job _ hp).run _ rfl
    obtain ⟨⟨t', ht', hconfig⟩, -⟩ := hbasis.runs job _ _ hp rfl
    obtain rfl := Option.some.inj (ht.symm.trans ht')
    refine ⟨c, ?_, fun _ => ⟨t, hheld, hconfig⟩, fun j r s hr hs => (hruns j r s hr hs).elim⟩
    rw [acknowledged_move hg.carried hg.bound hp hmove rfl (Or.inl rfl) hg']
    exact hedits
  | _ => contradiction

/-! ## Traffic -/

theorem move_plain {setup : Setup σ ι} {w u : World σ ι} (hm : Move setup job w p q u) (hp : p.brings? = none)
    (hinstall : ∀ i c applies, p = .installing i c applies → (w.holder i).held.isSome) : q.brings? = none := by
  cases hm with
  | install hheld =>
    have := hinstall _ _ _ rfl
    rw [hheld] at this
    cases this
  | mark => cases hp
  | _ => rfl

theorem ledger_take (hg : g.Ledger settings env start n) {o : Order} (hplain : o.task.start.brings? = none)
    (hcarried : (g.take o).Carried settings env) (hbooked : (g.take o).Booked) :
    (g.take o).Ledger settings env start n := by
  have hold : ∀ {j p}, g.world.phase? j = some p → (g.take o).world.phase? j = some p :=
    fun hp => (World.phase?_submit_of_lt _ _ (World.lt_jobs_of_phase? hp)).trans hp
  have hfree : o.task.start.isLocked = false := (World.start_plain _).1
  have horder : ∀ {j p}, g.world.phase? j = some p → (g.take o).orders[j]? = g.orders[j]? :=
    fun hp => List.getElem?_append_left (hg.carried.length ▸ World.lt_jobs_of_phase? hp)
  obtain ⟨c, hedits, hbasis⟩ := hg.edited
  refine ⟨hcarried, hbooked, hg.bound, fun j p hp => ?_, fun j p hp hforce => ?_, c, ?_, ?_⟩
  · rcases World.phase?_submit_cases hp with hp | ⟨-, rfl⟩
    · exact hg.plain j p hp
    · exact hplain
  · rcases World.phase?_submit_cases hp with hp | ⟨-, rfl⟩
    · exact hg.later j p hp hforce
    · rw [Phase.isInForce_eq_false hfree] at hforce
      cases hforce
  · rw [ordersOf_acknowledged_congr hg.carried hcarried rfl (fun j hj => ?_) fun j hj => ?_]
    · exact hedits
    · obtain ⟨p, hp, -⟩ := hg.booked.late j hj
      rw [hp, hold hp]
    · obtain ⟨p, hp, -⟩ := hg.booked.late j hj
      exact horder hp
  · refine ⟨fun hforce => hbasis.rest fun j p hp => hforce j p (hold hp), fun j p r hp hr => ?_⟩
    rcases World.phase?_submit_cases hp with hp | ⟨-, rfl⟩
    · rw [horder hp]
      exact hbasis.runs j p r hp hr
    · rw [Phase.run?_eq_none hfree] at hr
      cases hr

theorem ledger_move [Pattern.Engine] (hg : g.Ledger settings env start n) (hp : g.world.phase? job = some p)
    (hm : Move (Server.setup settings env introspectors) job g.world p q u) {commits : List Nat}
    (hcommits : commits = g.commits ++ if p.isCommitting then [job] else [])
    (hcarried : Gateway.Carried settings env { g with world := u.setPhase job q, commits := commits })
    (hbooked : Gateway.Booked { g with world := u.setPhase job q, commits := commits }) :
    Gateway.Ledger settings env start n { g with world := u.setPhase job q, commits := commits } := by
  have hw := hg.carried.served
  have hjobs := World.move_jobs hm
  obtain ⟨c, hedits, hbasis⟩ := hg.edited
  obtain ⟨s, hs, -⟩ := held_of_basis hw hbasis
  have hmore : commits = g.commits ∨ commits = g.commits ++ [job] := by
    rw [hcommits]
    split_ifs
    · exact Or.inr rfl
    · exact Or.inl (List.append_nil _)
  have hlength : g.commits.length ≤ commits.length := by
    rcases hmore with rfl | rfl <;> simp
  refine ⟨hcarried, hbooked, hg.bound.trans hlength, fun j r hr => ?_, fun j r hr hforce => ?_, ?_⟩
  · rcases World.phase?_setPhase_cases hjobs hp hr with ⟨rfl, rfl⟩ | ⟨-, hr⟩
    · refine move_plain hm (hg.plain j p hp) fun i c applies hinstall => ?_
      subst hinstall
      obtain ⟨rfl, -⟩ := hw.serves j _ hp
      exact Option.isSome_iff_exists.2 ⟨s, hs⟩
    · exact hg.plain j r hr
  · rcases World.phase?_setPhase_cases hjobs hp hr with ⟨rfl, rfl⟩ | ⟨-, hr⟩
    · rcases move_inForce hm hforce with hforce | hcommitting
      · exact lt_of_lt_of_le (hg.later j p hp hforce) hlength
      · have hbound := hg.bound
        rw [hcommits, if_pos hcommitting]
        simp
        omega
    · exact lt_of_lt_of_le (hg.later j r hr hforce) hlength
  · cases hlocked : p.isLocked with
    | true =>
      cases hqlocked : q.isLocked with
      | true =>
        refine ⟨c, ?_, basis_go hw hbasis hp hlocked hqlocked hm⟩
        have hq : q.isMade = false := by
          cases q <;> first | rfl | cases hqlocked
        rw [acknowledged_move hg.carried hg.bound hp hm hq hmore hcarried]
        exact hedits
      | false =>
        have hnone : p.isCommitting = false := by
          cases hm <;> first | rfl | contradiction
        rw [hnone] at hcommits
        simp only [Bool.false_eq_true, if_false, List.append_nil] at hcommits
        subst hcommits
        exact edited_end hg hp hlocked hqlocked hm hcarried
    | false =>
      have hq := not_made_of_free hm hlocked
      have hedits' : Edits settings env start (Gateway.ordersOf { g with world := u.setPhase job q, commits := commits }
          (Gateway.acknowledged { g with world := u.setPhase job q, commits := commits } n)) c := by
        rw [acknowledged_move hg.carried hg.bound hp hm hq hmore hcarried]
        exact hedits
      cases hqlocked : q.isLocked with
      | true => exact ⟨c, hedits', basis_begin hg.carried hbasis hp (hg.plain job p hp) hlocked hqlocked hm⟩
      | false => exact ⟨c, hedits', basis_free hw hbasis hp hlocked hqlocked hm⟩

theorem ledger_still (hg : g.Ledger settings env start n) (h : g.world.Still u)
    (hcarried : Gateway.Carried settings env { g with world := u }) (hbooked : Gateway.Booked { g with world := u }) :
    Gateway.Ledger settings env start n { g with world := u } := by
  obtain ⟨c, hedits, hbasis⟩ := hg.edited
  refine ⟨hcarried, hbooked, hg.bound, fun j q hq => ?_, fun j q hq hforce => ?_, c, ?_, ?_⟩
  · obtain ⟨p, hp, hstays⟩ := h.before hq
    cases hstays with
    | same => exact hg.plain j _ hp
    | gathers => rfl
    | drops => rfl
  · obtain ⟨p, hp, hstays⟩ := h.before hq
    obtain rfl := stays_inForce hstays hforce
    exact hg.later j _ hp hforce
  · rw [ordersOf_acknowledged_congr hg.carried hcarried rfl (fun j hj => ?_) fun _ _ => rfl]
    · exact hedits
    · obtain ⟨p, hp, hlate⟩ := hg.booked.late j hj
      obtain ⟨q, hq, hstays⟩ := h.phases j p hp
      rw [hp, hq]
      cases hstays with
      | same => rfl
      | gathers => rfl
      | drops hcan => cases p <;> first | rfl | cases hcan
  · refine ⟨fun hforce => ?_, fun j q r hq hr => ?_⟩
    · have hforce' : ∀ j p, g.world.phase? j = some p → p.isInForce = false := by
        intro j p hp
        obtain ⟨q, hq, hstays⟩ := h.phases j p hp
        cases hstays with
        | same => exact hforce j _ hq
        | gathers => rfl
        | drops hcan hcall => cases p <;> first | rfl | contradiction
      obtain ⟨s, hs, hconfig⟩ := hbasis.rest hforce'
      exact ⟨s, h.held.trans hs, hconfig⟩
    · obtain ⟨p, hp, hstays⟩ := h.before hq
      cases hstays with
      | same => exact hbasis.runs j _ r hp hr
      | gathers => exact hbasis.runs j _ r hp hr
      | drops => cases hr

/-- **Every piece of traffic but the start keeps the ledger** -/
theorem ledger_serve [Pattern.Engine] (hg : g.Ledger settings env start n) (ht : t ≠ .applyHeld)
    (h : Serve settings env introspectors g t g') : g'.Ledger settings env start n := by
  have hcarried := carried_serve hg.carried h
  have hbooked := booked_serve hg.carried.served hg.booked h
  cases piece_of_serve hg.carried.served h with
  | take ho hheld hplain => exact ledger_take hg (hplain ht) hcarried hbooked
  | advance hp hm => exact ledger_move hg hp hm rfl hcarried hbooked
  | still hstill => exact ledger_still hg hstill hcarried hbooked

/-! ## From the start -/

theorem carried_boot {config : Option RuntimeConfig} (hconfig : ∀ c, config = some c → c.IsProper) (memory : ι) :
    (Gateway.boot config memory).Carried settings env := by
  have hnone : ∀ j, (Gateway.boot config memory).world.phase? j = none := fun _ => rfl
  refine ⟨served_boot config memory, rfl, fun j p hp => ?_, fun s hs => ?_⟩
  · rw [hnone] at hp
    cases hp
  · rcases hs with hs | ⟨j, p, hp, -⟩
    · cases config with
      | none => cases hs
      | some c =>
        cases hs
        exact hconfig c rfl
    · rw [hnone] at hp
      cases hp

theorem booked_boot (config : Option RuntimeConfig) (memory : ι) : (Gateway.boot config memory).Booked := by
  have hnone : ∀ j, (Gateway.boot config memory).world.phase? j = none := fun _ => rfl
  refine ⟨List.nodup_nil, fun j hj => (by cases hj), fun j p hp => ?_, fun j report hp => ?_⟩
  · rw [hnone] at hp
    cases hp
  · rw [hnone] at hp
    cases hp

variable (settings env introspectors) in
theorem books_run [Pattern.Engine] {config : Option RuntimeConfig} (hconfig : ∀ c, config = some c → c.IsProper)
    (memory : ι)
    (l : List Traffic) :
    ((Gateway.boot config memory).run settings env introspectors l).Carried settings env ∧
      ((Gateway.boot config memory).run settings env introspectors l).Booked :=
  invariant_traffic (P := fun g => g.Carried settings env ∧ g.Booked)
    (fun _ _ _ _ hg h => ⟨carried_serve hg.1 h, booked_serve hg.1.served hg.2 h⟩)
    ⟨carried_boot hconfig memory, booked_boot config memory⟩

theorem ledger_start (hcarried : g.Carried settings env) (hbooked : g.Booked) {s : Snapshot}
    (hheld : g.world.served.held = some s) (hrun : g.world.running = none)
    (hplain : ∀ j p, g.world.phase? j = some p → p.brings? = none) :
    g.Ledger settings env s.config g.commits.length := by
  have hfree : ∀ {j p}, g.world.phase? j = some p → p.isLocked = false :=
    fun hp => hcarried.served.sound.free_of_none hrun hp
  refine ⟨hcarried, hbooked, le_rfl, hplain, fun j p hp hforce => ?_, s.config, ?_, fun _ => ⟨s, hheld, rfl⟩, ?_⟩
  · rw [Phase.isInForce_eq_false (hfree hp)] at hforce
    cases hforce
  · simp only [Gateway.acknowledged, List.drop_length]
    exact .nil
  · intro j p r hp hr
    rw [Phase.run?_eq_none (hfree hp)] at hr
    cases hr

variable (introspectors) in
/-- the ledger holds along all traffic without a start -/
theorem ledger_run [Pattern.Engine] (hg : g.Ledger settings env start n) {l : List Traffic} (hl : .applyHeld ∉ l) :
    (g.run settings env introspectors l).Ledger settings env start n :=
  invariant_traffic (P := fun g => g.Ledger settings env start n)
    (fun _ ht _ _ hg h => ledger_serve hg (fun heq => hl (heq ▸ ht)) h) hg

/-- the GraphQL schema that is held is that of the start -/
theorem schema_of_ledger (hg : g.Ledger settings env start n) :
    ∃ s, g.world.served.held = some s ∧ s.config.graphqlSchema = start.graphqlSchema := by
  obtain ⟨c, hedits, hbasis⟩ := hg.edited
  obtain ⟨s, hs, rfl | ⟨o, hedit⟩⟩ := held_of_basis hg.carried.served hbasis
  · exact ⟨s, hs, edits_schema hedits⟩
  · exact ⟨s, hs, (edit_schema hedit).trans (edits_schema hedits)⟩

/-- while nobody has the lock, what is held is what the acknowledged edits come to -/
theorem edits_of_ledger (hg : g.Ledger settings env start n) (hrun : g.world.running = none) {s : Snapshot}
    (hs : g.world.served.held = some s) : Edits settings env start (g.ordersOf (g.acknowledged n)) s.config := by
  obtain ⟨c, hedits, hbasis⟩ := hg.edited
  obtain ⟨s', hs', rfl⟩ := hbasis.rest fun j p hp =>
    Phase.isInForce_eq_false (hg.carried.served.sound.free_of_none hrun hp)
  obtain rfl := Option.some.inj (hs.symm.trans hs')
  exact hedits

/-- an entity that was acknowledged is held until a later reload is -/
theorem entity_of_edits {d : RuntimeConfig} {jobs earlier later : List Nat} {post : EntityPost}
    (h : Edits settings env start (g.ordersOf jobs) d) (hjobs : jobs = earlier ++ job :: later)
    (horder : g.orders[job]? = some post.order)
    (hlater : ∀ k ∈ later, ∀ r : ReloadPost, g.orders[k]? ≠ some (r.order settings env)) :
    d.entities.get? post.name = some post.entity := by
  have horders : g.ordersOf jobs = g.ordersOf earlier ++ post.order :: g.ordersOf later := by
    rw [hjobs, ordersOf_append]
    simp [Gateway.ordersOf, horder]
  refine edits_entity h horders fun r hr => ?_
  obtain ⟨k, hk, horder⟩ := List.mem_filterMap.1 hr
  exact hlater k hk r horder

/-- the jobs in the ledger are those that were acknowledged after its start -/
theorem mem_acknowledged [Pattern.Engine] {g₀ : Gateway ι} {l : List Traffic} (hcarried₀ : g₀.Carried settings env)
    (hbooked₀ : g₀.Booked) (hrun : g₀.world.running = none) (hg : g = g₀.run settings env introspectors l)
    (hcarried : g.Carried settings env) (hbooked : g.Booked) (j : Nat) :
    j ∈ g.acknowledged g₀.commits.length ↔ g.isAcknowledged j = true ∧ g₀.world.result? j = none := by
  obtain ⟨rest, hrest⟩ := commits_traffic settings env introspectors g₀ l
  rw [← hg] at hrest
  have hdistinct := hbooked.distinct
  rw [← hrest] at hdistinct
  have hmem : j ∈ g.acknowledged g₀.commits.length ↔ j ∈ rest ∧ g.isAcknowledged j = true := by
    simp only [Gateway.acknowledged, ← hrest, List.drop_left, List.mem_filter]
  rw [hmem, isAcknowledged_iff hcarried j]
  constructor
  · -- what had a result at the start was committed before it
    rintro ⟨hj, hmade⟩
    refine ⟨hmade, Option.eq_none_iff_forall_ne_some.2 fun result hresult => ?_⟩
    have hp₀ := World.result?_eq_some.1 hresult
    have hp := ended_traffic settings env introspectors hp₀ rfl l
    rw [← hg] at hp
    rw [hp] at hmade
    obtain ⟨report, hreport⟩ := finished_of_made hmade
    cases hreport
    exact (List.nodup_append.1 hdistinct).2.2 j (hbooked₀.made j report hp₀) j hj rfl
  · -- what was committed before the start had a result then, or has none now
    rintro ⟨hmade, hnone⟩
    refine ⟨?_, hmade⟩
    obtain ⟨report, hp⟩ := finished_of_made hmade
    have hj := hbooked.made j report hp
    rw [← hrest] at hj
    refine (List.mem_append.1 hj).resolve_left fun hj => ?_
    obtain ⟨p, hp₀, hlate⟩ := hbooked₀.late j hj
    have hfree := hcarried₀.served.sound.free_of_none hrun hp₀
    have hended : p.isEnded = true := by
      cases p <;> first | rfl | contradiction
    have hsame := ended_traffic settings env introspectors hp₀ hended l
    rw [← hg, hp] at hsame
    cases hsame
    rw [World.result?_eq_some.2 hp₀] at hnone
    cases hnone

/-- **No edit is lost.** From a moment on at which a configuration is held and nothing is being changed, whatever is
held while no change goes on is what was held then, with the edits of the requests acknowledged since, in the order of
their commits. The GraphQL schema never changes, and an entity that was added is there until a later reload. The
configuration that the gateway starts with is a proper one, as one that is read from a file is (`proper_ofFile`). -/
theorem no_edit_is_lost [Pattern.Engine] {config : Option RuntimeConfig}
    (hconfig : ∀ c, config = some c → c.IsProper) {memory : ι} {before after : List Traffic} {g₀ : Gateway ι}
    (hg₀ : g₀ = (Gateway.boot config memory).run settings env introspectors before) {s₀ : Snapshot}
    (hheld : g₀.world.served.held = some s₀) (hrun : g₀.world.running = none)
    (hplain : ∀ j p, g₀.world.phase? j = some p → p.brings? = none) (hafter : .applyHeld ∉ after)
    (hg : g = g₀.run settings env introspectors after) :
    (∀ j, j ∈ g.acknowledged g₀.commits.length ↔ g.isAcknowledged j = true ∧ g₀.world.result? j = none) ∧
    (g.acknowledged g₀.commits.length).Nodup ∧
    ∃ s, g.world.served.held = some s ∧ s.config.graphqlSchema = s₀.config.graphqlSchema ∧
      (g.world.running = none →
        Edits settings env s₀.config (g.ordersOf (g.acknowledged g₀.commits.length)) s.config ∧
        ∀ earlier j later (post : EntityPost), g.acknowledged g₀.commits.length = earlier ++ j :: later →
          g.orders[j]? = some post.order →
          (∀ k ∈ later, ∀ r : ReloadPost, g.orders[k]? ≠ some (r.order settings env)) →
          s.config.entities.get? post.name = some post.entity) := by
  obtain ⟨hcarried₀, hbooked₀⟩ := books_run settings env introspectors hconfig memory before
  rw [← hg₀] at hcarried₀ hbooked₀
  have hledger := ledger_run introspectors (ledger_start hcarried₀ hbooked₀ hheld hrun hplain) hafter
  rw [← hg] at hledger
  obtain ⟨s, hs, hschema⟩ := schema_of_ledger hledger
  have hmem := mem_acknowledged hcarried₀ hbooked₀ hrun hg hledger.carried hledger.booked
  refine ⟨hmem, ?_, s, hs, hschema, fun hidle => ?_⟩
  · exact (hledger.booked.distinct.sublist (List.drop_sublist _ _)).filter _
  · have hedits := edits_of_ledger hledger hidle hs
    exact ⟨hedits, fun earlier j later post hjobs horder hlater => entity_of_edits hedits hjobs horder hlater⟩

end Ledger

/-! ## A gateway to which an entity is added -/

open scoped Simulation

/-- a request for one entity more -/
def entityRequest : Request where
  method := "POST"
  target := "/configuration/entities"
  contentType := some "application/json"
  body := "\x7b\"name\":\"b\",\"entity\":\x7b\"source\":\x7b\"object\":\"b\"\x7d\x7d\x7d"

/-- the request, up to its end -/
def entityTraffic : List Traffic :=
  [.request entityRequest] ++ List.replicate 4 (.advance 1) ++ [.settle 1 "default"] ++ List.replicate 15 (.advance 1)

def entityGateway : Gateway Unit := startedGateway.run {} (fun _ => none) emptyDatabases entityTraffic

theorem added_entity_is_not_lost :
    entityGateway.acknowledged 1 = [1] ∧
    ∃ s, entityGateway.world.served.held = some s ∧ s.config.graphqlSchema = none ∧
      Edits {} (fun _ => none) World.plainConfig (entityGateway.ordersOf [1]) s.config := by
  have hproper : ∀ c, some World.plainConfig = some c → c.IsProper := by
    rintro c hc s hs
    cases hc
    cases hs
  have hphases : startedGateway.world.jobs.all (fun p => p.brings?.isNone) = true := rfl
  have hplain : ∀ j p, startedGateway.world.phase? j = some p → p.brings? = none := by
    intro j p hp
    exact Option.isNone_iff_eq_none.1 (List.all_eq_true.1 hphases p (List.mem_of_getElem? hp))
  have hacknowledged : entityGateway.acknowledged startedGateway.commits.length = [1] := by decide +kernel
  have hidle : entityGateway.world.running = none := by decide +kernel
  have hstarted : startedGateway =
      (Gateway.boot (some World.plainConfig) ()).run {} (fun _ => none) emptyDatabases firstTraffic := rfl
  have hafter : Traffic.applyHeld ∉ entityTraffic := by simp [entityTraffic]
  have hentity : entityGateway = startedGateway.run {} (fun _ => none) emptyDatabases entityTraffic := rfl
  obtain ⟨-, -, s, hs, hschema, hedits⟩ := no_edit_is_lost hproper hstarted rfl rfl hplain hafter hentity
  obtain ⟨hedits, -⟩ := hedits hidle
  rw [hacknowledged] at hedits
  exact ⟨hacknowledged, s, hs, hschema, hedits⟩

end EntityGateway
