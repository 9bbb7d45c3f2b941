/-
A first configuration and the changes that come between its installation and its commit.

The job of a first configuration installs its snapshot without the lock and takes the lock in a later step. In between
other requests may take it, change what is held, and be acknowledged. The job then commits its own snapshot whatever is
held. So the snapshot that it installed is still held at its commit just if nothing was acknowledged until then; if
something was, it is overwritten.

- `unmade_of_empty`: a gateway that holds nothing has acknowledged nothing;
- `Opening`: what is known between the installation and the commit;
- `opening_advance`, `opening_serve`: moves of all jobs, and all traffic, keep to this;
- `first_configuration_overwrites_the_acknowledged`: the whole of it.
-/
import EntityGateway.Proofs.Orchestration.Installation
import EntityGateway.Proofs.Served.Ledger

namespace EntityGateway

open Http

namespace World

/-! ## Changes that were made -/

def Unmade (w : World σ ι) : Prop := ∀ j p, w.phase? j = some p → p.isMade = false

section Unmade

variable {setup : Setup σ ι} {job : Nat} {w u : World σ ι} {p q : Phase}

theorem unmade_submit (t : Task) : (w.submit t).Unmade ↔ w.Unmade := by
  refine ⟨fun h j p hp => h j p ((phase?_submit_of_lt w t (lt_jobs_of_phase? hp)).trans hp), fun h j p hp => ?_⟩
  rcases phase?_submit_cases hp with hp | ⟨-, rfl⟩
  · exact h j p hp
  · cases t <;> rfl

theorem stays_made (h : p.Stays q) : q.isMade = p.isMade := by
  cases h with
  | same => rfl
  | gathers => rfl
  | drops hcan => cases p <;> first | rfl | cases hcan

theorem unmade_still (h : w.Still u) : u.Unmade ↔ w.Unmade := by
  constructor
  · intro hu j p hp
    obtain ⟨q, hq, hstays⟩ := h.phases j p hp
    rw [← stays_made hstays]
    exact hu j q hq
  · intro hw j q hq
    obtain ⟨p, hp, hstays⟩ := h.before hq
    rw [stays_made hstays]
    exact hw j p hp

theorem unmade_setPhase (hjobs : u.jobs = w.jobs) (hp : w.phase? job = some p) (hpq : p.isMade = q.isMade) :
    (u.setPhase job q).Unmade ↔ w.Unmade := by
  constructor
  · intro hu j r hr
    by_cases hj : j = job
    · subst hj
      obtain rfl := Option.some.inj (hp.symm.trans hr)
      rw [hpq]
      exact hu j q (phase?_moved hjobs hp q)
    · exact hu j r ((phase?_other hjobs hj q).trans hr)
  · intro hw j r hr
    rcases phase?_setPhase_cases hjobs hp hr with ⟨rfl, rfl⟩ | ⟨-, hr⟩
    · rw [← hpq]
      exact hw j p hp
    · exact hw j r hr

/-- a change is made by the job that has put it in force -/
theorem eq_concluding_of_made (hm : Move setup job w p q u) (hq : q.isMade = true) :
    ∃ r c diagnostics, p = .concluding r c diagnostics := by
  cases hm with
  | succeed => exact ⟨_, _, _, rfl⟩
  | install => split_ifs at hq <;> cases hq
  | _ => cases hq

end Unmade

section Empty

variable {setup : Setup σ ι} {job : Nat} {w u : World σ ι} {p q : Phase}

theorem move_filled (hw : w.Served) (hp : w.phase? job = some p) (hm : Move setup job w p q u)
    (h : w.served.held.isSome = true) : u.served.held.isSome = true := by
  rcases move_held hw hp hm with hsame | ⟨-, hsome⟩ | hnone
  · rw [hsame]
    exact h
  · exact hsome
  · rw [hnone] at h
    cases h

/-- while nothing is held no job brings or makes a change -/
theorem plain_of_empty (hw : w.Served) (hempty : w.served.held = none) (hp : w.phase? job = some p) :
    p.brings? = none ∧ p.run? = none := by
  obtain ⟨hbrings, hrun, -⟩ := hw.custody job p hp
  constructor
  · refine Option.eq_none_iff_forall_ne_some.2 fun s hs => ?_
    have hsome := hbrings s hs
    rw [hempty] at hsome
    cases hsome
  · refine Option.eq_none_iff_forall_ne_some.2 fun r hr => ?_
    obtain ⟨t, -, hheld⟩ := hrun r hr
    cases hempty.symm.trans hheld

end Empty

/-! ## Between the installation and the commit -/

/-- A job has installed a snapshot and has not committed it. It is held, or to be put back, just if no change has been
made since; no other job knows it. -/
structure Opening (w : World σ ι) (job : Nat) (s : Snapshot) : Prop where
  served : w.Served
  filled : w.served.held.isSome = true
  older : s.id < w.fresh
  own : ∀ p, w.phase? job = some p →
    p.brings? = some s ∨ (∃ r, p.run? = some r ∧ r.snapshot = s) ∨ p.isEnded = true
  plain : ∀ k p, w.phase? k = some p → k ≠ job → p.brings? = none
  others : ∀ k p r, w.phase? k = some p → k ≠ job → p.run? = some r → r.snapshot ≠ s
  targets : ∀ k p r, w.phase? k = some p → p.run? = some r → (r.checkpoint.target = some s ↔ w.Unmade)
  rest : (∀ k p, w.phase? k = some p → p.isInForce = false) → (w.served.held = some s ↔ w.Unmade)

section Opening

variable {setup : Setup σ ι} {job k : Nat} {w u : World σ ι} {p q : Phase} {s : Snapshot}

theorem opening_of_installs (hw : w.Served) (hunmade : w.Unmade) (h : Installs setup w job servedHolder s) :
    (w.step setup (.advance job)).Opening job s := by
  obtain ⟨c, applies, hp, hempty, rfl⟩ := installs_iff.1 h
  obtain ⟨-, rfl⟩ := hw.serves job _ hp
  have hserved : (w.step setup (.advance job)).Served := by
    have hm : Move setup job w (.installing servedHolder c true) _ _ := .install hempty
    rw [step_install hp hempty]
    exact served_advance hw hp hm
  rw [step_install hp hempty] at hserved ⊢
  generalize hu : ({ w.setHolder servedHolder ((w.holder servedHolder).replace (some ⟨w.fresh, c⟩)) with
    fresh := w.fresh + 1 } : World σ ι) = u at hserved ⊢
  have hjobs : u.jobs = w.jobs := by rw [← hu]; rfl
  have hheld : u.served.held = some ⟨w.fresh, c⟩ := by
    rw [← hu]
    show (World.served (w.setHolder servedHolder _)).held = _
    rw [served_setHolder hw.single]
    rfl
  have hplain : ∀ k p, (u.setPhase job (.marking servedHolder ⟨w.fresh, c⟩)).phase? k = some p → p.run? = none := by
    intro k p hk
    rcases phase?_setPhase_cases hjobs hp hk with ⟨-, rfl⟩ | ⟨-, hk⟩
    · rfl
    · exact (plain_of_empty hw hempty hk).2
  have hunmade' : (u.setPhase job (.marking servedHolder ⟨w.fresh, c⟩)).Unmade :=
    (unmade_setPhase hjobs hp (q := .marking servedHolder ⟨w.fresh, c⟩) rfl).2 hunmade
  refine ⟨hserved, Option.isSome_iff_exists.2 ⟨_, hheld⟩, ?_, fun p hk => ?_, fun k p hk hne => ?_,
    fun k p r hk _ hr => ?_, fun k p r hk hr => ?_, fun _ => iff_of_true hheld hunmade'⟩
  · show w.fresh < u.fresh
    rw [← hu]
    exact Nat.lt_succ_self _
  · obtain rfl := Option.some.inj ((phase?_moved hjobs hp _).symm.trans hk)
    exact Or.inl rfl
  · rcases phase?_setPhase_cases hjobs hp hk with ⟨rfl, -⟩ | ⟨-, hk⟩
    · exact absurd rfl hne
    · exact (plain_of_empty hw hempty hk).1
  · rw [hplain k p hk] at hr
    cases hr
  · rw [hplain k p hk] at hr
    cases hr

theorem target_of_begun (hw : w.Served) (hp : w.phase? k = some p) (hm : Move setup k w p q u)
    (hfree : p.isLocked = false) {r : Run} (hr : q.run? = some r) :
    w.running = none ∧ r.checkpoint.target = w.served.held ∧
      (p.brings? = some r.snapshot ∨ p.brings? = none ∧ r.snapshot.id = w.fresh) := by
  have hserves := hw.serves k p hp
  cases hm with
  | apply hrun =>
    cases hr
    obtain rfl := hserves
    exact ⟨hrun, rfl, Or.inl rfl⟩
  | edit hrun =>
    cases hr
    obtain rfl := hserves
    exact ⟨hrun, rfl, Or.inr ⟨rfl, rfl⟩⟩
  | install => split_ifs at hr <;> cases hr
  | _ => contradiction

theorem own_moved (hw : w.Opening job s) (hp : w.phase? job = some p) (hm : Move setup job w p q u) :
    q.brings? = some s ∨ (∃ r, q.run? = some r ∧ r.snapshot = s) ∨ q.isEnded = true := by
  rcases hw.own p hp with hbrings | ⟨r, hr, hs⟩ | hended
  · cases hm with
    | mark => exact Or.inl hbrings
    | busy => exact Or.inr (Or.inr rfl)
    | apply =>
      cases hbrings
      exact Or.inr (Or.inl ⟨_, rfl, rfl⟩)
    | _ => cases hbrings
  · cases hlocked : q.isLocked with
    | true => exact Or.inr (Or.inl ⟨r, (move_run hm (locked_of_run hr) hlocked).trans hr, hs⟩)
    | false => exact Or.inr (Or.inr (isEnded_of_unlocked hm (locked_of_run hr) hlocked))
  · cases hm <;> cases hended

/-- a job moves while nobody else is in force, and is not done: what is held is then as it should be -/
theorem rest_moved (hw : w.Opening job s) (hp : w.phase? k = some p) (hm : Move setup k w p q u)
    (hq : q.isMade = false) (hforce : ∀ j r, (u.setPhase k q).phase? j = some r → r.isInForce = false) :
    u.served.held = some s ↔ w.Unmade := by
  have hjobs := move_jobs hm
  cases hlocked : p.isLocked with
  | true =>
    -- the change has not been put in force, or has been put back
    obtain ⟨r, hr⟩ := Phase.exists_run hlocked
    suffices hheld : u.served.held = r.checkpoint.target by
      rw [hheld]
      exact hw.targets k p r hp hr
    cases hqlocked : q.isLocked with
    | true =>
      have hqr := (move_run hm hlocked hqlocked).trans hr
      obtain ⟨t, ht, hheld⟩ := (move_custody hw.served hp hm).run r hqr
      rw [hforce k q (phase?_moved hjobs hp q)] at hheld
      exact hheld.trans ht.symm
    | false =>
      obtain ⟨t, ht, hheld⟩ := (hw.served.custody k p hp).run r hr
      cases hm with
      | fail => exact hheld.trans ht.symm
      | _ => contradiction
  | false =>
    have hbefore : ∀ j r, w.phase? j = some r → r.isInForce = false := by
      intro j r hr
      by_cases hj : j = k
      · subst hj
        obtain rfl := Option.some.inj (hp.symm.trans hr)
        exact Phase.isInForce_eq_false hlocked
      · exact hforce j r ((phase?_other hjobs hj q).trans hr)
    rcases move_held hw.served hp hm with hsame | ⟨hl, -⟩ | hnone
    · rw [hsame]
      exact hw.rest hbefore
    · rw [hlocked] at hl
      cases hl
    · have hfilled := hw.filled
      rw [hnone] at hfilled
      cases hfilled

/-- **A move of any job** between the installation and the commit -/
theorem opening_advance (hw : w.Opening job s) (hp : w.phase? k = some p) (hm : Move setup k w p q u)
    (hearly : k = job → q.isLate = false) : (u.setPhase k q).Opening job s := by
  have hjobs := move_jobs hm
  have hserves := hw.served.serves k p hp
  have hfilled : u.served.held.isSome = true := move_filled hw.served hp hm hw.filled
  have holder : s.id < u.fresh := lt_of_lt_of_le hw.older (move_fresh hm)
  have hnotmade := not_made_of_move hm
  refine ⟨served_advance hw.served hp hm, hfilled, holder, fun p' hk => ?_, fun j r hj hne => ?_,
    fun j r x hj hne hx => ?_, fun j r x hj hx => ?_, fun hforce => ?_⟩
  · rcases phase?_setPhase_cases hjobs hp hk with ⟨rfl, rfl⟩ | ⟨-, hk⟩
    · exact own_moved hw hp hm
    · exact hw.own p' hk
  · rcases phase?_setPhase_cases hjobs hp hj with ⟨rfl, rfl⟩ | ⟨-, hj⟩
    · refine move_plain hm (hw.plain j p hp hne) fun i c applies hinstall => ?_
      subst hinstall
      obtain ⟨rfl, -⟩ := hserves
      exact hw.filled
    · exact hw.plain j r hj hne
  · rcases phase?_setPhase_cases hjobs hp hj with ⟨rfl, rfl⟩ | ⟨-, hj⟩
    · cases hlocked : p.isLocked with
      | true => exact hw.others j p x hp hne ((move_run hm hlocked (locked_of_run hx)).symm.trans hx)
      | false =>
        obtain ⟨-, -, hbrings | ⟨-, hid⟩⟩ := target_of_begun hw.served hp hm hlocked hx
        · cases (hw.plain j p hp hne).symm.trans hbrings
        · rintro rfl
          exact Nat.lt_irrefl _ (hid ▸ hw.older)
    · exact hw.others j r x hj hne hx
  · cases hmade : q.isMade with
    | true =>
      obtain ⟨y, c, diagnostics, rfl⟩ := eq_concluding_of_made hm hmade
      have hqfree : q.isLocked = false := by
        cases q <;> first | rfl | cases hmade
      rw [run?_of_ended hw.served hp rfl hqfree hjobs hj] at hx
      cases hx
    | false =>
      rw [unmade_setPhase hjobs hp (hnotmade.trans hmade.symm)]
      rcases phase?_setPhase_cases hjobs hp hj with ⟨rfl, rfl⟩ | ⟨-, hj⟩
      · cases hlocked : p.isLocked with
        | true => exact hw.targets j p x hp ((move_run hm hlocked (locked_of_run hx)).symm.trans hx)
        | false =>
          obtain ⟨hrun, htarget, -⟩ := target_of_begun hw.served hp hm hlocked hx
          rw [htarget]
          exact hw.rest fun j r hr => Phase.isInForce_eq_false (hw.served.sound.free_of_none hrun hr)
      · exact hw.targets j r x hj hx
  · cases hmade : q.isMade with
    | true =>
      obtain ⟨r, c, diagnostics, rfl⟩ := eq_concluding_of_made hm hmade
      have hne : k ≠ job := by
        intro hk
        cases hm
        cases hearly hk
      obtain ⟨t, -, hheld⟩ := (hw.served.custody k _ hp).run r rfl
      refine iff_of_false (fun hsame => ?_) fun hunmade => ?_
      · cases hm
        exact hw.others k _ r hp hne rfl (Option.some.inj (hheld.symm.trans hsame))
      · rw [hunmade k q (phase?_moved hjobs hp q)] at hmade
        cases hmade
    | false =>
      rw [unmade_setPhase hjobs hp (hnotmade.trans hmade.symm)]
      exact rest_moved (u := u) hw hp hm hmade hforce

theorem opening_submit (hw : w.Opening job s) {t : Task} (hplain : t.start.brings? = none)
    (hserved : (w.submit t).Served) (hjob : ∃ p, w.phase? job = some p) : (w.submit t).Opening job s := by
  have hfree : t.start.run? = none := Phase.run?_eq_none (start_plain t).1
  obtain ⟨p₀, hp₀⟩ := hjob
  have hold : ∀ {j p}, w.phase? j = some p → (w.submit t).phase? j = some p :=
    fun hp => (phase?_submit_of_lt w t (lt_jobs_of_phase? hp)).trans hp
  refine ⟨hserved, hw.filled, hw.older, fun p hp => ?_, fun k p hp hne => ?_, fun k p r hp hne hr => ?_,
    fun k p r hp hr => ?_, fun hforce => ?_⟩
  · obtain rfl := Option.some.inj ((hold hp₀).symm.trans hp)
    exact hw.own p₀ hp₀
  · rcases phase?_submit_cases hp with hp | ⟨-, rfl⟩
    · exact hw.plain k p hp hne
    · exact hplain
  · rcases phase?_submit_cases hp with hp | ⟨-, rfl⟩
    · exact hw.others k p r hp hne hr
    · rw [hfree] at hr
      cases hr
  · rw [unmade_submit]
    rcases phase?_submit_cases hp with hp | ⟨-, rfl⟩
    · exact hw.targets k p r hp hr
    · rw [hfree] at hr
      cases hr
  · rw [unmade_submit]
    exact hw.rest fun k p hp => hforce k p (hold hp)

theorem opening_still (hw : w.Opening job s) (h : w.Still u) (hserved : u.Served) (hfresh : w.fresh ≤ u.fresh) :
    u.Opening job s := by
  refine ⟨hserved, by rw [h.held]; exact hw.filled, lt_of_lt_of_le hw.older hfresh, fun q hq => ?_,
    fun k q hq hne => ?_, fun k q r hq hne hr => ?_, fun k q r hq hr => ?_, fun hforce => ?_⟩
  · obtain ⟨p, hp, hstays⟩ := h.before hq
    cases hstays with
    | same => exact hw.own _ hp
    | gathers =>
      have hown := hw.own _ hp
      exact hown
    | drops => exact Or.inr (Or.inr rfl)
  · obtain ⟨p, hp, hstays⟩ := h.before hq
    cases hstays with
    | same => exact hw.plain k _ hp hne
    | gathers => rfl
    | drops => rfl
  · obtain ⟨p, hp, hstays⟩ := h.before hq
    cases hstays with
    | same => exact hw.others k _ r hp hne hr
    | gathers => exact hw.others k _ r hp hne hr
    | drops => cases hr
  · rw [unmade_still h]
    obtain ⟨p, hp, hstays⟩ := h.before hq
    cases hstays with
    | same => exact hw.targets k _ r hp hr
    | gathers => exact hw.targets k _ r hp hr
    | drops => cases hr
  · rw [h.held, unmade_still h]
    refine hw.rest fun k p hp => ?_
    obtain ⟨q, hq, hstays⟩ := h.phases k p hp
    cases hstays with
    | same => exact hforce k _ hq
    | gathers => rfl
    | drops hcan hcall => cases p <;> first | rfl | contradiction

end Opening

end World

/-! ## Traffic -/

section Traffic

variable {settings : Settings} {env : Environment} {introspectors : Introspectors ι} {g g' : Gateway ι} {job : Nat}
  {s : Snapshot} {t : Traffic}

/-- no request has been acknowledged just if no change has been made -/
theorem unmade_iff (hg : g.Carried settings env) : g.world.Unmade ↔ ∀ k, g.isAcknowledged k = false := by
  simp only [isAcknowledged_iff hg]
  refine ⟨fun h k => ?_, fun h k p hp => ?_⟩
  · cases hp : g.world.phase? k with
    | none => rfl
    | some p => exact h k p hp
  · have hnot := h k
    rwa [hp] at hnot

variable [Pattern.Engine]

theorem filled_serve (hw : g.world.Served) (hheld : g.world.served.held.isSome = true)
    (h : Serve settings env introspectors g t g') : g'.world.served.held.isSome = true := by
  cases piece_of_serve hw h with
  | take => exact hheld
  | advance hp hm =>
    have hfilled := World.move_filled hw hp hm hheld
    exact hfilled
  | still hstill =>
    show (World.served _).held.isSome = true
    rw [hstill.held]
    exact hheld

theorem unmade_serve (hw : g.world.Served) (hg : g.world.served.held = none → g.world.Unmade)
    (h : Serve settings env introspectors g t g') (hempty : g'.world.served.held = none) : g'.world.Unmade := by
  have hbefore : g.world.served.held = none := by
    refine Option.eq_none_iff_forall_ne_some.2 fun s hs => ?_
    have hfilled := filled_serve hw (Option.isSome_iff_exists.2 ⟨s, hs⟩) h
    rw [hempty] at hfilled
    cases hfilled
  cases piece_of_serve hw h with
  | take => exact (World.unmade_submit _).2 (hg hbefore)
  | advance hp hm =>
    refine (World.unmade_setPhase (World.move_jobs hm) hp ?_).2 (hg hbefore)
    rw [not_made_of_move hm]
    refine ((Bool.eq_false_iff).2 fun hmade => ?_).symm
    obtain ⟨r, c, diagnostics, rfl⟩ := World.eq_concluding_of_made hm hmade
    cases (World.plain_of_empty hw hbefore hp).2
  | still hstill => exact (World.unmade_still hstill).2 (hg hbefore)

/-- **A gateway that holds nothing has acknowledged nothing**, whatever was asked of it -/
theorem unmade_of_empty (hg : g.Reached settings env introspectors) :
    g.world.Served ∧ (g.world.served.held = none → g.world.Unmade) := by
  obtain ⟨config, memory, l, rfl⟩ := hg
  refine invariant_traffic (P := fun g => g.world.Served ∧ (g.world.served.held = none → g.world.Unmade))
    (fun _ _ g g' hg h => ⟨served_serve hg.1 h, unmade_serve hg.1 hg.2 h⟩)
    ⟨served_boot config memory, fun _ j p hp => ?_⟩
  have hnone : (Gateway.boot config memory).world.phase? j = none := rfl
  cases hnone.symm.trans hp

/-- **All traffic but a start** keeps to what is known of a first configuration, up to its commit -/
theorem opening_serve (ht : t ≠ .applyHeld)
    (hg : (∃ p, g.world.phase? job = some p ∧ p.isLate = true) ∨
      (g.world.Opening job s ∧ ∃ p, g.world.phase? job = some p))
    (h : Serve settings env introspectors g t g') :
    (∃ p, g'.world.phase? job = some p ∧ p.isLate = true) ∨
      (g'.world.Opening job s ∧ ∃ p, g'.world.phase? job = some p) := by
  obtain ⟨e, hs⟩ := step_of_serve h
  rcases hg with hlate | ⟨hopening, p, hp⟩
  · exact Or.inl (World.late_step hs hlate)
  · obtain ⟨q, hq, -⟩ := World.turn_of_step hs hp
    have hserved := served_serve hopening.served h
    cases piece_of_serve hopening.served h with
    | take _ _ hplain => exact Or.inr ⟨World.opening_submit hopening (hplain ht) hserved ⟨p, hp⟩, q, hq⟩
    | advance hk hm =>
      rename_i k p' q' u
      by_cases hlate : q.isLate = true
      · exact Or.inl ⟨q, hq, hlate⟩
      · refine Or.inr ⟨World.opening_advance hopening hk hm fun hkj => ?_, q, hq⟩
        subst hkj
        obtain rfl := Option.some.inj ((World.phase?_moved (World.move_jobs hm) hk q').symm.trans hq)
        simpa using hlate
    | still hstill => exact Or.inr ⟨World.opening_still hopening hstill hserved (World.step_fresh hs), q, hq⟩

variable (settings env introspectors) in
/-- a gateway that starts with a configuration always holds one -/
theorem filled_boot (c : RuntimeConfig) (memory : ι) (l : List Traffic) :
    ((Gateway.boot (some c) memory).run settings env introspectors l).world.served.held.isSome = true := by
  have hrun : ((Gateway.boot (some c) memory).run settings env introspectors l).world.Served ∧
      ((Gateway.boot (some c) memory).run settings env introspectors l).world.served.held.isSome = true :=
    invariant_traffic (P := fun g => g.world.Served ∧ g.world.served.held.isSome = true)
      (fun _ _ _ _ hg h => ⟨served_serve hg.1 h, filled_serve hg.1 hg.2 h⟩) ⟨served_boot (some c) memory, rfl⟩
  exact hrun.2

variable (introspectors) in
theorem carried_of_installs (hg : g.Reached settings env introspectors)
    (h : World.Installs (Server.setup settings env introspectors) g.world job servedHolder s) (l : List Traffic) :
    (g.run settings env introspectors l).Carried settings env := by
  obtain ⟨config, memory, before, rfl⟩ := hg
  obtain ⟨c, applies, hp, hempty, -⟩ := World.installs_iff.1 h
  cases config with
  | some c =>
    have hfilled := filled_boot settings env introspectors c memory before
    rw [show (World.served _).held = none from hempty] at hfilled
    cases hfilled
  | none =>
    have hproper : ∀ c, (none : Option RuntimeConfig) = some c → c.IsProper := fun c hc => by cases hc
    obtain ⟨hcarried, -⟩ := books_run settings env introspectors hproper memory (before ++ l)
    rwa [Gateway.run, List.foldl_append] at hcarried

variable (settings env introspectors) in
theorem opening_run (hg : g.world.Opening job s) (hjob : ∃ p, g.world.phase? job = some p) {l : List Traffic}
    (hl : .applyHeld ∉ l) :
    (∃ p, (g.run settings env introspectors l).world.phase? job = some p ∧ p.isLate = true) ∨
      (g.run settings env introspectors l).world.Opening job s := by
  have hrun : (∃ p, (g.run settings env introspectors l).world.phase? job = some p ∧ p.isLate = true) ∨
      ((g.run settings env introspectors l).world.Opening job s ∧
        ∃ p, (g.run settings env introspectors l).world.phase? job = some p) :=
    invariant_traffic (P := fun g => (∃ p, g.world.phase? job = some p ∧ p.isLate = true) ∨
        (g.world.Opening job s ∧ ∃ p, g.world.phase? job = some p))
      (fun t ht _ _ hg h => opening_serve (fun heq => hl (heq ▸ ht)) hg h) (Or.inr ⟨hg, hjob⟩)
  exact hrun.imp_right And.left

theorem held_of_commit (hw : g.world.Served) {r : Run} {place : Nat} {report : InitializationReport}
    (hp : g.world.phase? job = some (.committing r place report)) :
    (g.step settings env introspectors (.advance job)).world.served.held = some r.snapshot := by
  show (World.served (g.world.step (Server.setup settings env introspectors) (.advance job))).held = _
  rcases World.step_cases (Server.setup settings env introspectors) g.world (.advance job) with ⟨hnone, -⟩ | hs
  · simp [World.step?, World.advance?, hp, World.next?] at hnone
  · obtain ⟨q, u, hm, hu, -⟩ := World.move_of_step hp hs
    rw [hu]
    cases hm
    exact World.held_commit hw hp

/-- **A first configuration overwrites what was acknowledged before its commit.** A job has installed its snapshot, and
whatever is asked for then, but for a start, comes in between. When the job is about to commit, what it installed is
held just if no request has been acknowledged; when it has committed, it is held in any case. -/
theorem first_configuration_overwrites_the_acknowledged (hreached : g.Reached settings env introspectors)
    (hinstall : World.Installs (Server.setup settings env introspectors) g.world job servedHolder s) {l : List Traffic}
    (hl : .applyHeld ∉ l) (hg' : g' = g.run settings env introspectors (.advance job :: l)) {r : Run} {place : Nat}
    {report : InitializationReport} (hcommit : g'.world.phase? job = some (.committing r place report)) :
    r.snapshot = s ∧ (g'.world.served.held = some s ↔ ∀ k, g'.isAcknowledged k = false) ∧
      (g'.step settings env introspectors (.advance job)).world.served.held = some s := by
  obtain ⟨hserved, hunmade⟩ := unmade_of_empty hreached
  obtain ⟨c, applies, hp, hempty, -⟩ := World.installs_iff.1 hinstall
  have hcarried := carried_of_installs introspectors hreached hinstall (.advance job :: l)
  rw [← hg'] at hcarried
  have hbegins : (g.step settings env introspectors (.advance job)).world.Opening job s :=
    World.opening_of_installs hserved (hunmade hempty) hinstall
  have hjob : ∃ p, (g.step settings env introspectors (.advance job)).world.phase? job = some p :=
    World.exists_phase_step rfl ⟨_, hp⟩
  have hrun := opening_run settings env introspectors hbegins hjob hl
  change (∃ p, (g.run settings env introspectors (.advance job :: l)).world.phase? job = some p ∧ p.isLate = true) ∨
    (g.run settings env introspectors (.advance job :: l)).world.Opening job s at hrun
  rw [← hg'] at hrun
  have hopening : g'.world.Opening job s := by
    refine hrun.resolve_left fun ⟨p, hp, hlate⟩ => ?_
    obtain rfl := Option.some.inj (hcommit.symm.trans hp)
    cases hlate
  have hsnapshot : r.snapshot = s := by
    rcases hopening.own _ hcommit with hbrings | ⟨r', hr, hs⟩ | hended
    · cases hbrings
    · cases hr
      exact hs
    · cases hended
  obtain ⟨t, htarget, hheld⟩ := (hopening.served.custody job _ hcommit).run r rfl
  refine ⟨hsnapshot, ?_, ?_⟩
  · rw [← unmade_iff hcarried, ← hopening.targets job _ r hcommit rfl, htarget, hheld]
    rfl
  · rw [held_of_commit hopening.served hcommit, hsnapshot]

end Traffic

/-! ## A request in between -/

open scoped Simulation

def firstRequest : Request where
  method := "POST"
  target := "/configuration"
  contentType := some "application/json"
  body := "\x7b\"configuration\":\x7b\"data-source\":" ++
    "\x7b\"database-type\":\"postgresql\",\"connection-string\":\"h\"\x7d\x7d\x7d"

/-- a gateway without a configuration, about to install that one -/
def installingGateway : Gateway Unit :=
  (Gateway.boot none ()).run {} (fun _ => none) emptyDatabases [.request firstRequest, .advance 0, .advance 0]

/-- what the job does after the installation, up to its commit -/
def towardsCommit : List Traffic :=
  List.replicate 4 (.advance 0) ++ [.settle 0 "default", .advance 0]

/-- there, with nothing in between -/
def undisturbedGateway : Gateway Unit :=
  installingGateway.run {} (fun _ => none) emptyDatabases (.advance 0 :: towardsCommit)

/-- there, after a request that adds an entity -/
def overtakenGateway : Gateway Unit :=
  installingGateway.run {} (fun _ => none) emptyDatabases (.advance 0 :: (entityTraffic ++ towardsCommit))

theorem installing_installs :
    ∃ s, World.Installs (Server.setup {} (fun _ => none) emptyDatabases) installingGateway.world 0 servedHolder s := by
  obtain ⟨hinstalling, hempty⟩ : installingGateway.world.isInstalling 0 servedHolder = true ∧
      (installingGateway.world.holder servedHolder).held.isNone = true := by decide +kernel
  exact World.exists_installs hinstalling hempty

theorem exists_committing {g : Gateway ι} {job : Nat} (h : (g.world.phase? job).any Phase.isCommitting = true) :
    ∃ r place report, g.world.phase? job = some (.committing r place report) := by
  obtain ⟨p, hp, hcommits⟩ := (Option.any_eq_true ..).1 h
  cases p with
  | committing r place report => exact ⟨r, place, report, hp⟩
  | _ => cases hcommits

theorem undisturbed_first_configuration_is_held :
    ∃ s, World.Installs (Server.setup {} (fun _ => none) emptyDatabases) installingGateway.world 0 servedHolder s ∧
      undisturbedGateway.world.served.held = some s := by
  have hreached : installingGateway.Reached {} (fun _ => none) emptyDatabases := ⟨none, (), _, rfl⟩
  obtain ⟨s, hs⟩ := installing_installs
  obtain ⟨hcommits, horders, hzero⟩ : (undisturbedGateway.world.phase? 0).any Phase.isCommitting = true ∧
      undisturbedGateway.orders.length = 1 ∧ undisturbedGateway.isAcknowledged 0 = false := by decide +kernel
  obtain ⟨r, place, report, hcommit⟩ := exists_committing hcommits
  have hafter : Traffic.applyHeld ∉ towardsCommit := by simp [towardsCommit]
  have hnone : ∀ k, undisturbedGateway.isAcknowledged k = false := by
    intro k
    cases k with
    | zero => exact hzero
    | succ k =>
      have hk : undisturbedGateway.orders[k + 1]? = none := List.getElem?_eq_none (by omega)
      simp [Gateway.isAcknowledged, Gateway.answer?, hk]
  exact ⟨s, hs, (first_configuration_overwrites_the_acknowledged hreached hs hafter rfl hcommit).2.1.2 hnone⟩

/-- **An acknowledged entity is overwritten.** The request that adds it comes after the first configuration was
installed and before that takes the lock, and is answered with a success. When the first configuration is about to
commit, the entity is held, and not what was installed; after the commit the entity is gone. -/
theorem acknowledged_entity_is_overwritten :
    (∃ s, World.Installs (Server.setup {} (fun _ => none) emptyDatabases) installingGateway.world 0 servedHolder s ∧
      overtakenGateway.world.served.held ≠ some s) ∧
    (∃ r place report, overtakenGateway.world.phase? 0 = some (.committing r place report)) ∧
    overtakenGateway.isAcknowledged 1 = true ∧
    overtakenGateway.world.served.held.any (·.config.entities.contains "b") = true ∧
    (overtakenGateway.step {} (fun _ => none) emptyDatabases (.advance 0)).world.served.held.any
      (·.config.entities.contains "b") = false := by
  obtain ⟨s, hs⟩ := installing_installs
  -- what is held has a later number than what was installed
  obtain ⟨hcommit, hacknowledged, hadded, hgone, hnumber⟩ :
      (overtakenGateway.world.phase? 0).any Phase.isCommitting = true ∧ overtakenGateway.isAcknowledged 1 = true ∧
        overtakenGateway.world.served.held.any (·.config.entities.contains "b") = true ∧
        (overtakenGateway.step {} (fun _ => none) emptyDatabases (.advance 0)).world.served.held.any
          (·.config.entities.contains "b") = false ∧
        overtakenGateway.world.served.held.any (·.id == installingGateway.world.fresh) = false := by decide +kernel
  refine ⟨⟨s, hs, fun hheld => ?_⟩, exists_committing hcommit, hacknowledged, hadded, hgone⟩
  obtain ⟨c, -, -, -, rfl⟩ := World.installs_iff.1 hs
  rw [hheld] at hnumber
  simp at hnumber

end EntityGateway
