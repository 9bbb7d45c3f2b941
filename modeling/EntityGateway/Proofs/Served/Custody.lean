/-
What the served holder holds while a change goes on.

Until the commit it holds what it held when the change took the lock, from the commit on the snapshot of the change,
and after a rollback what it held again. This rests on the numbers of snapshots: two snapshots of one number are the
same, so a holder that seems to hold a snapshot does hold it, and a holder that seems unchanged is unchanged.

- `move_custody`: a move keeps to this;
- `Served`: it, and what else is true at every moment of a gateway that is served;
- `served_serve`: every piece of traffic keeps it so.
-/
import EntityGateway.Proofs.Served.Traffic

namespace EntityGateway

open Http

/-! ## What phases hold -/

/-- whether the services are pointed at what was put in force -/
def Purpose.isService : Purpose → Bool
  | .serve _ => true
  | .restore _ => false

namespace Phase

def rewiring? : Phase → Option Rewiring
  | .calling rw _ | .awaiting rw _ _ _ => some rw
  | _ => none

/-- whether the snapshot of the change is in force -/
def isInForce : Phase → Bool
  | .calling rw _ | .awaiting rw _ _ _ => rw.purpose.isService
  | .generating .. | .documenting .. | .concluding .. | .rollingBack .. => true
  | _ => false

/-- the snapshot that is about to be applied as it is -/
def brings? : Phase → Option Snapshot
  | .marking _ s | .locking (.apply _ s) => some s
  | _ => none

/-- the snapshots that may yet be put into a holder -/
def snapshots (p : Phase) : List Snapshot :=
  p.brings?.toList ++ (p.run?.map fun r => r.snapshot :: r.checkpoint.target.toList).getD []

/-- a change of the served holder, or a first configuration that is applied -/
def Serves : Phase → Prop
  | .checking i _ applies | .reading i _ applies | .installing i _ applies => i = servedHolder ∧ applies = true
  | .considering a => a.holder = servedHolder
  | .marking i _ | .locking (.apply i _) | .locking (.edit i _) => i = servedHolder
  | .validating r | .constructing r | .preparing r _ _ | .relating r _ _ | .committing r _ _ | .generating r _
  | .documenting r _ _ | .concluding r _ _ | .rollingBack r _ | .failing r _ =>
    r.holder = servedHolder ∧ r.checkpoint.bound = servedHolder
  | .calling rw _ | .awaiting rw _ _ _ =>
    rw.run.holder = servedHolder ∧ rw.run.checkpoint.bound = servedHolder ∧ rw.holder = servedHolder
  | .finished (.changed _) | .finished (.refused _) | .dropped => True
  | .refreshing | .gathering _ | .finished (.installed _) | .finished (.initialized _) => False

theorem isInForce_eq_false {p : Phase} (h : p.isLocked = false) : p.isInForce = false := by
  cases p <;> first | rfl | cases h

theorem rewiring?_eq_none {p : Phase} (h : p.isLocked = false) : p.rewiring? = none := by
  cases p <;> first | rfl | cases h

theorem snapshots_of_free {p : Phase} (h : p.isLocked = false) : p.snapshots = p.brings?.toList := by
  simp [snapshots, run?_eq_none h]

end Phase

theorem ordered_serves {settings : Settings} {env : Environment} {o : Order} (h : Ordered settings env o) :
    o.task.start.Serves := by
  cases h with
  | first => exact ⟨rfl, rfl⟩
  | reload => rfl
  | entity => rfl

namespace World

/-! ## Custody -/

/-- what the served holder holds, given a job in some phase -/
structure Custody (w : World σ ι) (p : Phase) : Prop where
  brings : ∀ s, p.brings? = some s → w.served.held.isSome
  run : ∀ r, p.run? = some r →
    ∃ t, r.checkpoint.target = some t ∧ w.served.held = some (if p.isInForce then r.snapshot else t)
  wires : ∀ rw, p.rewiring? = some rw → w.served.held = some rw.snapshot

/-- a snapshot that is held, or that a job may yet put into a holder -/
def Knows (w : World σ ι) (s : Snapshot) : Prop :=
  w.served.held = some s ∨ ∃ j p, w.phase? j = some p ∧ s ∈ p.snapshots

/-- the configuration of the snapshot that a job makes next -/
inductive Makes (w : World σ ι) : Phase → RuntimeConfig → Prop
  | install : Makes w (.installing i c applies) c
  | edit (hmake : (w.holder i).config >>= make = .ok c) : Makes w (.locking (.edit i make)) c

/-- what is true at every moment of a gateway that is served -/
structure Served (w : World σ ι) : Prop where
  sound : w.Sound
  single : w.holders.length = 1
  bound : w.bound = servedHolder
  serves : ∀ j p, w.phase? j = some p → p.Serves
  older : ∀ s, w.Knows s → s.id < w.fresh
  distinct : ∀ s t, w.Knows s → w.Knows t → s.id = t.id → s = t
  custody : ∀ j p, w.phase? j = some p → w.Custody p

theorem served_setHolder {w : World σ ι} (h : w.holders.length = 1) (k : ConfigHolder) :
    (w.setHolder servedHolder k).served = k :=
  holder_setHolder_self (by rw [h]; exact Nat.one_pos) k

section Move

variable {setup : Setup σ ι} {job : Nat} {w u : World σ ι} {p q : Phase}

theorem move_bound (hm : Move setup job w p q u) (hp : p.Serves) (hbound : w.bound = servedHolder) :
    u.bound = servedHolder := by
  cases hm with
  | accept => split_ifs <;> exact hbound
  | commit => exact hp.1
  | call hcall => cases hcall; exact hbound
  | generate hcall => cases hcall; exact hbound
  | restore _ hu => subst hu; exact hp.2
  | giveUp hu => subst hu; exact hp.2
  | _ => exact hbound

theorem move_serves (hm : Move setup job w p q u) (hp : p.Serves) (hbound : w.bound = servedHolder) : q.Serves := by
  cases hm with
  | install =>
    rw [if_pos hp.2]
    exact hp.1
  | apply => exact ⟨hp, hbound⟩
  | edit => exact ⟨hp, hbound⟩
  | commit => exact ⟨hp.1, hp.2, hp.1⟩
  | restore => exact ⟨hp.1, hp.2, hp.2⟩
  | refused => exact ⟨hp.1, hp.2.1⟩
  | lost => exact ⟨hp.1, hp.2.1⟩
  | restored => exact ⟨hp.1, hp.2.1⟩
  | document => exact ⟨hp.1, hp.2.1⟩
  | skip => exact ⟨hp.1, hp.2.1⟩
  | _ => first | exact hp | trivial

/-- a holder that seems to hold a snapshot does hold it -/
theorem held_hold {h : ConfigHolder} {s t : Snapshot} (hheld : h.held = some t) (hdistinct : t.id = s.id → t = s) :
    (hold h s).held = some s := by
  unfold hold
  split_ifs with hholds
  · rw [hheld]
    refine congrArg some (hdistinct ?_)
    simpa [ConfigHolder.holds, hheld] using hholds
  · rfl

theorem held_putBack_some {h : ConfigHolder} {s t : Snapshot} (hheld : h.held = some s)
    (hdistinct : t.id = s.id → t = s) : (putBack (some t) h).held = some t := by
  unfold putBack
  split_ifs with hchanged
  · rfl
  · rw [hheld]
    refine congrArg some (hdistinct ?_).symm
    simpa [hasChanged, hheld] using hchanged

theorem knows_run (hp : w.phase? job = some p) {r : Run} (hr : p.run? = some r) : w.Knows r.snapshot :=
  Or.inr ⟨job, p, hp, by simp [Phase.snapshots, hr]⟩

theorem knows_target (hp : w.phase? job = some p) {r : Run} (hr : p.run? = some r) {t : Snapshot}
    (ht : r.checkpoint.target = some t) : w.Knows t :=
  Or.inr ⟨job, p, hp, by simp [Phase.snapshots, hr, ht]⟩

theorem held_commit (hw : w.Served) {r : Run} {place : Nat} {report : InitializationReport}
    (hp : w.phase? job = some (.committing r place report)) :
    (w.setHolder r.holder (hold (w.holder r.holder) r.snapshot)).served.held = some r.snapshot := by
  obtain ⟨t, -, hheld⟩ := (hw.custody job _ hp).run r rfl
  have hserved : r.holder = servedHolder := (hw.serves job _ hp).1
  rw [hserved, served_setHolder hw.single]
  exact held_hold hheld (hw.distinct _ _ (Or.inl hheld) (knows_run hp rfl))

/-- the served holder holds after the rollback what it held when the change took the lock -/
theorem held_rollBack (hw : w.Served) {r : Run} {fault : ChangeError}
    (hp : w.phase? job = some (.rollingBack r fault))
    (hu : u = (w.setHolder r.holder (putBack r.checkpoint.target (w.holder r.holder))).publish
      r.checkpoint.bound r.checkpoint.set) :
    ∃ t, r.checkpoint.target = some t ∧ u.served.held = some t := by
  subst hu
  obtain ⟨t, ht, hheld⟩ := (hw.custody job _ hp).run r rfl
  have hserved : r.holder = servedHolder := (hw.serves job _ hp).1
  refine ⟨t, ht, ?_⟩
  show (w.setHolder r.holder (putBack r.checkpoint.target (w.holder r.holder))).served.held = some t
  rw [hserved, served_setHolder hw.single, ht]
  exact held_putBack_some hheld (hw.distinct _ _ (knows_target hp rfl ht) (knows_run hp rfl))

/-- a phase in which nothing is brought, made or wired has nothing in custody -/
theorem custody_of_none (hb : p.brings? = none) (hr : p.run? = none) (hrw : p.rewiring? = none) : w.Custody p :=
  ⟨fun _ h => by simp [hb] at h, fun _ h => by simp [hr] at h, fun _ h => by simp [hrw] at h⟩

theorem custody_of_run {r : Run} {t : Snapshot} (hb : p.brings? = none) (hr : p.run? = some r)
    (hrw : p.rewiring? = none) (ht : r.checkpoint.target = some t)
    (hheld : w.served.held = some (if p.isInForce then r.snapshot else t)) : w.Custody p := by
  refine ⟨fun _ h => by simp [hb] at h, fun r' hr' => ?_, fun _ h => by simp [hrw] at h⟩
  obtain rfl : r = r' := Option.some.inj (hr.symm.trans hr')
  exact ⟨t, ht, hheld⟩

theorem Custody.of_same (hc : w.Custody p) (hu : u.served = w.served) (hb : q.brings? = none)
    (hr : q.run? = p.run?) (hrw : q.rewiring? = none) (hforce : q.isInForce = p.isInForce) : u.Custody q := by
  refine ⟨fun _ h => by simp [hb] at h, fun r h => ?_, fun _ h => by simp [hrw] at h⟩
  rw [hr] at h
  rw [hu, hforce]
  exact hc.run r h

/-- **A move keeps custody**: the served holder holds what it should, given the next phase -/
theorem move_custody (hw : w.Served) (hp : w.phase? job = some p) (hm : Move setup job w p q u) : u.Custody q := by
  have hserves := hw.serves job p hp
  have hcustody := hw.custody job p hp
  have ⟨hbrings, hrun, hwires⟩ := hcustody
  cases hm with
  | install =>
    obtain ⟨rfl, rfl⟩ := hserves
    refine ⟨fun s hs => ?_, fun r hr => (by cases hr), fun rw hrw => (by cases hrw)⟩
    show ((w.setHolder servedHolder _).served.held).isSome = true
    rw [served_setHolder hw.single]
    rfl
  | mark =>
    obtain rfl := hserves
    refine ⟨fun s hs => ?_, fun r hr => (by cases hr), fun rw hrw => (by cases hrw)⟩
    rw [served_setHolder hw.single]
    exact hbrings _ rfl
  | apply =>
    obtain rfl := hserves
    obtain ⟨t, ht⟩ := Option.isSome_iff_exists.1 (hbrings _ rfl)
    exact custody_of_run rfl rfl rfl ht ht
  | edit _ hmake =>
    obtain rfl := hserves
    obtain ⟨c, hc, -⟩ := ok_of_bind hmake
    obtain ⟨t, ht, -⟩ := config_ok hc
    exact custody_of_run rfl rfl rfl ht ht
  | commit =>
    obtain ⟨t, ht, -⟩ := hrun _ rfl
    have hheld := held_commit hw hp
    refine ⟨fun s hs => (by cases hs), fun r hr => ?_, fun rw hrw => ?_⟩
    · cases hr
      exact ⟨t, ht, hheld⟩
    · cases hrw
      exact hheld
  | call hcall =>
    cases hcall
    exact ⟨fun s hs => (by cases hs), hrun, hwires⟩
  | answered => exact ⟨fun s hs => (by cases hs), hrun, hwires⟩
  | refused _ _ hpurpose =>
    exact hcustody.of_same rfl rfl rfl rfl (by simp [Phase.isInForce, Purpose.isService, hpurpose])
  | lost _ _ hpurpose =>
    exact hcustody.of_same rfl rfl rfl rfl (by simp [Phase.isInForce, Purpose.isService, hpurpose])
  | restored hpurpose =>
    exact hcustody.of_same rfl rfl rfl rfl (by simp [Phase.isInForce, Purpose.isService, hpurpose])
  | document hpurpose =>
    exact hcustody.of_same rfl rfl rfl rfl (by simp [Phase.isInForce, Purpose.isService, hpurpose])
  | skip hpurpose =>
    exact hcustody.of_same rfl rfl rfl rfl (by simp [Phase.isInForce, Purpose.isService, hpurpose])
  | generate hcall =>
    cases hcall
    exact ⟨fun s hs => (by cases hs), hrun, hwires⟩
  | restore _ hu hheld =>
    refine ⟨fun s hs => (by cases hs), fun r hr => ?_, fun rw hrw => ?_⟩
    · cases hr
      exact held_rollBack hw hp hu
    · cases hrw
      rw [hserves.2] at hheld
      exact hheld
  | giveUp hu =>
    obtain ⟨t, ht, hheld⟩ := held_rollBack hw hp hu
    exact custody_of_run rfl rfl rfl ht hheld
  | _ => first | exact custody_of_none rfl rfl rfl | exact ⟨fun s hs => (by cases hs), hrun, hwires⟩

/-- a move leaves the served holder as it is, or has the lock, or finds it empty -/
theorem move_held (hw : w.Served) (hp : w.phase? job = some p) (hm : Move setup job w p q u) :
    u.served.held = w.served.held ∨ (p.isLocked = true ∧ u.served.held.isSome) ∨ w.served.held = none := by
  have hserves := hw.serves job p hp
  cases hm with
  | install hheld =>
    obtain ⟨rfl, -⟩ := hserves
    exact Or.inr (Or.inr hheld)
  | mark =>
    obtain rfl := hserves
    rw [served_setHolder hw.single]
    exact Or.inl rfl
  | accept =>
    have hserved : _ = servedHolder := hserves
    split_ifs
    · rw [hserved, served_setHolder hw.single]
      exact Or.inl rfl
    · exact Or.inl rfl
  | commit =>
    refine Or.inr (Or.inl ⟨rfl, ?_⟩)
    show (World.served (w.setHolder _ _)).held.isSome
    rw [held_commit hw hp]
    rfl
  | call hcall => cases hcall; exact Or.inl rfl
  | generate hcall => cases hcall; exact Or.inl rfl
  | restore _ hu =>
    obtain ⟨t, -, hheld⟩ := held_rollBack hw hp hu
    exact Or.inr (Or.inl ⟨rfl, Option.isSome_iff_exists.2 ⟨t, hheld⟩⟩)
  | giveUp hu =>
    obtain ⟨t, -, hheld⟩ := held_rollBack hw hp hu
    exact Or.inr (Or.inl ⟨rfl, Option.isSome_iff_exists.2 ⟨t, hheld⟩⟩)
  | _ => exact Or.inl rfl

theorem custody_other (hw : w.Served) (hp : w.phase? job = some p) (hm : Move setup job w p q u) {k : Nat} {r : Phase}
    (hk : w.phase? k = some r) (hne : k ≠ job) : u.Custody r := by
  obtain ⟨hbrings, hrun, hwires⟩ := hw.custody k r hk
  rcases move_held hw hp hm with hsame | ⟨hlocked, hsome⟩ | hnone
  · refine ⟨fun s hs => ?_, fun r' hr => ?_, fun rw hrw => ?_⟩
    · rw [hsame]
      exact hbrings s hs
    · rw [hsame]
      exact hrun r' hr
    · rw [hsame]
      exact hwires rw hrw
  · -- the other job does not have the lock, so it makes no change
    have hfree : r.isLocked = false := hw.sound.free_of_other (hw.sound.alone job p hp hlocked) hk hne
    exact ⟨fun _ _ => hsome, fun _ h => by simp [Phase.run?_eq_none hfree] at h,
      fun _ h => by simp [Phase.rewiring?_eq_none hfree] at h⟩
  · refine ⟨fun s hs => ?_, fun r' hr => ?_, fun rw hrw => ?_⟩
    · have := hbrings s hs
      rw [hnone] at this
      cases this
    · obtain ⟨t, -, hheld⟩ := hrun r' hr
      rw [hnone] at hheld
      cases hheld
    · have := hwires rw hrw
      rw [hnone] at this
      cases this

/-- **A move makes at most one snapshot**, with the next number -/
theorem move_snapshots (hw : w.Served) (hp : w.phase? job = some p) (hm : Move setup job w p q u) :
    (u.fresh = w.fresh ∧ ∀ s, u.served.held = some s ∨ s ∈ q.snapshots → w.Knows s) ∨
      (u.fresh = w.fresh + 1 ∧
        ∃ c, w.Makes p c ∧ ∀ s, u.served.held = some s ∨ s ∈ q.snapshots → w.Knows s ∨ s = ⟨w.fresh, c⟩) := by
  have hserves := hw.serves job p hp
  have hheld : ∀ s, w.served.held = some s → w.Knows s := fun s hs => Or.inl hs
  have hknown : ∀ s ∈ p.snapshots, w.Knows s := fun s hs => Or.inr ⟨job, p, hp, hs⟩
  cases hm with
  | install =>
    rename_i i c applies hnone
    obtain ⟨rfl, rfl⟩ := hserves
    refine Or.inr ⟨rfl, c, .install, fun s hs => Or.inr ?_⟩
    rcases hs with hs | hs
    · change (World.served (w.setHolder servedHolder _)).held = some s at hs
      rw [served_setHolder hw.single] at hs
      exact (Option.some.inj hs).symm
    · simpa [Phase.snapshots, Phase.brings?, Phase.run?] using hs
  | mark =>
    obtain rfl := hserves
    refine Or.inl ⟨rfl, fun s hs => hs.elim (fun hs => ?_) (hknown s)⟩
    rw [served_setHolder hw.single] at hs
    exact hheld s hs
  | accept =>
    have hserved : _ = servedHolder := hserves
    refine Or.inl ⟨by split_ifs <;> rfl, fun s hs => hs.elim (fun hs => ?_) (fun hs => by cases hs)⟩
    split_ifs at hs
    · rw [hserved, served_setHolder hw.single] at hs
      exact hheld s hs
    · exact hheld s hs
  | apply =>
    obtain rfl := hserves
    refine Or.inl ⟨rfl, fun s hs => hs.elim (hheld s) fun hs => ?_⟩
    rcases List.mem_cons.1 hs with rfl | hs
    · exact hknown _ (by simp [Phase.snapshots, Phase.brings?])
    · exact hheld s (Option.mem_toList.1 hs)
  | edit =>
    rename_i i make c hfree hmake
    obtain rfl := hserves
    refine Or.inr ⟨rfl, c, .edit hmake, fun s hs => hs.elim (fun hs => Or.inl (hheld s hs)) fun hs => ?_⟩
    rcases List.mem_cons.1 hs with rfl | hs
    · exact Or.inr rfl
    · exact Or.inl (hheld s (Option.mem_toList.1 hs))
  | commit =>
    refine Or.inl ⟨rfl, fun s hs => hs.elim (fun hs => ?_) (hknown s)⟩
    change (World.served (w.setHolder _ _)).held = some s at hs
    rw [held_commit hw hp] at hs
    obtain rfl := Option.some.inj hs
    exact knows_run hp rfl
  | call hcall => cases hcall; exact Or.inl ⟨rfl, fun s hs => hs.elim (hheld s) (hknown s)⟩
  | generate hcall => cases hcall; exact Or.inl ⟨rfl, fun s hs => hs.elim (hheld s) (hknown s)⟩
  | restore _ hu =>
    obtain ⟨t, ht, hheld'⟩ := held_rollBack hw hp hu
    refine Or.inl ⟨by rw [hu]; rfl, fun s hs => hs.elim (fun hs => ?_) (hknown s)⟩
    obtain rfl := Option.some.inj (hheld'.symm.trans hs)
    exact knows_target hp rfl ht
  | giveUp hu =>
    obtain ⟨t, ht, hheld'⟩ := held_rollBack hw hp hu
    refine Or.inl ⟨by rw [hu]; rfl, fun s hs => hs.elim (fun hs => ?_) (hknown s)⟩
    obtain rfl := Option.some.inj (hheld'.symm.trans hs)
    exact knows_target hp rfl ht
  | _ =>
    first
    | exact Or.inl ⟨rfl, fun s hs => hs.elim (hheld s) (hknown s)⟩
    | exact Or.inl ⟨rfl, fun s hs => hs.elim (hheld s) fun hs => by cases hs⟩

end Move

/-! ## A gateway that is served -/

section Served

variable {setup : Setup σ ι} {job : Nat} {w u : World σ ι} {p q : Phase}

/-- what is known after a move is held, or known to the job that moved, or was known before -/
theorem knows_moved {s : Snapshot} (hp : w.phase? job = some p) (hm : Move setup job w p q u)
    (hs : (u.setPhase job q).Knows s) : (u.served.held = some s ∨ s ∈ q.snapshots) ∨ w.Knows s := by
  rcases hs with hs | ⟨k, r, hk, hs⟩
  · exact Or.inl (Or.inl hs)
  · rcases phase?_setPhase_cases (move_jobs hm) hp hk with ⟨rfl, rfl⟩ | ⟨-, hk⟩
    · exact Or.inl (Or.inr hs)
    · exact Or.inr (Or.inr ⟨k, r, hk, hs⟩)

theorem served_advance (hw : w.Served) (hp : w.phase? job = some p) (hm : Move setup job w p q u) :
    (u.setPhase job q).Served := by
  have hjobs := move_jobs hm
  have hserves := hw.serves job p hp
  have hknows : ∀ s, (u.setPhase job q).Knows s → (u.served.held = some s ∨ s ∈ q.snapshots) ∨ w.Knows s :=
    fun _ => knows_moved hp hm
  have hsingle := move_holders hm
  have hbound := move_bound hm hserves hw.bound
  refine ⟨sound_advance hw.sound hp hm, hsingle.trans hw.single, hbound, ?_, ?_, ?_, ?_⟩
  · intro k r hk
    rcases phase?_setPhase_cases hjobs hp hk with ⟨rfl, rfl⟩ | ⟨-, hk⟩
    · exact move_serves hm hserves hw.bound
    · exact hw.serves k r hk
  · intro s hs
    show s.id < u.fresh
    rcases move_snapshots hw hp hm with ⟨hfresh, hold⟩ | ⟨hfresh, c, -, hnew⟩
    · rw [hfresh]
      exact (hknows s hs).elim (fun h => hw.older s (hold s h)) (hw.older s)
    · rw [hfresh]
      have hor := (hknows s hs).elim (hnew s) Or.inl
      rcases hor with h | rfl
      · exact Nat.lt_succ_of_lt (hw.older s h)
      · exact Nat.lt_succ_self _
  · intro s t hs ht hid
    rcases move_snapshots hw hp hm with ⟨-, hold⟩ | ⟨-, c, -, hnew⟩
    · exact hw.distinct s t ((hknows s hs).elim (hold s) id) ((hknows t ht).elim (hold t) id) hid
    · have hs' := (hknows s hs).elim (hnew s) Or.inl
      have ht' := (hknows t ht).elim (hnew t) Or.inl
      rcases hs' with hs' | rfl
      · rcases ht' with ht' | rfl
        · exact hw.distinct s t hs' ht' hid
        · exact absurd hid (Nat.ne_of_lt (hw.older s hs'))
      · rcases ht' with ht' | rfl
        · exact absurd hid.symm (Nat.ne_of_lt (hw.older t ht'))
        · rfl
  · intro k r hk
    rcases phase?_setPhase_cases hjobs hp hk with ⟨rfl, rfl⟩ | ⟨hne, hk⟩
    · obtain ⟨h₁, h₂, h₃⟩ := move_custody hw hp hm
      exact ⟨h₁, h₂, h₃⟩
    · obtain ⟨h₁, h₂, h₃⟩ := custody_other hw hp hm hk hne
      exact ⟨h₁, h₂, h₃⟩

/-- nothing is put into a holder, and each phase is from before or has nothing new -/
theorem served_of_phases (hw : w.Served) (hsound : u.Sound) (hholders : u.holders = w.holders)
    (hbound : u.bound = w.bound) (hfresh : u.fresh = w.fresh)
    (hphases : ∀ j q, u.phase? j = some q →
      w.phase? j = some q ∨ (q.Serves ∧ (∀ s ∈ q.snapshots, w.Knows s) ∧ w.Custody q)) : u.Served := by
  have hheld : u.served = w.served := by
    unfold World.served World.holder
    rw [hholders]
  have hknows : ∀ s, u.Knows s → w.Knows s := by
    intro s hs
    rcases hs with hs | ⟨j, q, hq, hs⟩
    · rw [hheld] at hs
      exact Or.inl hs
    · rcases hphases j q hq with hq | ⟨-, hknown, -⟩
      · exact Or.inr ⟨j, q, hq, hs⟩
      · exact hknown s hs
  refine ⟨hsound, by rw [hholders]; exact hw.single, hbound.trans hw.bound, ?_, ?_, ?_, ?_⟩
  · intro j q hq
    exact (hphases j q hq).elim (hw.serves j q) fun h => h.1
  · intro s hs
    rw [hfresh]
    exact hw.older s (hknows s hs)
  · intro s t hs ht
    exact hw.distinct s t (hknows s hs) (hknows t ht)
  · intro j q hq
    obtain ⟨h₁, h₂, h₃⟩ := (hphases j q hq).elim (hw.custody j q) fun h => h.2.2
    rw [← hheld] at h₁ h₂ h₃
    exact ⟨h₁, h₂, h₃⟩

theorem served_submit (hw : w.Served) {t : Task} (hserves : t.start.Serves)
    (hbrings : ∀ s, t.start.brings? = some s → w.served.held = some s) : (w.submit t).Served := by
  have hrun : t.start.run? = none := Phase.run?_eq_none (start_plain t).1
  refine served_of_phases hw (sound_submit hw.sound t) rfl rfl rfl fun j q hq => ?_
  rcases phase?_submit_cases hq with hq | ⟨-, rfl⟩
  · exact Or.inl hq
  · refine Or.inr ⟨hserves, fun s hs => ?_, fun s hs => ?_, fun r hr => ?_, fun rw hrw => ?_⟩
    · rw [Phase.snapshots_of_free (start_plain t).1, Option.mem_toList] at hs
      exact Or.inl (hbrings s hs)
    · rw [hbrings s hs]
      rfl
    · rw [hrun] at hr
      cases hr
    · rw [Phase.rewiring?_eq_none (start_plain t).1] at hrw
      cases hrw

theorem served_event {e : Event} (hw : w.Served) (hs : Step setup w e u)
    (he : ∀ t, e ≠ .submit t) (he' : ∀ j, e ≠ .advance j) (he'' : ∀ i s, e ≠ .replace i s) : u.Served := by
  have hsound := sound_step hw.sound hs
  cases hs with
  | submit => exact absurd rfl (he _)
  | advance => exact absurd rfl (he' _)
  | settle hp =>
    refine served_of_phases hw hsound rfl rfl rfl fun j q hq => ?_
    rcases phase?_setPhase_cases rfl hp hq with ⟨rfl, rfl⟩ | ⟨-, hq⟩
    · have hserves := hw.serves _ _ hp
      obtain ⟨h₁, h₂, h₃⟩ := hw.custody _ _ hp
      exact Or.inr ⟨hserves, fun s hs => Or.inr ⟨_, _, hp, hs⟩, h₁, h₂, h₃⟩
    · exact Or.inl hq
  | resettle hp => exact (hw.serves _ _ hp).elim
  | linger => exact served_of_phases hw hsound rfl rfl rfl fun j q hq => Or.inl hq
  | tick => exact served_of_phases hw hsound rfl rfl rfl fun j q hq => Or.inl hq
  | drop hp =>
    refine served_of_phases hw hsound rfl rfl rfl fun j q hq => ?_
    rcases phase?_setPhase_cases (u := w) rfl hp hq with ⟨rfl, rfl⟩ | ⟨-, hq⟩
    · exact Or.inr ⟨trivial, fun s hs => (by cases hs), custody_of_none rfl rfl rfl⟩
    · exact Or.inl hq
  | replace => exact absurd rfl (he'' _ _)

end Served

end World

theorem idle_boot (config : Option RuntimeConfig) (memory : ι) : (Gateway.boot config memory).world.Idle :=
  ⟨rfl, rfl, rfl, Nat.one_pos⟩

theorem served_boot (config : Option RuntimeConfig) (memory : ι) : (Gateway.boot config memory).world.Served := by
  have hnone : ∀ j, (Gateway.boot config memory).world.phase? j = none := fun _ => rfl
  have hid : ∀ s, (Gateway.boot config memory).world.Knows s → s.id = 0 ∧ config.map (Snapshot.mk 0) = some s := by
    intro s hs
    rcases hs with hs | ⟨j, p, hp, -⟩
    · cases config with
      | none => cases hs
      | some c =>
        cases hs
        exact ⟨rfl, rfl⟩
    · rw [hnone] at hp
      cases hp
  refine ⟨World.sound_of_idle (idle_boot config memory), rfl, rfl, ?_, ?_, ?_, ?_⟩
  · intro j p hp
    rw [hnone] at hp
    cases hp
  · intro s hs
    rw [(hid s hs).1]
    exact Nat.one_pos
  · intro s t hs ht _
    exact Option.some.inj ((hid s hs).2.symm.trans (hid t ht).2)
  · intro j p hp
    rw [hnone] at hp
    cases hp

section Traffic

variable [Pattern.Engine] {settings : Settings} {env : Environment} {introspectors : Introspectors ι} {g g' : Gateway ι}

/-- **Every piece of traffic keeps a gateway served** -/
theorem served_serve (hg : g.world.Served) (h : Serve settings env introspectors g t g') : g'.world.Served := by
  cases h with
  | take ho =>
    have hordered := ordered_of_plan ho
    refine World.served_submit hg (ordered_serves hordered) fun s hs => ?_
    cases hordered <;> cases hs
  | apply hheld =>
    refine World.served_submit hg rfl fun s hs => ?_
    cases hs
    exact hheld
  | advance hp hm => exact World.served_advance hg hp hm
  | settle hs => exact World.served_event hg hs (by simp) (by simp) (by simp)
  | linger hs => exact World.served_event hg hs (by simp) (by simp) (by simp)
  | tick hs => exact World.served_event hg hs (by simp) (by simp) (by simp)
  | hangUp _ _ hs => exact World.served_event hg hs (by simp) (by simp) (by simp)

end Traffic

end EntityGateway
