/-
The permissions after a change that was not made.

A change replaces the permissions before the other services have accepted its snapshot, and a rollback derives them
again from what was in force before, but only if the gateway was ready. So once it is ready, a change that fails leaves
the permissions as they were, wherever it fails; and before, a change does so unless it fails while the services are
pointed at it: then the permissions of what was refused stay in force.

- `Asked`: a change that begins, of a request, at the start or asked for directly;
- `guarded_move`, `guarded_run`: what is known of the permissions in each phase of a change;
- `refused_permissions_are_withdrawn`: the whole of it, for a change that failed;
- `refused_permissions_stay_in_force`: a gateway that is not ready, and a caller who may read what nobody was to read.
-/
import EntityGateway.Proofs.Orchestration.EarlyFailure
import EntityGateway.Proofs.Served.Coherence

namespace EntityGateway

open Http

namespace Gateway

/-- a job is about to begin a change of what is served: traffic led to it, or the change is asked for directly -/
inductive Asked [Pattern.Engine] (settings : Settings) (env : Environment) (introspectors : Introspectors ι) :
    Gateway ι → Nat → Trigger → Prop
  | reached {g : Gateway ι} (hg : g.Reached settings env introspectors) (hp : g.world.phase? job = some (.locking t)) :
      Asked settings env introspectors g job t
  | direct {g : Gateway ι} (hg : g.Reached settings env introspectors) (ht : t.holder = servedHolder) :
      Asked settings env introspectors (g.take ⟨.change t, success⟩) g.world.jobs.length t

end Gateway

namespace World

/-! ## Holders -/

/-- what a holder holds is what it held before a change, or the snapshot of the change in its place -/
def Bears (before : Option Snapshot) (s : Snapshot) (held : Option Snapshot) : Prop :=
  ∀ t, before = some t → held = some t ∨ held = some s ∧ t.id ≠ s.id

theorem bears_hold {before : Option Snapshot} {h : ConfigHolder} (hheld : ∀ t, before = some t → h.held = some t)
    (s : Snapshot) : Bears before s (hold h s).held ∧ (hold h s).held.isSome := by
  unfold hold
  split_ifs with hholds
  · refine ⟨fun t ht => Or.inl (hheld t ht), ?_⟩
    unfold ConfigHolder.holds at hholds
    cases hh : h.held with
    | none => simp [hh] at hholds
    | some t => rfl
  · refine ⟨fun t ht => Or.inr ⟨rfl, fun hid => hholds ?_⟩, rfl⟩
    simp [ConfigHolder.holds, hheld t ht, hid]

theorem held_putBack_of_bears {t s : Snapshot} {h : ConfigHolder} (hb : Bears (some t) s h.held) :
    (putBack (some t) h).held = some t := by
  unfold putBack
  rcases hb t rfl with hheld | ⟨hheld, hid⟩
  · rw [if_neg (by simp [hasChanged, hheld])]
    exact hheld
  · rw [if_pos (by simp [hasChanged, hheld, hid])]
    rfl

/-! ## Calls to the services -/

section Calls

variable [Pattern.Engine] {settings : Settings} {env : Environment} {introspectors : Introspectors ι}
  {w u : World Services ι}

/-- permissions are rebuilt by one call, and no other call changes them; the resolver refuses nothing if something is
held -/
theorem permissions_of_call {wire : Wire} {h : ConfigHolder} {set : ProviderSet} {s : Snapshot} {p : Pending}
    (hcall : w.makeCall (Server.setup settings env introspectors) (wire.call h set s) = (p, u))
    (hheld : h.held.isSome) :
    (∃ v, u = { w with services := v }) ∧ p.answersAt = some w.now ∧
      u.services.permissions = (if wire = .permissions then .ofConfig s.config else w.services.permissions) ∧
      (wire.who = .authorization → p.result = .ok ()) := by
  obtain ⟨v, rfl, hat, hanswer⟩ := makeCall_answer hcall
  obtain ⟨t, ht⟩ := Option.isSome_iff_exists.1 hheld
  have hconfig := config_of_held ht
  refine ⟨⟨v, rfl⟩, hat, ?_, fun hwho => ?_⟩
  · rcases hanswer with ⟨-, hanswer⟩ | ⟨e, -, hanswer, rfl⟩
    · cases wire with
      | permissions =>
        cases hanswer
        rfl
      | rebind who =>
        rw [if_neg (by simp)]
        cases who <;>
          · obtain ⟨_, -, rfl⟩ := ok_of_map hanswer
            rfl
    · rw [if_neg ?_]
      rintro rfl
      cases hanswer
  · rcases hanswer with ⟨hok, -⟩ | ⟨e, -, hanswer, -⟩
    · exact hok
    · cases wire with
      | permissions => cases hanswer
      | rebind who =>
        cases hwho
        simp [Wire.call, Services.answer, hconfig, Except.map] at hanswer

end Calls

/-! ## What is known of the permissions in each phase -/

section Guarded

/-- what is known of the permissions while the services are pointed at something, with some calls still to be made -/
def Pointed (before : World Services ι) (r : Run) (w : World Services ι) (rw : Rewiring) (todo : List Wire) : Prop :=
  match rw.purpose with
  | .serve _ => rw.snapshot = r.snapshot ∧ Bears before.served.held r.snapshot w.served.held ∧
      w.services.permissions =
        if .permissions ∈ todo then before.services.permissions else .ofConfig r.snapshot.config
  | .restore fault => before.ready = true ∧ fault.stage? = some .rewiringDependents ∧
      before.services.permissions = .ofConfig rw.snapshot.config ∧
      (.permissions ∉ todo → w.services.permissions = .ofConfig rw.snapshot.config)

/-- the permissions after a failure -/
def Withdrawn (before : World Services ι) (r : Run) (w : World Services ι) (fault : ChangeError) : Prop :=
  w.services.permissions = if before.ready = false ∧ fault.stage? = some .rewiringDependents
    then .ofConfig r.snapshot.config else before.services.permissions

/-- what is known of the permissions, given where a change is that began in another world -/
def Guarded (before : World Services ι) (r : Run) (w : World Services ι) : Phase → Prop
  | .validating r' | .constructing r' | .preparing r' _ _ | .relating r' _ _ | .committing r' _ _ =>
    r = r' ∧ w.services.permissions = before.services.permissions ∧
      ∀ t, before.served.held = some t → w.served.held = some t
  | .calling rw todo =>
    r = rw.run ∧ rw.holder = servedHolder ∧ w.served.held.isSome ∧ todo <:+ Wire.all ∧ Pointed before r w rw todo
  | .awaiting rw wire todo p =>
    r = rw.run ∧ rw.holder = servedHolder ∧ w.served.held.isSome ∧ wire :: todo <:+ Wire.all ∧
      Pointed before r w rw todo ∧ p.answersAt.any (· ≤ w.now) = true ∧ (wire.who = .authorization → p.result = .ok ())
  | .rollingBack r' fault =>
    r = r' ∧ fault.stage? = some .rewiringDependents ∧ w.services.permissions = .ofConfig r.snapshot.config ∧
      Bears before.served.held r.snapshot w.served.held
  | .failing r' fault => r = r' ∧ Withdrawn before r w fault
  | .generating .. | .documenting .. | .concluding .. | .finished _ | .dropped => True
  | _ => False

/-- what is known when a change begins -/
structure Begun (before : World Services ι) (r : Run) : Prop where
  holder : r.holder = servedHolder
  checkpoint : r.checkpoint = before.checkpoint servedHolder
  bound : before.bound = servedHolder
  coherent : before.ready = true →
    ∃ t, before.served.held = some t ∧ before.services.permissions = .ofConfig t.config

variable {settings : Settings} {env : Environment} {introspectors : Introspectors ι} {before w u : World Services ι}
  {r : Run} {job : Nat} {p q : Phase} {e : Event}

/-- what is known of the permissions rests on them, on what is held and on the time, and on nothing else -/
theorem Guarded.kept (hg : Guarded before r w p) (hheld : ∀ s, w.served.held = some s → u.served.held = some s)
    (hpermissions : u.services.permissions = w.services.permissions) (hnow : w.now ≤ u.now) : Guarded before r u p := by
  have hsome : w.served.held.isSome → u.served.held.isSome := by
    intro h
    obtain ⟨s, hs⟩ := Option.isSome_iff_exists.1 h
    rw [hheld s hs]
    rfl
  have hbears : Bears before.served.held r.snapshot w.served.held →
      Bears before.served.held r.snapshot u.served.held :=
    fun hb t ht => (hb t ht).imp (hheld t) fun h => ⟨hheld _ h.1, h.2⟩
  have hpointed : ∀ {rw todo}, Pointed before r w rw todo → Pointed before r u rw todo := by
    intro rw todo hp
    unfold Pointed at hp ⊢
    cases hpurpose : rw.purpose with
    | serve c =>
      simp only [hpurpose, hpermissions] at hp ⊢
      exact ⟨hp.1, hbears hp.2.1, hp.2.2⟩
    | restore fault =>
      simp only [hpurpose, hpermissions] at hp ⊢
      exact hp
  cases p with
  | validating => exact ⟨hg.1, hpermissions.trans hg.2.1, fun t ht => hheld t (hg.2.2 t ht)⟩
  | constructing => exact ⟨hg.1, hpermissions.trans hg.2.1, fun t ht => hheld t (hg.2.2 t ht)⟩
  | preparing => exact ⟨hg.1, hpermissions.trans hg.2.1, fun t ht => hheld t (hg.2.2 t ht)⟩
  | relating => exact ⟨hg.1, hpermissions.trans hg.2.1, fun t ht => hheld t (hg.2.2 t ht)⟩
  | committing => exact ⟨hg.1, hpermissions.trans hg.2.1, fun t ht => hheld t (hg.2.2 t ht)⟩
  | calling =>
    obtain ⟨hr, hholder, hs, htodo, hp⟩ := hg
    exact ⟨hr, hholder, hsome hs, htodo, hpointed hp⟩
  | awaiting =>
    obtain ⟨hr, hholder, hs, htodo, hp, hat, hok⟩ := hg
    refine ⟨hr, hholder, hsome hs, htodo, hpointed hp, ?_, hok⟩
    obtain ⟨t, ht, hle⟩ := (Option.any_eq_true _ _).1 hat
    rw [decide_eq_true_eq] at hle
    exact (Option.any_eq_true _ _).2 ⟨t, ht, decide_eq_true (hle.trans hnow)⟩
  | rollingBack => exact ⟨hg.1, hg.2.1, hpermissions.trans hg.2.2.1, hbears hg.2.2.2⟩
  | failing => exact ⟨hg.1, hpermissions.trans hg.2⟩
  | _ => exact hg

/-- a service other than the resolver is called when the permissions were rebuilt -/
theorem permissions_not_mem_todo {wire : Wire} {todo : List Wire} (htodo : wire :: todo <:+ Wire.all)
    (hwho : wire.who ≠ .authorization) : .permissions ∉ todo := by
  simp only [Wire.all, List.suffix_cons_iff, List.cons.injEq, List.suffix_nil, reduceCtorEq, or_false] at htodo
  rcases htodo with ⟨rfl, -⟩ | ⟨rfl, -⟩ | ⟨rfl, rfl⟩ | ⟨rfl, rfl⟩
  · exact absurd rfl hwho
  · exact absurd rfl hwho
  · decide
  · decide

theorem permissions_not_mem_rest {todo : List Wire} (htodo : .permissions :: todo <:+ Wire.all) :
    .permissions ∉ todo := by
  simp only [Wire.all, List.suffix_cons_iff, List.cons.injEq, List.suffix_nil, reduceCtorEq, or_false, false_or,
    false_and, true_and] at htodo
  subst htodo
  decide

theorem permissions_not_mem_of_failed {setup : Setup σ ι} {wire : Wire} {todo : List Wire} {p : Pending}
    {reply : Option (Except GatewayError Unit)} {fault : ChangeError} (htodo : wire :: todo <:+ Wire.all)
    (hat : p.answersAt.any (· ≤ w.now) = true) (hok : wire.who = .authorization → p.result = .ok ())
    (hreply : w.replied? p = some reply) (hbad : callFailure setup wire reply = some fault) : .permissions ∉ todo := by
  refine permissions_not_mem_todo htodo fun hwho => ?_
  obtain rfl := replied_atOnce hat hreply
  rw [callFailure_eq_none.2 (hok hwho)] at hbad
  cases hbad

theorem withdrawn_of_early {fault : ChangeError} (h : w.services.permissions = before.services.permissions)
    (hstage : fault.stage? ≠ some .rewiringDependents) : Withdrawn before r w fault := by
  rw [Withdrawn, if_neg fun hc => hstage hc.2]
  exact h

theorem withdrawn_of_restored {fault : ChangeError} {s : Snapshot} (hready : before.ready = true)
    (hpermissions : w.services.permissions = .ofConfig s.config)
    (hbefore : before.services.permissions = .ofConfig s.config) : Withdrawn before r w fault := by
  rw [Withdrawn, if_neg (by simp [hready])]
  exact hpermissions.trans hbefore.symm

theorem held_putBack_served (hb : Begun before r) (hsingle : w.holders.length = 1) {t : Snapshot}
    (ht : before.served.held = some t) (hbears : Bears before.served.held r.snapshot w.served.held)
    (hu : u = (w.setHolder r.holder (putBack r.checkpoint.target (w.holder r.holder))).publish
      r.checkpoint.bound r.checkpoint.set) : u.served.held = some t := by
  have htarget : r.checkpoint.target = some t := by rw [hb.checkpoint]; exact ht
  subst hu
  show (World.served (w.setHolder r.holder (putBack r.checkpoint.target (w.holder r.holder)))).held = some t
  rw [hb.holder, served_setHolder hsingle, htarget]
  exact held_putBack_of_bears (by rw [← ht]; exact hbears)

theorem callOf?_of_free {setup : Setup σ ι} {w : World σ ι} (hp : w.phase? job = some p) (hfree : p.isLocked = false) :
    w.callOf? setup (.advance job) = none := by
  simp only [callOf?, hp]
  cases p <;> first | rfl | cases hfree

variable [Pattern.Engine]

/-- **A move keeps to what is known of the permissions** -/
theorem guarded_move (hb : Begun before r) (hsingle : w.holders.length = 1) (hg : Guarded before r w p)
    (hm : Move (Server.setup settings env introspectors) job w p q u) : Guarded before r u q := by
  cases hm with
  | invalid => exact ⟨hg.1, withdrawn_of_early hg.2.1 (by simp [ChangeError.stage?])⟩
  | unsupported => exact ⟨hg.1, withdrawn_of_early hg.2.1 (by simp [ChangeError.stage?])⟩
  | unprepared => exact ⟨hg.1, withdrawn_of_early hg.2.1 (by simp [ChangeError.stage?])⟩
  | unrelated => exact ⟨hg.1, withdrawn_of_early hg.2.1 (by simp [ChangeError.stage?])⟩
  | valid => exact hg
  | construct => exact hg
  | gathered => exact hg
  | gatheredInProduction => exact hg
  | related => exact hg
  | commit =>
    obtain ⟨rfl, hpermissions, hheld⟩ := hg
    obtain ⟨hbears, hsome⟩ := bears_hold hheld r.snapshot
    have hserved : World.served ((w.enter .rewiringDependents).setHolder r.holder
        (hold (w.holder r.holder) r.snapshot)) = hold w.served r.snapshot := by
      rw [hb.holder]
      exact served_setHolder hsingle _
    refine ⟨rfl, hb.holder, ?_, List.suffix_refl _, rfl, ?_, ?_⟩
    · exact hserved ▸ hsome
    · exact hserved ▸ hbears
    · rw [if_pos (by decide)]
      exact hpermissions
  | call hcall =>
    rename_i answer rw wire todo
    obtain ⟨hr, hholder, hs, htodo, hp⟩ := hg
    have hheld : (w.holder rw.holder).held.isSome := by
      rw [hholder]
      exact hs
    obtain ⟨⟨v, rfl⟩, hat, hpermissions, hok⟩ := permissions_of_call hcall hheld
    refine ⟨hr, hholder, hs, htodo, ?_, by simp [hat], hok⟩
    unfold Pointed at hp ⊢
    cases hpurpose : rw.purpose with
    | serve c =>
      simp only [hpurpose] at hp ⊢
      obtain ⟨hsnapshot, hbears, hrebuilt⟩ := hp
      refine ⟨hsnapshot, hbears, ?_⟩
      rw [hpermissions, hsnapshot]
      by_cases hwire : wire = .permissions
      · rw [if_pos hwire, if_neg ?_]
        subst hwire
        exact permissions_not_mem_rest htodo
      · rw [if_neg hwire, hrebuilt]
        simp [Ne.symm hwire]
    | restore fault =>
      simp only [hpurpose] at hp ⊢
      obtain ⟨hready, hstage, hbefore, hrebuilt⟩ := hp
      refine ⟨hready, hstage, hbefore, fun hrest => ?_⟩
      rw [hpermissions]
      by_cases hwire : wire = .permissions
      · rw [if_pos hwire]
      · rw [if_neg hwire]
        exact hrebuilt (by simp [Ne.symm hwire, hrest])
  | answered hreply hok =>
    obtain ⟨hr, hholder, hs, htodo, hp, -⟩ := hg
    exact ⟨hr, hholder, hs, (List.suffix_cons _ _).trans htodo, hp⟩
  | refused hreply hbad hpurpose =>
    obtain ⟨rfl, -, -, htodo, hp, hat, hok⟩ := hg
    have hrest := permissions_not_mem_of_failed htodo hat hok hreply hbad
    simp only [Pointed, hpurpose, if_neg hrest] at hp
    exact ⟨rfl, callFailure_stage hbad, hp.2.2, hp.2.1⟩
  | lost hreply hbad hpurpose =>
    obtain ⟨hr, -, -, htodo, hp, hat, hok⟩ := hg
    have hrest := permissions_not_mem_of_failed htodo hat hok hreply hbad
    simp only [Pointed, hpurpose] at hp
    exact ⟨hr, withdrawn_of_restored hp.1 (hp.2.2.2 hrest) hp.2.2.1⟩
  | restored hpurpose =>
    obtain ⟨hr, -, -, -, hp⟩ := hg
    simp only [Pointed, hpurpose] at hp
    exact ⟨hr, withdrawn_of_restored hp.1 (hp.2.2.2 List.not_mem_nil) hp.2.2.1⟩
  | document => trivial
  | skip => trivial
  | generate => trivial
  | documented => trivial
  | succeed => trivial
  | restore hready hu hheld =>
    obtain ⟨rfl, hstage, -, hbears⟩ := hg
    have hwas : before.ready = true := by simpa [hb.checkpoint, checkpoint] using hready
    obtain ⟨t, ht, hpermissions⟩ := hb.coherent hwas
    have hput := held_putBack_served hb hsingle ht hbears hu
    have hbound : r.checkpoint.bound = servedHolder := by simpa [hb.checkpoint, checkpoint] using hb.bound
    rw [hbound] at hheld
    obtain rfl := Option.some.inj (hput.symm.trans hheld)
    exact ⟨rfl, hbound, by rw [hput]; rfl, List.suffix_refl _, hwas, hstage, hpermissions,
      fun h => absurd (by decide) h⟩
  | giveUp hu hidle =>
    obtain ⟨rfl, hstage, hpermissions, hbears⟩ := hg
    have hwas : before.ready = false := by
      rw [Bool.eq_false_iff]
      intro hwas
      obtain ⟨t, ht, -⟩ := hb.coherent hwas
      have hput := held_putBack_served hb hsingle ht hbears hu
      have hbound : r.checkpoint.bound = servedHolder := by simpa [hb.checkpoint, checkpoint] using hb.bound
      rcases hidle with hidle | hidle
      · simp [hb.checkpoint, checkpoint, hwas] at hidle
      · rw [hbound] at hidle
        cases hput.symm.trans hidle
    refine ⟨rfl, ?_⟩
    subst hu
    rw [Withdrawn, if_pos ⟨hwas, hstage⟩]
    exact hpermissions
  | fail => trivial
  | _ => trivial

/-- **All others leave alone** what is known of the permissions while a job has the lock -/
theorem guarded_of_other (hsound : w.Sound) (hrun : w.running = some job)
    (hs : Step (Server.setup settings env introspectors) w e u) (hother : e.mover? ≠ some job)
    (hreplace : ∀ i s, e ≠ .replace i s) (hg : Guarded before r w p) : Guarded before r u p := by
  cases hs with
  | advance hk hm =>
    rename_i k p' q' v
    have hfree : p'.isLocked = false := hsound.free_of_other hrun hk fun h => hother (congrArg some h)
    have hservices : v.services = w.services := by
      rw [move_services hk hm, callOf?_of_free hk hfree]
      rfl
    exact hg.kept (fun s hs => held_of_free hm hfree hs) (congrArg Services.permissions hservices) (move_now hm).ge
  | tick hlt => exact hg.kept (fun _ h => h) rfl hlt.le
  | replace => exact absurd rfl (hreplace _ _)
  | _ => exact hg.kept (fun _ h => h) rfl le_rfl

/-- **A step keeps to what is known of the permissions** -/
theorem guarded_step (hb : Begun before r) (hsound : w.Sound) (hsingle : w.holders.length = 1)
    (hp : w.phase? job = some p) (hg : Guarded before r w p)
    (hs : Step (Server.setup settings env introspectors) w e u) (hreplace : ∀ i s, e ≠ .replace i s) :
    ∃ q, u.phase? job = some q ∧ Guarded before r u q := by
  obtain ⟨q, hq, hturn⟩ := turn_of_step hs hp
  refine ⟨q, hq, ?_⟩
  cases hturn with
  | moves hm =>
    have hmoved := guarded_move hb hsingle hg hm
    exact hmoved.kept (fun _ h => h) rfl le_rfl
  | settles hgathering => cases p <;> cases hgathering <;> exact hg
  | drops => trivial
  | rests _ hother =>
    cases hlocked : p.isLocked with
    | true => exact guarded_of_other hsound (hsound.alone job p hp hlocked) hs hother hreplace hg
    | false => cases p <;> trivial

end Guarded

end World

/-! ## A change that is not made -/

/-- a served gateway in which a job is about to begin a change -/
structure World.Opened (w : World Services ι) (job : Nat) (t : Trigger) : Prop where
  sound : w.Sound
  single : w.holders.length = 1
  bound : w.bound = servedHolder
  phase : w.phase? job = some (.locking t)
  holder : t.holder = servedHolder
  coherent : w.running = none → w.ready = true →
    ∃ s, w.served.held = some s ∧ w.services.permissions = .ofConfig s.config

section Traffic

variable [Pattern.Engine] {settings : Settings} {env : Environment} {introspectors : Introspectors ι} {g g' : Gateway ι}
  {job : Nat}
  {t : Trigger} {e : ChangeError}

theorem opened_of_asked (h : g.Asked settings env introspectors job t) : g.world.Opened job t := by
  cases h with
  | reached hg hp =>
    have hw := consistent_reached hg
    refine ⟨hw.served.sound, hw.served.single, hw.served.bound, hp, ?_, fun hrun hready => ?_⟩
    · have hserves := hw.served.serves job _ hp
      cases t <;> exact hserves
    · obtain ⟨s, hs, hcoherent⟩ := (hw.rest hrun).agrees hready
      exact ⟨s, hs, hcoherent.permissions⟩
  | direct hg ht =>
    have hw := consistent_reached hg
    refine ⟨World.sound_submit hw.served.sound _, hw.served.single, hw.served.bound,
      World.phase?_submit_self _ (.change t), ht, fun hrun hready => ?_⟩
    obtain ⟨s, hs, hcoherent⟩ := (hw.rest hrun).agrees hready
    exact ⟨s, hs, hcoherent.permissions⟩

/-- no piece of traffic gives a holder another snapshot but by a job -/
theorem event_of_serve {x : Traffic} (h : Serve settings env introspectors g x g') :
    ∃ e, (∀ i s, e ≠ .replace i s) ∧ Step (Server.setup settings env introspectors) g.world e g'.world := by
  cases h with
  | take => exact ⟨_, by simp, .submit⟩
  | apply => exact ⟨_, by simp, .submit⟩
  | advance hp hm => exact ⟨_, by simp, .advance hp hm⟩
  | settle hs => exact ⟨_, by simp, hs⟩
  | linger hs => exact ⟨_, by simp, hs⟩
  | tick hs => exact ⟨_, by simp, hs⟩
  | hangUp _ _ hs => exact ⟨_, by simp, hs⟩

/-- what is known of the permissions in a gateway in which a change is being made -/
structure Gateway.Guards (before : World Services ι) (r : Run) (job : Nat) (g : Gateway ι) : Prop where
  sound : g.world.Sound
  single : g.world.holders.length = 1
  guarded : ∃ p, g.world.phase? job = some p ∧ World.Guarded before r g.world p

theorem guards_serve {before : World Services ι} {r : Run} {x : Traffic} (hb : World.Begun before r)
    (hg : g.Guards before r job) (h : Serve settings env introspectors g x g') : g'.Guards before r job := by
  obtain ⟨e, hreplace, hs⟩ := event_of_serve h
  obtain ⟨p, hp, hguarded⟩ := hg.guarded
  exact ⟨World.sound_step hg.sound hs, (World.step_places hs).1.trans hg.single,
    World.guarded_step hb hg.sound hg.single hp hguarded hs hreplace⟩

/-- the first step of a change: it is refused, with the services as they are, or it begins -/
theorem guards_start (ho : g.world.Opened job t) (h : Serve settings env introspectors g (.advance job) g') :
    (∃ fault, g'.world.phase? job = some (.finished (.changed (.error fault))) ∧
        fault.stage? ≠ some .rewiringDependents ∧ g'.world.services = g.world.services) ∨
      ∃ r, World.Begun g.world r ∧ g'.world.phase? job = some (.validating r) ∧ g'.Guards g.world r job := by
  obtain ⟨e, -, hs⟩ := event_of_serve h
  have hsound := World.sound_step ho.sound hs
  have hsingle := (World.step_places hs).1.trans ho.single
  cases h with
  | advance hp hm =>
    rename_i p q u
    obtain rfl := Option.some.inj (ho.phase.symm.trans hp)
    have hq := World.phase?_moved (World.move_jobs hm) hp q
    have hbegins : ∀ r : Run, q = .validating r → r.holder = servedHolder →
        r.checkpoint = g.world.checkpoint servedHolder →
        g.world.running = none → u.services = g.world.services → u.served = g.world.served →
        ∃ r, World.Begun g.world r ∧ (u.setPhase job q).phase? job = some (.validating r) ∧
          Gateway.Guards g.world r job { g with
            world := u.setPhase job q
            commits := g.commits ++ if (Phase.locking t).isCommitting then [job] else [] } := by
      rintro r rfl hholder hcheckpoint hrun hservices hserved
      refine ⟨r, ⟨hholder, hcheckpoint, ho.bound, ho.coherent hrun⟩, hq, hsound, hsingle, _, hq, rfl, ?_, ?_⟩
      · exact congrArg Services.permissions hservices
      · intro t ht
        rw [← ht]
        exact congrArg ConfigHolder.held hserved
    cases hm with
    | busy => exact Or.inl ⟨_, hq, by simp [ChangeError.stage?], rfl⟩
    | reject => exact Or.inl ⟨_, hq, by simp [ChangeError.stage?], rfl⟩
    | apply hrun =>
      have hi := ho.holder
      exact Or.inr (hbegins _ rfl hi (congrArg g.world.checkpoint hi) hrun rfl rfl)
    | edit hrun =>
      have hi := ho.holder
      exact Or.inr (hbegins _ rfl hi (congrArg g.world.checkpoint hi) hrun rfl rfl)

/-- the last step of a change that is not made -/
theorem withdrawn_end {before : World Services ι} {r : Run} {x : Traffic} (hg : g.Guards before r job)
    (hopen : g.world.result? job = none) (h : Serve settings env introspectors g x g')
    (hend : g'.world.result? job = some (.changed (.error e))) : World.Withdrawn before r g'.world e := by
  obtain ⟨p, hp, hguarded⟩ := hg.guarded
  obtain ⟨ev, -, hs⟩ := event_of_serve h
  obtain rfl := World.result?_of_other hs hp hopen hend
  generalize g'.world = u at hs hend ⊢
  cases hs with
  | advance hp' hm =>
    rename_i p' q v
    obtain rfl := Option.some.inj (hp.symm.trans hp')
    obtain rfl : q = .finished (.changed (.error e)) :=
      Option.some.inj ((World.phase?_moved (World.move_jobs hm) hp q).symm.trans (World.result?_eq_some.1 hend))
    rcases World.move_failed hm with ⟨⟨t, rfl, -⟩, -⟩ | ⟨⟨r', rfl⟩, rfl⟩
    · exact hguarded.elim
    · exact hguarded.2

theorem serve_begin (hp : g.world.phase? job = some (.locking t)) :
    Serve settings env introspectors g (.advance job) (g.step settings env introspectors (.advance job)) :=
  serve_of_event rfl (World.step_of_next? hp rfl)

/-- what the permissions are after a change that is not made -/
theorem withdrawn_run (ho : g.world.Opened job t) {l : List Traffic}
    (hopen : (g.run settings env introspectors (.advance job :: l).dropLast).world.result? job = none)
    (hend : (g.run settings env introspectors (.advance job :: l)).world.result? job = some (.changed (.error e))) :
    let after := (g.run settings env introspectors (.advance job :: l)).world
    (after.services = g.world.services ∧ e.stage? ≠ some .rewiringDependents) ∨
      ∃ r, (g.run settings env introspectors [.advance job]).world.phase? job = some (.validating r) ∧
        World.Withdrawn g.world r after e := by
  have hserve : Serve settings env introspectors g (.advance job) _ := serve_begin ho.phase
  have hstart := guards_start ho hserve
  rcases List.eq_nil_or_concat l with rfl | ⟨l, x, rfl⟩
  · rcases hstart with ⟨fault, hfinished, hstage, hservices⟩ | ⟨r, -, hphase, -⟩
    · cases (World.result?_eq_some.2 hfinished).symm.trans hend
      exact Or.inl ⟨hservices, hstage⟩
    · cases hphase.symm.trans (World.result?_eq_some.1 hend)
  · rw [List.concat_eq_append] at hopen hend ⊢
    have hlast : g.run settings env introspectors (.advance job :: (l ++ [x])) =
        (g.run settings env introspectors (.advance job :: l)).step settings env introspectors x := by
      simp [Gateway.run]
    rw [← List.cons_append, List.dropLast_concat] at hopen
    rw [hlast] at hend ⊢
    rcases hstart with ⟨fault, hfinished, -⟩ | ⟨r, hb, hphase, hguards⟩
    · -- a change that was refused has come to its end before
      have hended := ended_traffic settings env introspectors hfinished rfl l
      rw [show g.run settings env introspectors (.advance job :: l) =
        (g.step settings env introspectors (.advance job)).run settings env introspectors l from rfl,
        World.result?_eq_some.2 hended] at hopen
      cases hopen
    · have hguards' : ((g.step settings env introspectors (.advance job)).run settings env introspectors l).Guards
          g.world r job :=
        invariant_traffic (P := fun g' => g'.Guards g.world r job) (fun _ _ _ _ => guards_serve hb) hguards
      rcases serve_of_step settings env introspectors (g.run settings env introspectors (.advance job :: l)) x with
        hsame | hserve
      · rw [hsame, hopen] at hend
        cases hend
      · exact Or.inr ⟨r, hphase, withdrawn_end hguards' hopen hserve hend⟩

/-- **The permissions of a configuration that was refused are withdrawn.** A change begins and fails. If the gateway
was ready, or the change failed before its snapshot was put in force, every role may do after it, on every entity, what
it might do before, and the same roles have rights on it. If not, the permissions are those of what was refused. -/
theorem refused_permissions_are_withdrawn (hasked : g.Asked settings env introspectors job t) {l : List Traffic}
    (hopen : (g.run settings env introspectors (.advance job :: l).dropLast).world.result? job = none)
    (hend : (g.run settings env introspectors (.advance job :: l)).world.result? job = some (.changed (.error e))) :
    let before := g.world.services.permissions
    let after := (g.run settings env introspectors (.advance job :: l)).world.services.permissions
    (g.world.ready = true ∨ e.stage? ≠ some .rewiringDependents →
      ∀ entity, after.rolesFor entity = before.rolesFor entity ∧
        ∀ role action, after.allows entity role action = before.allows entity role action) ∧
    (g.world.ready = false → e.stage? = some .rewiringDependents →
      ∃ r, (g.run settings env introspectors [.advance job]).world.phase? job = some (.validating r) ∧
        after = .ofConfig r.snapshot.config) := by
  intro before after
  rcases withdrawn_run (opened_of_asked hasked) hopen hend with ⟨hservices, hstage⟩ | ⟨r, hphase, hwithdrawn⟩
  · have hsame : after = before := congrArg Services.permissions hservices
    refine ⟨fun _ entity => ⟨by rw [hsame], fun role action => by rw [hsame]⟩, fun _ h => absurd h hstage⟩
  · refine ⟨fun hkept => ?_, fun hready hstage => ⟨r, hphase, ?_⟩⟩
    · have hsame : after = before := by
        have hnot : ¬ (g.world.ready = false ∧ e.stage? = some .rewiringDependents) := by
          rintro ⟨hready, hstage⟩
          rcases hkept with h | h
          · rw [hready] at h
            cases h
          · exact h hstage
        rw [World.Withdrawn, if_neg hnot] at hwithdrawn
        exact hwithdrawn
      exact fun entity => ⟨by rw [hsame], fun role action => by rw [hsame]⟩
    · rw [World.Withdrawn, if_pos ⟨hready, hstage⟩] at hwithdrawn
      exact hwithdrawn

end Traffic

/-! ### A caller who may read -/

open scoped Simulation

/-- a configuration that lets everybody read an entity, under a name that GraphQL does not allow -/
def misnamedConfig : RuntimeConfig :=
  { World.plainConfig with
    entities := NameMap.empty.insert "1"
      { source := { object := "books" }, permissions := [⟨"anonymous", [.named "read"]⟩] } }

/-- what a change does after its first step: two moves, the answer of its database, and some more moves -/
def changeTraffic (job moves : Nat) : List Traffic :=
  [.advance job, .advance job, .settle job "default"] ++ List.replicate moves (.advance job)

/-- a gateway that serves a configuration and is asked for that change -/
def pressedGateway : Gateway Unit := startedGateway.take ⟨.change (.apply servedHolder ⟨1, misnamedConfig⟩), 200⟩

set_option maxRecDepth 4000 in
theorem refused_permissions_are_withdrawn_from_callers :
    (pressedGateway.run {} (fun _ => none) emptyDatabases
      (.advance 1 :: changeTraffic 1 21)).world.services.permissions.allows "1" "anonymous" .read = false := by
  have hasked : pressedGateway.Asked {} (fun _ => none) emptyDatabases 1 (.apply servedHolder ⟨1, misnamedConfig⟩) :=
    .direct ⟨_, _, _, rfl⟩ rfl
  have hopen : (pressedGateway.run {} (fun _ => none) emptyDatabases
    (.advance 1 :: changeTraffic 1 21).dropLast).world.result? 1 = none := rfl
  have hend : (pressedGateway.run {} (fun _ => none) emptyDatabases
    (.advance 1 :: changeTraffic 1 21)).world.result? 1 =
    some (.changed (.error (.stage .rewiringDependents
      (.dependent "graphql schema" "entity '1': '1' is not a valid GraphQL name")))) := rfl
  have hkept := (refused_permissions_are_withdrawn hasked hopen hend).1 (.inl rfl) "1"
  exact hkept.2 "anonymous" .read

/-- a gateway at its start, about to put that configuration in force -/
def openingGateway : Gateway Unit :=
  (Gateway.boot (some misnamedConfig) ()).run {} (fun _ => none) emptyDatabases [.applyHeld]

set_option maxRecDepth 4000 in
/-- **Refused permissions stay in force** in a gateway that was not ready: the change fails while the services are
pointed at its snapshot, and everybody may read afterwards, as only that snapshot says -/
theorem refused_permissions_stay_in_force :
    openingGateway.Asked {} (fun _ => none) emptyDatabases 0 (.apply servedHolder ⟨0, misnamedConfig⟩) ∧
    (openingGateway.run {} (fun _ => none) emptyDatabases (.advance 0 :: changeTraffic 0 12)).world.result? 0 =
      some (.changed (.error (.stage .rewiringDependents
        (.dependent "graphql schema" "entity '1': '1' is not a valid GraphQL name")))) ∧
    openingGateway.world.services.permissions.allows "1" "anonymous" .read = false ∧
    (openingGateway.run {} (fun _ => none) emptyDatabases
      (.advance 0 :: changeTraffic 0 12)).world.services.permissions.allows "1" "anonymous" .read = true :=
  ⟨.reached ⟨_, _, _, rfl⟩ rfl, rfl, rfl, rfl⟩

end EntityGateway
