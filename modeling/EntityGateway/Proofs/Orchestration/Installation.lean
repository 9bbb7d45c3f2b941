/-
First configurations that are installed while a change of an empty holder is on its way.

A change notes what its holder holds when it takes the lock, and an installation needs no lock: it can come at any
moment up to the commit. If the change fails before its commit, the holder keeps what was installed. If it fails while
the services are pointed at its snapshot, the holder is put back to what the change found when it began: it is emptied,
and what was installed is gone.

- `held_of_other_or`: the others leave a holder what it holds, or put something new into an empty one;
- `Bypassed`: what the holder holds in each phase of the change after the installation;
- `bypassed_run`: it is so all the way;
- `installed_snapshot_survives_iff`: what is left at the end of a change that failed.
-/
import EntityGateway.Proofs.Orchestration.Stages

namespace EntityGateway

namespace World

/-! ## What the others put into a holder -/

section Others

variable {setup : Setup σ ι} {job : Nat} {w u : World σ ι} {p q : Phase} {e : Event}

theorem move_fresh (hm : Move setup job w p q u) : w.fresh ≤ u.fresh := by
  cases hm with
  | install => exact Nat.le_succ _
  | edit => exact Nat.le_succ _
  | accept => split_ifs <;> exact le_rfl
  | call hcall => cases hcall; exact le_rfl
  | generate hcall => cases hcall; exact le_rfl
  | restore _ hu => subst hu; exact le_rfl
  | giveUp hu => subst hu; exact le_rfl
  | _ => exact le_rfl

theorem step_fresh (hs : Step setup w e u) : w.fresh ≤ u.fresh := by
  cases hs with
  | advance _ hm =>
    have hle := move_fresh hm
    exact hle
  | _ => exact le_rfl

/-- a job without the lock puts at most a new snapshot into an empty holder -/
theorem held_of_free_or (hm : Move setup job w p q u) (hp : p.isLocked = false) (k : Nat) :
    (u.holder k).held = (w.holder k).held ∨ ∃ c, (u.holder k).held = some ⟨w.fresh, c⟩ := by
  cases hheld : (w.holder k).held with
  | some s => exact Or.inl (held_of_free hm hp hheld)
  | none =>
    rw [← hheld]
    cases hm with
    | install =>
      rename_i i c applies _
      by_cases hk : k = i
      · subst hk
        by_cases hlt : k < w.holders.length
        · refine Or.inr ⟨c, ?_⟩
          show ((w.setHolder k _).holder k).held = _
          rw [holder_setHolder_self hlt]
          rfl
        · exact Or.inl (by simp [holder, setHolder, hlt])
      · exact Or.inl (congrArg ConfigHolder.held (holder_setHolder_of_ne w hk _))
    | mark => exact Or.inl (held_setHolder (h := (w.holder _).markLate) rfl k)
    | accept =>
      split_ifs
      · exact Or.inl (held_setHolder (h := (w.holder _).markLate) rfl k)
      · exact Or.inl rfl
    | commit => cases hp
    | call => cases hp
    | generate => cases hp
    | restore => cases hp
    | giveUp => cases hp
    | _ => exact Or.inl rfl

/-- **All others leave a holder what it holds, or fill it when it is empty**, unless it is given something else -/
theorem held_of_other_or (h : w.Sound) (hrun : w.running = some job) (hs : Step setup w e u)
    (hother : e.mover? ≠ some job) {k : Nat} (hreplace : ∀ s, e ≠ .replace k s) :
    (u.holder k).held = (w.holder k).held ∨ ∃ c, (u.holder k).held = some ⟨w.fresh, c⟩ := by
  cases hs with
  | advance hp hm => exact held_of_free_or hm (h.free_of_other hrun hp fun hk => hother (congrArg some hk)) k
  | replace =>
    rename_i i s
    have hne : k ≠ i := by
      rintro rfl
      exact hreplace s rfl
    exact Or.inl (congrArg ConfigHolder.held (holder_setHolder_of_ne w hne _))
  | _ => exact Or.inl rfl

end Others

/-! ## A change that was bypassed -/

/-- a job that puts a first configuration into a holder with its next move, and is told so -/
def Installs (setup : Setup σ ι) (w : World σ ι) (job i : Nat) (t : Snapshot) : Prop :=
  ∃ c applies, w.phase? job = some (.installing i c applies) ∧
    (w.step setup (.advance job)).phase? job = some (if applies then .marking i t else .finished (.installed t))

/-- whatever a holder holds is newer than a snapshot -/
def Outdates (w : World σ ι) (i : Nat) (t : Snapshot) : Prop := ∀ s, (w.holder i).held = some s → t.id < s.id

/-- what a holder holds in each phase of a change that found it empty, after a snapshot was installed: that snapshot as
long as nothing is in force, and not that one when what was in force has been put back -/
def Bypassed (w : World σ ι) (i : Nat) (t : Snapshot) : Phase → Prop
  | .validating _ | .constructing _ | .preparing .. | .relating .. | .committing .. => (w.holder i).held = some t
  | .calling rw _ | .awaiting rw _ _ _ =>
    match rw.purpose with
    | .serve _ => True
    | .restore fault => fault.stage? = some .rewiringDependents ∧ w.Outdates i t
  | .rollingBack _ fault => fault.stage? = some .rewiringDependents
  | .failing _ fault =>
    if fault.stage? = some .rewiringDependents then w.Outdates i t else (w.holder i).held = some t
  | .generating .. | .documenting .. | .concluding .. => True
  | _ => False

/-- a change of a holder that it found empty, with a snapshot that was installed meanwhile -/
structure Bypass (w : World σ ι) (i : Nat) (t : Snapshot) (p : Phase) : Prop where
  run : ∃ r, p.run? = some r ∧ r.holder = i ∧ r.checkpoint.target = none
  made : t.id < w.fresh
  held : w.Bypassed i t p

section Bypass

variable {setup : Setup σ ι} {job i : Nat} {w u : World σ ι} {p q : Phase} {e : Event} {t : Snapshot} {r : Run}

theorem putBack_none (h : ConfigHolder) : (putBack none h).held = none := by
  unfold putBack hasChanged
  cases hheld : h.held with
  | none => exact hheld
  | some s => rfl

theorem outdates_rollBack (hr : r.holder = i) (htarget : r.checkpoint.target = none)
    (hu : u = (w.setHolder r.holder (putBack r.checkpoint.target (w.holder r.holder))).publish r.checkpoint.bound
      r.checkpoint.set) : u.Outdates i t := by
  subst hr hu
  intro s hs
  rw [htarget] at hs
  have hnone : ((w.setHolder r.holder (putBack none (w.holder r.holder))).holder r.holder).held = none := by
    by_cases hlt : r.holder < w.holders.length
    · rw [holder_setHolder_self hlt]
      exact putBack_none _
    · simp [holder, setHolder, hlt]
  cases hnone.symm.trans hs

theorem Bypassed.of_held (h : w.Bypassed i t p) (hheld : (u.holder i).held = (w.holder i).held) :
    u.Bypassed i t p := by
  unfold Bypassed Outdates at h ⊢
  rw [hheld]
  exact h

/-- **A move of the change** goes on from one phase to the next, or ends the change -/
theorem bypassed_move (hr : p.run? = some r) (hholder : r.holder = i) (htarget : r.checkpoint.target = none)
    (hq : q.isLocked = true) (hm : Move setup job w p q u) (h : w.Bypassed i t p) : u.Bypassed i t q := by
  cases hm with
  | invalid => exact h
  | unsupported => exact h
  | unprepared => exact h
  | unrelated => exact h
  | commit => trivial
  | call hcall =>
    cases hcall
    exact h
  | generate hcall =>
    cases hcall
    trivial
  | refused _ hbad => exact callFailure_stage hbad
  | lost _ _ hpurpose =>
    simp only [Bypassed, hpurpose] at h ⊢
    rw [if_pos h.1]
    exact h.2
  | restored hpurpose =>
    simp only [Bypassed, hpurpose] at h ⊢
    rw [if_pos h.1]
    exact h.2
  | restore _ hu =>
    cases hr
    exact ⟨h, outdates_rollBack hholder htarget hu⟩
  | giveUp hu =>
    cases hr
    simp only [Bypassed] at h ⊢
    rw [if_pos h]
    exact outdates_rollBack hholder htarget hu
  | document => trivial
  | skip => trivial
  | documented => trivial
  | succeed => cases hq
  | fail => cases hq
  | _ => first | exact h | cases hr

/-- something newer in a holder that had been emptied, or what was in it -/
theorem bypassed_of_other (hmade : t.id < w.fresh)
    (hsome : ∀ s, (w.holder i).held = some s → (u.holder i).held = some s)
    (hheld : (u.holder i).held = (w.holder i).held ∨ ∃ c, (u.holder i).held = some ⟨w.fresh, c⟩)
    (h : w.Bypassed i t p) : u.Bypassed i t p := by
  rcases hheld with hsame | ⟨c, hnew⟩
  · exact h.of_held hsame
  · have hnewer : u.Outdates i t := by
      intro s hs
      cases hnew.symm.trans hs
      exact hmade
    cases p with
    | calling rw todo =>
      simp only [Bypassed] at h ⊢
      split at h
      · trivial
      · exact ⟨h.1, hnewer⟩
    | awaiting rw wire todo answer =>
      simp only [Bypassed] at h ⊢
      split at h
      · trivial
      · exact ⟨h.1, hnewer⟩
    | failing r fault =>
      simp only [Bypassed] at h ⊢
      split_ifs at h ⊢
      · exact hnewer
      · exact hsome t h
    | rollingBack => exact h
    | validating => exact hsome t h
    | constructing => exact hsome t h
    | preparing => exact hsome t h
    | relating => exact hsome t h
    | committing => exact hsome t h
    | generating => trivial
    | documenting => trivial
    | concluding => trivial
    | _ => exact h.elim

/-- **A step of anyone** leaves a change bypassed, or ends it -/
theorem bypass_step (hw : w.Sound) (hp : w.phase? job = some p) (h : w.Bypass i t p) (hs : Step setup w e u)
    (hreplace : ∀ s, e ≠ .replace i s) :
    ∃ q, u.phase? job = some q ∧ (q.isEnded = true ∨ u.Bypass i t q) := by
  obtain ⟨⟨r, hr, hholder, htarget⟩, hmade, hheld⟩ := h
  have hlocked := locked_of_run hr
  have hmade' : t.id < u.fresh := lt_of_lt_of_le hmade (step_fresh hs)
  obtain ⟨q, hq, hturn⟩ := turn_of_step hs hp
  refine ⟨q, hq, ?_⟩
  cases hturn with
  | moves hm =>
    cases hql : q.isLocked with
    | true =>
      refine Or.inr ⟨⟨r, (move_run hm hlocked hql).trans hr, hholder, htarget⟩, hmade', ?_⟩
      exact (bypassed_move hr hholder htarget hql hm hheld).of_held rfl
    | false => exact Or.inl (isEnded_of_unlocked hm hlocked hql)
  | settles hg =>
    cases p with
    | preparing =>
      cases hg
      exact Or.inr ⟨⟨r, hr, hholder, htarget⟩, hmade', hheld⟩
    | gathering => cases hlocked
    | _ => cases hg
  | drops => exact Or.inl rfl
  | rests _ hother =>
    have hrun := hw.alone job p hp hlocked
    exact Or.inr ⟨⟨r, hr, hholder, htarget⟩, hmade', bypassed_of_other hmade
      (fun s => held_of_other hw hrun hs hother hreplace) (held_of_other_or hw hrun hs hother hreplace) hheld⟩

variable (setup) in
/-- **A change stays bypassed until its end** -/
theorem bypass_run (hw : w.Sound) (hp : w.phase? job = some p) (h : w.Bypass i t p) {l : List Event}
    (hreplace : ∀ s, .replace i s ∉ l) :
    ∃ q, (w.run setup l).phase? job = some q ∧ (q.isEnded = true ∨ (w.run setup l).Bypass i t q) := by
  induction l using List.reverseRecOn with
  | nil => exact ⟨p, hp, Or.inr h⟩
  | append_singleton l e ih =>
    obtain ⟨q, hq, hcase⟩ := ih fun s hmem => hreplace s (List.mem_append_left _ hmem)
    rw [run_snoc]
    rcases step_eq_or setup (w.run setup l) e with hsame | hs
    · rw [hsame]
      exact ⟨q, hq, hcase⟩
    · rcases hcase with hended | hbypass
      · exact ⟨q, ended_step hs hq hended, Or.inl hended⟩
      · refine bypass_step (sound_run hw l) hq hbypass hs ?_
        rintro s rfl
        exact hreplace s (List.mem_append_right _ List.mem_cons_self)

theorem step_installing {k : Nat} {c : RuntimeConfig} {applies : Bool}
    (hp : w.phase? k = some (.installing i c applies)) :
    w.step setup (.advance k) = (w.install i c applies).2.setPhase k (w.install i c applies).1 := by
  simp [step, step?, advance?, hp, next?]

theorem step_install {k : Nat} {c : RuntimeConfig} {applies : Bool} (hp : w.phase? k = some (.installing i c applies))
    (hempty : (w.holder i).held = none) :
    w.step setup (.advance k) =
      { w.setHolder i ((w.holder i).replace (some ⟨w.fresh, c⟩)) with fresh := w.fresh + 1 }.setPhase k
        (if applies then .marking i ⟨w.fresh, c⟩ else .finished (.installed ⟨w.fresh, c⟩)) := by
  have hinstall : (w.holder i).install ⟨w.fresh, c⟩ = .ok ((w.holder i).replace (some ⟨w.fresh, c⟩)) := by
    unfold ConfigHolder.install ConfigHolder.checkEmpty
    rw [hempty]
    rfl
  rw [step_installing hp]
  simp only [World.install, hinstall]

/-- **A first configuration is installed if its holder is empty**, and only then -/
theorem installs_iff {k : Nat} :
    Installs setup w k i t ↔ ∃ c applies, w.phase? k = some (.installing i c applies) ∧ (w.holder i).held = none ∧
      t = ⟨w.fresh, c⟩ := by
  constructor
  · rintro ⟨c, applies, hp, hnext⟩
    refine ⟨c, applies, hp, ?_⟩
    cases hheld : (w.holder i).held with
    | none =>
      rw [step_install hp hheld, phase?_moved (u := { w.setHolder i _ with fresh := w.fresh + 1 }) rfl hp] at hnext
      cases applies <;> cases hnext <;> exact ⟨rfl, rfl⟩
    | some s =>
      have hinstall : (w.holder i).install ⟨w.fresh, c⟩ = .error .alreadyConfigured := by
        unfold ConfigHolder.install ConfigHolder.checkEmpty
        rw [hheld]
        rfl
      have hstep : w.step setup (.advance k) = w.setPhase k (.finished (.refused .alreadyConfigured)) := by
        rw [step_installing hp]
        simp only [World.install, hinstall]
      rw [hstep, phase?_setPhase_self hp] at hnext
      cases applies <;> cases hnext
  · rintro ⟨c, applies, hp, hempty, rfl⟩
    refine ⟨c, applies, hp, ?_⟩
    rw [step_install hp hempty, phase?_moved (u := { w.setHolder i _ with fresh := w.fresh + 1 }) rfl hp]

theorem held_of_installs {k : Nat} (hi : i < w.holders.length) (h : Installs setup w k i t) :
    t.id = w.fresh ∧ (w.step setup (.advance k)).fresh = w.fresh + 1 ∧
      ((w.step setup (.advance k)).holder i).held = some t := by
  obtain ⟨c, applies, hp, hempty, rfl⟩ := installs_iff.1 h
  rw [step_install hp hempty]
  refine ⟨rfl, rfl, ?_⟩
  show ((w.setHolder i _).holder i).held = _
  rw [holder_setHolder_self hi]
  rfl

/-- a change that found a holder empty, when something is put into it before the commit -/
theorem bypass_of_installs {k : Nat} (hi : i < w.holders.length) (hp : w.phase? job = some p)
    (hr : p.run? = some r) (hholder : r.holder = i) (htarget : r.checkpoint.target = none) (hearly : p.isEarly = true)
    (h : Installs setup w k i t) :
    (w.step setup (.advance k)).phase? job = some p ∧ (w.step setup (.advance k)).Bypass i t p := by
  obtain ⟨hid, hfresh, hheld⟩ := held_of_installs hi h
  constructor
  · obtain ⟨c, applies, hk, -⟩ := h
    rcases step_eq_or setup w (.advance k) with hsame | hs
    · rw [hsame]
      exact hp
    · refine phase?_of_other hs hp fun hmover => ?_
      cases hmover
      cases hk.symm.trans hp
      cases hr
  · refine ⟨⟨r, hr, hholder, htarget⟩, by rw [hid, hfresh]; exact Nat.lt_succ_self _, ?_⟩
    cases p with
    | failing r fault =>
      have hstage : fault.stage? ≠ some .rewiringDependents := by simpa [Phase.isEarly] using hearly
      simp only [Bypassed]
      rw [if_neg hstage]
      exact hheld
    | validating => exact hheld
    | constructing => exact hheld
    | preparing => exact hheld
    | relating => exact hheld
    | committing => exact hheld
    | locking => cases hr
    | _ => first | cases hearly | cases hr

end Bypass

/-! ## A change that failed -/

section Failure

variable {setup : Setup σ ι} {job k i : Nat} {w : World σ ι} {s t : Snapshot} {before after : List Event}
  {fault : ChangeError}

variable (setup) in
/-- a change that began is at work until its end, with what it found in its holder -/
theorem run_of_begun (hw : w.Sound) (hi : i < w.holders.length) (hp : w.phase? job = some (.locking (.apply i s)))
    (l : List Event) :
    ∃ p, (w.run setup (.advance job :: l)).phase? job = some p ∧
      (p.isEnded = true ∨ p.run? = some ⟨i, s, w.checkpoint i⟩) := by
  change ∃ p, ((w.step setup (.advance job)).run setup l).phase? job = some p ∧ _
  have hstep : w.step setup (.advance job) = (w.lock job (.apply i s)).2.setPhase job (w.lock job (.apply i s)).1 := by
    simp [step, step?, advance?, hp, next?]
  cases hlock : w.running with
  | some j =>
    have hrefused : (w.step setup (.advance job)).phase? job = some (.finished (.changed (.error .inProgress))) := by
      rw [hstep]
      simp only [lock, hlock]
      exact phase?_setPhase_self hp _
    exact ⟨_, finished_run setup hrefused l, Or.inl rfl⟩
  | none =>
    have hu : w.step setup (.advance job) =
        { w.enter .validating with running := some job }.setPhase job (.validating ⟨i, s, w.checkpoint i⟩) := by
      rw [hstep]
      simp only [lock, hlock]
      rfl
    have hsound : (w.step setup (.advance job)).Sound := sound_run hw [.advance job]
    rw [hu] at hsound ⊢
    obtain ⟨p, hp', hcase⟩ := underway_run setup (r := ⟨i, s, w.checkpoint i⟩) hsound hi
      (phase?_moved (u := { w.enter .validating with running := some job }) rfl hp _) rfl l
    exact ⟨p, hp', hcase.imp_right Underway.run⟩

/-- **What was installed survives a failure just if nothing was in force.** A change begins while its holder holds
nothing, and before its commit a first configuration is installed there, of which nobody is told otherwise; nothing else
is put into the holder from outside. When the change has failed, the holder holds what was installed if the failure came
before the commit; it does not if the services were already pointed at the snapshot of the change. -/
theorem installed_snapshot_survives_iff (hw : w.Sound) (hi : i < w.holders.length)
    (hp : w.phase? job = some (.locking (.apply i s))) (hempty : (w.holder i).held = none)
    (hinstall : Installs setup (w.run setup (.advance job :: before)) k i t)
    (hearly : ∃ p, (w.run setup (.advance job :: before)).phase? job = some p ∧ p.isEarly = true)
    (hreplace : ∀ s, .replace i s ∉ after)
    (hopen : (w.run setup (.advance job :: before ++ .advance k :: after)).result? job = none)
    (hend : (w.run setup (.advance job :: before ++ .advance k :: after ++ [.advance job])).result? job =
      some (.changed (.error fault))) :
    ((w.run setup (.advance job :: before ++ .advance k :: after ++ [.advance job])).holder i).held = some t ↔
      fault.stage? ≠ some .rewiringDependents := by
  have hv : (w.run setup (.advance job :: before)).Sound := sound_run hw _
  have hiv : i < (w.run setup (.advance job :: before)).holders.length := by
    rw [(run_places setup w (.advance job :: before)).1]
    exact hi
  -- up to the installation
  obtain ⟨p, hp₁, hcase⟩ := run_of_begun setup hw hi hp before
  obtain ⟨p', hp', hearly⟩ := hearly
  obtain rfl := Option.some.inj (hp₁.symm.trans hp')
  have hmiddle : w.run setup (.advance job :: before ++ .advance k :: after) =
      ((w.run setup (.advance job :: before)).step setup (.advance k)).run setup after := run_append ..
  rw [run_snoc, hmiddle] at hend ⊢
  rw [hmiddle] at hopen
  generalize w.run setup (.advance job :: before) = v at *
  have hr : p.run? = some ⟨i, s, w.checkpoint i⟩ := by
    -- a change that had failed by then would have its result already
    refine hcase.resolve_left fun hended => ?_
    cases p with
    | finished result =>
      have hlast := result?_eq_some.2 (finished_run setup hp₁ (.advance k :: after))
      cases hopen.symm.trans hlast
    | dropped => cases hearly
    | _ => cases hended
  obtain ⟨hp₂, hbypass⟩ := bypass_of_installs hiv hp₁ hr rfl hempty hearly hinstall
  -- from there to the end
  have hv₂ : (v.step setup (.advance k)).Sound := sound_run hv [.advance k]
  obtain ⟨q, hq, hcase⟩ := bypass_run setup hv₂ hp₂ hbypass hreplace
  rcases failed_step hq hopen hend with ⟨⟨t', rfl, -⟩, -⟩ | ⟨⟨r, rfl⟩, hu⟩
  · exact (hcase.resolve_left (by simp [Phase.isEnded])).held.elim
  · have hheld := (hcase.resolve_left (by simp [Phase.isEnded])).held
    rw [hu]
    show ((World.run setup _ after).holder i).held = some t ↔ _
    simp only [Bypassed] at hheld
    split_ifs at hheld with hstage
    · refine iff_of_false (fun hsame => Nat.lt_irrefl _ (hheld t hsame)) (by simp [hstage])
    · exact iff_of_true hheld hstage

end Failure

/-! ## A contested holder -/

def failure? (w : World σ ι) (job : Nat) : Option ChangeError :=
  match w.result? job with
  | some (.changed (.error e)) => some e
  | _ => none

theorem result?_of_failure? {w : World σ ι} {job : Nat} {e : ChangeError} (h : w.failure? job = some e) :
    w.result? job = some (.changed (.error e)) := by
  unfold failure? at h
  split at h
  · rename_i hresult
    cases h
    exact hresult
  · cases h

/-- whether a job is about to put a first configuration into a holder -/
def isInstalling (w : World σ ι) (job i : Nat) : Bool :=
  match w.phase? job with
  | some (.installing k _ _) => k == i
  | _ => false

theorem exists_installs {setup : Setup σ ι} {w : World σ ι} {job i : Nat} (h : w.isInstalling job i = true)
    (hempty : (w.holder i).held.isNone = true) : ∃ t, Installs setup w job i t := by
  unfold isInstalling at h
  split at h
  · rename_i hp
    obtain rfl := beq_iff_eq.1 h
    exact ⟨_, installs_iff.2 ⟨_, _, hp, Option.isNone_iff_eq_none.1 hempty, rfl⟩⟩
  · cases h

/-- an empty gateway, whose services refuse their fourth call, with a change of its holder that takes the lock and a
first configuration that comes in then -/
def contestedGateway (c : RuntimeConfig) : World Nat Unit :=
  ({ holders := [{}], fresh := 1, services := 0, memory := () } : World Nat Unit).run refusingSetup
    [.submit (.change (.apply 0 ⟨0, c⟩)), .submit (.configure 0 { configuration :=
      "\x7b\"data-source\":\x7b\"database-type\":\"postgresql\",\"connection-string\":\"host\"\x7d\x7d" } false)]

/-- the first configuration looked at and read -/
def overtaking : List Event := [.advance 1, .advance 1]

/-- a configuration that is refused when it is validated -/
def danglingConfig : RuntimeConfig := { plainConfig with defaultDataSource := "other" }

theorem sound_contested (c : RuntimeConfig) : (contestedGateway c).Sound :=
  sound_run (sound_of_idle ⟨rfl, rfl, rfl, Nat.one_pos⟩) _

/-- the change refused when it is validated -/
theorem installed_snapshot_survives_validation :
    ∃ t, Installs refusingSetup ((contestedGateway danglingConfig).run refusingSetup (.advance 0 :: overtaking)) 1 0 t ∧
      (((contestedGateway danglingConfig).run refusingSetup
        (.advance 0 :: overtaking ++ .advance 1 :: [.advance 0] ++ [.advance 0])).holder 0).held = some t := by
  obtain ⟨hinstalling, hempty, hearly, hopen, hstage⟩ :
      ((contestedGateway danglingConfig).run refusingSetup (.advance 0 :: overtaking)).isInstalling 1 0 = true ∧
        (((contestedGateway danglingConfig).run refusingSetup
          (.advance 0 :: overtaking)).holder 0).held.isNone = true ∧
        (((contestedGateway danglingConfig).run refusingSetup
          (.advance 0 :: overtaking)).phase? 0).any Phase.isEarly = true ∧
        (((contestedGateway danglingConfig).run refusingSetup
          (.advance 0 :: overtaking ++ .advance 1 :: [.advance 0])).result? 0).isNone = true ∧
        ((((contestedGateway danglingConfig).run refusingSetup
          (.advance 0 :: overtaking ++ .advance 1 :: [.advance 0] ++ [.advance 0])).failure? 0).bind
            ChangeError.stage?) = some .validating := by decide +kernel
  obtain ⟨t, ht⟩ := exists_installs hinstalling hempty
  obtain ⟨fault, hfault, hstage⟩ := Option.bind_eq_some_iff.1 hstage
  exact ⟨t, ht, (installed_snapshot_survives_iff (sound_contested _) Nat.one_pos rfl rfl ht
    ((Option.any_eq_true ..).1 hearly) (by simp) (Option.isNone_iff_eq_none.1 hopen) (result?_of_failure? hfault)).2
      (by simp [hstage])⟩

/-- what the change does once it was bypassed, up to its last step -/
def refusedAfter : List Event :=
  [.advance 0, .advance 0, .settle 0 "default"] ++ List.replicate 11 (.advance 0)

/-- **An installed snapshot is lost.** The change begins when its holder holds nothing; a first configuration is
installed before its commit; the services refuse the change, and when it has failed the holder holds nothing. -/
theorem installed_snapshot_is_lost :
    (contestedGateway plainConfig).phase? 0 = some (.locking (.apply 0 ⟨0, plainConfig⟩)) ∧
    ((contestedGateway plainConfig).holder 0).held = none ∧
    (∃ t, Installs refusingSetup ((contestedGateway plainConfig).run refusingSetup (.advance 0 :: overtaking)) 1 0 t) ∧
    (∃ p, ((contestedGateway plainConfig).run refusingSetup (.advance 0 :: overtaking)).phase? 0 = some p ∧
      p.isEarly = true) ∧
    (∃ fault, ((contestedGateway plainConfig).run refusingSetup
      (.advance 0 :: overtaking ++ .advance 1 :: refusedAfter ++ [.advance 0])).result? 0 =
        some (.changed (.error fault))) ∧
    (((contestedGateway plainConfig).run refusingSetup
      (.advance 0 :: overtaking ++ .advance 1 :: refusedAfter ++ [.advance 0])).holder 0).held = none := by
  obtain ⟨hinstalling, hempty, hearly, hfailed, hlost⟩ :
      ((contestedGateway plainConfig).run refusingSetup (.advance 0 :: overtaking)).isInstalling 1 0 = true ∧
        (((contestedGateway plainConfig).run refusingSetup (.advance 0 :: overtaking)).holder 0).held.isNone = true ∧
        (((contestedGateway plainConfig).run refusingSetup
          (.advance 0 :: overtaking)).phase? 0).any Phase.isEarly = true ∧
        (((contestedGateway plainConfig).run refusingSetup
          (.advance 0 :: overtaking ++ .advance 1 :: refusedAfter ++ [.advance 0])).failure? 0).isSome = true ∧
        (((contestedGateway plainConfig).run refusingSetup
          (.advance 0 :: overtaking ++ .advance 1 :: refusedAfter ++ [.advance 0])).holder 0).held.isNone = true := by
    decide +kernel
  obtain ⟨fault, hfault⟩ := Option.isSome_iff_exists.1 hfailed
  exact ⟨rfl, rfl, exists_installs hinstalling hempty, (Option.any_eq_true ..).1 hearly,
    ⟨fault, result?_of_failure? hfault⟩, Option.isNone_iff_eq_none.1 hlost⟩

end World

end EntityGateway
