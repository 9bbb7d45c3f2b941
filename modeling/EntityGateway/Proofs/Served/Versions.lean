/-
What only goes forward in a gateway that is served.

The version of the served holder counts what was put into it: it grows by one when another snapshot is held, and stays
when the same one is. So it tells apart what is held at two moments, and what is held can be gone only if something else
has come. A gateway that is ready stays ready. The report of the last change that was made names the version that the
change left; only changes that were undone since then have carried the version on.

The last part rests on a change of a snapshot that is in force already: it cannot be undone, since the services agreed
with that snapshot before. A change that is undone has therefore held another snapshot for a while, and the version has
gone up when it came and when it went.

- `move_version`: the version after a move;
- `Forward`: what only goes forward; `forward_run`: it does so along all traffic;
- `recorded_run`: what the last report says, against what came of all commits;
- `versions_only_go_forward`: the whole of it.
-/
import EntityGateway.Proofs.Served.Criteria
import EntityGateway.Proofs.Served.Documents

namespace EntityGateway

open Http

namespace World

/-! ## Moves that change what is held -/

/-- a job that puts another snapshot into the served holder with its next move: a first one, the one of a change, or the
one from before it -/
inductive Supersedes (w : World σ ι) : Phase → Snapshot → Prop
  | install (hempty : w.served.held = none) : Supersedes w (.installing i c applies) ⟨w.fresh, c⟩
  | commit (hother : w.served.held ≠ some r.snapshot) : Supersedes w (.committing r place report) r.snapshot
  | rollBack (htarget : r.checkpoint.target = some s) (hother : w.served.held ≠ some s) :
      Supersedes w (.rollingBack r fault) s

section Moves

variable {setup : Setup σ ι} {job : Nat} {w u : World σ ι} {p q : Phase} {s t : Snapshot}

theorem Supersedes.held_ne (h : w.Supersedes p s) : w.served.held ≠ some s := by
  cases h with
  | install hempty =>
    rw [hempty]
    exact Option.some_ne_none _ |>.symm
  | commit hother => exact hother
  | rollBack _ hother => exact hother

/-- a holder is left as it is if it holds a snapshot, and is given it if not -/
theorem hold_cases {h : ConfigHolder} (hheld : h.held = some t) (hdistinct : t.id = s.id → t = s) :
    (h.held = some s ∧ hold h s = h) ∨ (h.held ≠ some s ∧ hold h s = h.replace (some s)) := by
  unfold hold
  rw [hheld]
  split_ifs with hholds
  · refine Or.inl ⟨congrArg some (hdistinct ?_), rfl⟩
    simpa [ConfigHolder.holds, hheld] using hholds
  · refine Or.inr ⟨fun hsame => hholds ?_, rfl⟩
    cases hsame
    simp [ConfigHolder.holds, hheld]

theorem putBack_cases {h : ConfigHolder} (hheld : h.held = some s) (hdistinct : t.id = s.id → t = s) :
    (h.held = some t ∧ putBack (some t) h = h) ∨ (h.held ≠ some t ∧ putBack (some t) h = h.replace (some t)) := by
  unfold putBack
  rw [hheld]
  split_ifs with hchanged
  · refine Or.inr ⟨fun hsame => ?_, rfl⟩
    cases hsame
    simp [hasChanged, hheld] at hchanged
  · refine Or.inl ⟨congrArg some (hdistinct ?_).symm, rfl⟩
    simpa [hasChanged, hheld] using hchanged

theorem version_commit (hw : w.Served) {r : Run} {place : Nat} {report : InitializationReport}
    (hp : w.phase? job = some (.committing r place report)) :
    ((w.setHolder r.holder (hold (w.holder r.holder) r.snapshot)).served = w.served ∧
        ∀ s, ¬ w.Supersedes (.committing r place report) s) ∨
      ∃ s, w.Supersedes (.committing r place report) s ∧
        (w.setHolder r.holder (hold (w.holder r.holder) r.snapshot)).served = w.served.replace (some s) := by
  obtain ⟨t, -, hheld⟩ := (hw.custody job _ hp).run r rfl
  have hserved : r.holder = servedHolder := (hw.serves job _ hp).1
  rw [hserved, served_setHolder hw.single]
  rcases hold_cases hheld (hw.distinct _ _ (Or.inl hheld) (knows_run hp rfl)) with ⟨hsame, hhold⟩ | ⟨hother, hhold⟩
  · refine Or.inl ⟨hhold, fun s hs => ?_⟩
    cases hs with
    | commit hother => exact hother hsame
  · exact Or.inr ⟨_, .commit hother, hhold⟩

theorem version_rollBack (hw : w.Served) {r : Run} {fault : ChangeError}
    (hp : w.phase? job = some (.rollingBack r fault))
    (hu : u = (w.setHolder r.holder (putBack r.checkpoint.target (w.holder r.holder))).publish
      r.checkpoint.bound r.checkpoint.set) :
    (u.served = w.served ∧ ∀ s, ¬ w.Supersedes (.rollingBack r fault) s) ∨
      ∃ s, w.Supersedes (.rollingBack r fault) s ∧ u.served = w.served.replace (some s) := by
  obtain ⟨t, ht, hheld⟩ := (hw.custody job _ hp).run r rfl
  have hserved : r.holder = servedHolder := (hw.serves job _ hp).1
  have hput : u.served = putBack (some t) w.served := by
    subst hu
    show (w.setHolder r.holder (putBack r.checkpoint.target (w.holder r.holder))).served = _
    rw [hserved, ht, served_setHolder hw.single]
    rfl
  rw [hput]
  rcases putBack_cases hheld (hw.distinct _ _ (knows_target hp rfl ht) (knows_run hp rfl)) with
    ⟨hsame, hput⟩ | ⟨hother, hput⟩
  · refine Or.inl ⟨hput, fun s hs => ?_⟩
    cases hs with
    | rollBack htarget hother =>
      rw [ht] at htarget
      cases htarget
      exact hother hsame
  · exact Or.inr ⟨t, .rollBack ht hother, hput⟩

theorem version_of_served (h : (u.served = w.served ∧ ∀ s, ¬ w.Supersedes p s) ∨
      ∃ s, w.Supersedes p s ∧ u.served = w.served.replace (some s)) :
    (u.served.held = w.served.held ∧ u.served.version = w.served.version ∧ ∀ s, ¬ w.Supersedes p s) ∨
      ∃ s, w.Supersedes p s ∧ u.served.held = some s ∧ u.served.version = w.served.version + 1 := by
  rcases h with ⟨hsame, hnot⟩ | ⟨s, hs, hput⟩
  · exact Or.inl ⟨congrArg ConfigHolder.held hsame, congrArg ConfigHolder.version hsame, hnot⟩
  · exact Or.inr ⟨s, hs, congrArg ConfigHolder.held hput, congrArg ConfigHolder.version hput⟩

/-- **A move changes what is held, and the version by one, or neither** -/
theorem move_version (hw : w.Served) (hp : w.phase? job = some p) (hm : Move setup job w p q u) :
    (u.served.held = w.served.held ∧ u.served.version = w.served.version ∧ ∀ s, ¬ w.Supersedes p s) ∨
      ∃ s, w.Supersedes p s ∧ u.served.held = some s ∧ u.served.version = w.served.version + 1 := by
  have hserves := hw.serves job p hp
  cases hm with
  | install hempty =>
    obtain ⟨rfl, -⟩ := hserves
    refine Or.inr ⟨_, .install hempty, ?_⟩
    show (World.served (w.setHolder servedHolder _)).held = _ ∧ (World.served (w.setHolder servedHolder _)).version = _
    rw [served_setHolder hw.single]
    exact ⟨rfl, rfl⟩
  | overtaken hheld =>
    refine Or.inl ⟨rfl, rfl, fun s hs => ?_⟩
    obtain ⟨rfl, -⟩ := hserves
    cases hs with
    | install hempty =>
      rw [show (w.holder servedHolder).held = none from hempty] at hheld
      cases hheld
  | mark =>
    obtain rfl := hserves
    rw [served_setHolder hw.single]
    exact Or.inl ⟨rfl, rfl, fun s hs => by cases hs⟩
  | accept =>
    have hserved : _ = servedHolder := hserves
    refine Or.inl ?_
    split_ifs
    · rw [hserved, served_setHolder hw.single]
      exact ⟨rfl, rfl, fun s hs => by cases hs⟩
    · exact ⟨rfl, rfl, fun s hs => by cases hs⟩
  | commit => exact version_of_served (version_commit hw hp)
  | call hcall =>
    cases hcall
    exact Or.inl ⟨rfl, rfl, fun s hs => by cases hs⟩
  | generate hcall =>
    cases hcall
    exact Or.inl ⟨rfl, rfl, fun s hs => by cases hs⟩
  | restore _ hu => exact version_of_served (version_rollBack hw hp hu)
  | giveUp hu => exact version_of_served (version_rollBack hw hp hu)
  | _ => exact Or.inl ⟨rfl, rfl, fun s hs => by cases hs⟩

variable (setup job) in
theorem Supersedes.next? (h : w.Supersedes p s) : (w.next? setup job p).isSome := by
  cases h <;> rfl

end Moves

end World

/-! ## Traffic that changes what is held -/

/-- a piece of traffic that puts another snapshot into the served holder -/
def Gateway.Supersedes (g : Gateway ι) (t : Traffic) : Prop :=
  ∃ job p s, t = .advance job ∧ g.world.phase? job = some p ∧ g.world.Supersedes p s

/-- what is held, and whether the gateway is ready, after some traffic and before it -/
structure World.Forward (w u : World σ ι) : Prop where
  version : w.served.version ≤ u.served.version
  same : w.served.version = u.served.version → u.served.held = w.served.held
  held : w.served.held.isSome → u.served.held.isSome
  ready : w.ready = true → u.ready = true

namespace World

theorem Forward.refl (w : World σ ι) : w.Forward w := ⟨le_rfl, fun _ => rfl, id, id⟩

theorem Forward.trans {w v u : World σ ι} (h₁ : w.Forward v) (h₂ : v.Forward u) : w.Forward u := by
  refine ⟨h₁.version.trans h₂.version, fun h => ?_, fun h => h₂.held (h₁.held h), fun h => h₂.ready (h₁.ready h)⟩
  have hmiddle : w.served.version = v.served.version := le_antisymm h₁.version (h ▸ h₂.version)
  exact (h₂.same (hmiddle ▸ h)).trans (h₁.same hmiddle)

theorem move_ready {setup : Setup σ ι} {job : Nat} {w u : World σ ι} {p q : Phase} (hm : Move setup job w p q u)
    (hready : w.ready = true) : u.ready = true := by
  cases hm with
  | accept => split_ifs <;> exact hready
  | call hcall => cases hcall; exact hready
  | generate hcall => cases hcall; exact hready
  | restore _ hu => subst hu; exact hready
  | giveUp hu => subst hu; exact hready
  | succeed => rfl
  | _ => exact hready

end World

section Traffic

variable [Pattern.Engine] {settings : Settings} {env : Environment} {introspectors : Introspectors ι} {g g' : Gateway ι}
  {t : Traffic}

/-- only jobs that go on touch the served holder, and whether the gateway is ready -/
theorem kept_of_serve (h : Serve settings env introspectors g t g') (hother : ∀ job, t ≠ .advance job) :
    g'.world.served = g.world.served ∧ g'.world.ready = g.world.ready ∧ g'.world.lastReport = g.world.lastReport := by
  cases h with
  | take => exact ⟨rfl, rfl, rfl⟩
  | apply => exact ⟨rfl, rfl, rfl⟩
  | advance => exact absurd rfl (hother _)
  | settle hs => cases hs <;> exact ⟨rfl, rfl, rfl⟩
  | linger hs => cases hs; exact ⟨rfl, rfl, rfl⟩
  | tick hs => cases hs; exact ⟨rfl, rfl, rfl⟩
  | hangUp _ _ hs => cases hs; exact ⟨rfl, rfl, rfl⟩

variable (settings env introspectors) in
/-- **The version grows by one with each change of what is held**, and with nothing else -/
theorem version_step (hg : g.world.Served) (t : Traffic) :
    let g' := g.step settings env introspectors t
    (g.Supersedes t ∧ g'.world.served.held ≠ g.world.served.held ∧ g'.world.served.held.isSome ∧
        g'.world.served.version = g.world.served.version + 1) ∨
      (¬ g.Supersedes t ∧ g'.world.served.held = g.world.served.held ∧
        g'.world.served.version = g.world.served.version) := by
  by_cases hsupersedes : g.Supersedes t
  · obtain ⟨job, p, s, rfl, hp, hs⟩ := hsupersedes
    obtain ⟨q, u, hm, hu, -⟩ := World.move_of_step hp (World.step_of_next? hp (hs.next? _ _))
    have hworld : (g.step settings env introspectors (.advance job)).world = u.setPhase job q := hu
    refine Or.inl ⟨⟨job, p, s, rfl, hp, hs⟩, ?_⟩
    rw [hworld]
    rcases World.move_version hg hp hm with ⟨-, -, hnot⟩ | ⟨s', hs', hheld, hversion⟩
    · exact absurd hs (hnot s)
    · refine ⟨fun hsame => hs'.held_ne (hsame.symm.trans hheld), ?_, hversion⟩
      show u.served.held.isSome
      rw [hheld]
      rfl
  · refine Or.inr ⟨hsupersedes, ?_⟩
    rcases serve_of_step settings env introspectors g t with hsame | hserve
    · rw [hsame]
      exact ⟨rfl, rfl⟩
    · generalize g.step settings env introspectors t = g' at hserve
      by_cases hadvance : ∃ job, t = .advance job
      · obtain ⟨job, rfl⟩ := hadvance
        cases hserve with
        | advance hp hm =>
          rcases World.move_version hg hp hm with ⟨hheld, hversion, -⟩ | ⟨s, hs, -⟩
          · exact ⟨hheld, hversion⟩
          · exact absurd ⟨_, _, s, rfl, hp, hs⟩ hsupersedes
      · obtain ⟨hserved, -⟩ := kept_of_serve hserve fun job h => hadvance ⟨job, h⟩
        rw [hserved]
        exact ⟨rfl, rfl⟩

variable (settings env introspectors) in
theorem forward_step (hg : g.world.Served) (t : Traffic) :
    g.world.Forward (g.step settings env introspectors t).world := by
  have hready : g.world.ready = true → (g.step settings env introspectors t).world.ready = true := by
    intro hready
    rcases serve_of_step settings env introspectors g t with hsame | hserve
    · rw [hsame]
      exact hready
    · obtain ⟨e, hs⟩ := step_of_serve hserve
      generalize (g.step settings env introspectors t).world = u at hs
      cases hs with
      | advance _ hm =>
        have hmoved := World.move_ready hm hready
        exact hmoved
      | _ => exact hready
  rcases version_step settings env introspectors hg t with ⟨-, -, hsome, hversion⟩ | ⟨-, hheld, hversion⟩
  · exact ⟨by omega, fun h => by omega, fun _ => hsome, hready⟩
  · exact ⟨hversion.ge, fun _ => hheld, fun h => hheld ▸ h, hready⟩

variable (settings env introspectors) in
/-- **Versions, what is held and readiness go forward along all traffic** -/
theorem forward_run (hg : g.Reached settings env introspectors) (l : List Traffic) :
    g.world.Forward (g.run settings env introspectors l).world := by
  induction l generalizing g with
  | nil => exact .refl _
  | cons t l ih =>
    exact (forward_step settings env introspectors (consistent_reached hg).served t).trans (ih (reached_run hg [t]))

end Traffic

/-! ## Changes of what is in force already -/

/-- what the services need of a snapshot does not depend on what is known of its databases -/
theorem Compiles.rebuilt [Pattern.Engine] {s : Snapshot} {set set' : ProviderSet} (h : Compiles s set)
    (hbuilt : set.BuiltFrom s) (hbuilt' : set'.BuiltFrom s) : Compiles s set' := by
  obtain ⟨types, htypes⟩ := h.types
  obtain ⟨gathered, hgather, -⟩ := ok_of_bind htypes
  have hfind := found_of_gather hgather
  have hfind' : ∀ entry ∈ TypeCatalog.typed s.config, ∃ p, set'.find (s.config.sourceOf entry.2) = .ok p := by
    intro entry he
    obtain ⟨p, hp⟩ := hfind entry he
    have hmem : s.config.sourceOf entry.2 ∈ set'.providers.names := by
      rw [hbuilt'.names, ← hbuilt.names]
      exact mem_names_iff.2 ⟨p, find_ok.1 hp⟩
    obtain ⟨p', hp'⟩ := mem_names_iff.1 hmem
    exact ⟨p', find_ok.2 hp'⟩
  obtain ⟨gathered', hgather'⟩ := (gather_ok hfind' []).2 ((gather_ok hfind []).1 ⟨gathered, hgather⟩)
  refine ⟨h.rules, NameMap.ofList gathered', ?_⟩
  simp [TypeCatalog.ofConfig, hgather', bind, Except.bind, pure, Except.pure]

namespace World

/-- what is known of a change whose snapshot is in force: the version it noted is the one there is, and it is not undone
if it found its own snapshot in a gateway that was ready -/
def Tenure (w : World Services ι) : Phase → Prop
  | .calling rw _ => ∀ c, rw.purpose = .serve c → c.version = w.served.version
  | .awaiting rw _ _ a => ∀ c, rw.purpose = .serve c → c.version = w.served.version ∧
      (rw.run.checkpoint.wasReady = true → rw.run.checkpoint.target = some rw.run.snapshot → a.result = .ok ())
  | .generating _ c | .documenting _ c _ | .concluding _ c _ => c.version = w.served.version
  | .rollingBack r _ => r.checkpoint.wasReady = true → r.checkpoint.target ≠ some r.snapshot
  | _ => True

section Tenure

variable {settings : Settings} {env : Environment} {introspectors : Introspectors ι} {w u : World Services ι}
  {job : Nat} {p q : Phase}

theorem tenure_of_idle (h : p.isInForce = false) : w.Tenure p := by
  cases p with
  | calling rw => exact fun c hc => by simp [Phase.isInForce, Purpose.isService, hc] at h
  | awaiting rw => exact fun c hc => by simp [Phase.isInForce, Purpose.isService, hc] at h
  | _ => trivial

theorem Tenure.kept (h : w.Tenure p) (hversion : p.isLocked = true → u.served.version = w.served.version) :
    u.Tenure p := by
  cases p with
  | calling => exact fun c hc => (h c hc).trans (hversion rfl).symm
  | awaiting => exact fun c hc => ⟨(h c hc).1.trans (hversion rfl).symm, (h c hc).2⟩
  | generating => exact Eq.trans h (hversion rfl).symm
  | documenting => exact Eq.trans h (hversion rfl).symm
  | concluding => exact Eq.trans h (hversion rfl).symm
  | _ => exact h

variable [Pattern.Engine]

/-- a change of what was in force before is accepted by each service -/
theorem tenure_call (hw : w.Consistent) {rw : Rewiring} {wire : Wire} {todo : List Wire} {a : Pending}
    (hp : w.phase? job = some (.calling rw (wire :: todo))) (htenure : w.Tenure (.calling rw (wire :: todo)))
    (hcall : w.makeCall (Server.setup settings env introspectors)
      (wire.call (w.holder rw.holder) w.currentSet rw.snapshot) = (a, u)) : u.Tenure (.awaiting rw wire todo a) := by
  obtain ⟨hwiring, -⟩ := hw.inStep job _ hp
  have hcustody := hw.served.custody job _ hp
  obtain ⟨-, -, hholder⟩ := hw.served.serves job _ hp
  have hheld : (w.holder rw.holder).held = some rw.snapshot := by
    rw [hholder]
    exact hcustody.wires _ rfl
  obtain ⟨v, rfl, -, hanswer⟩ := makeCall_answer hcall
  refine fun c hc => ⟨htenure c hc, fun hready htarget => ?_⟩
  obtain ⟨t, ht, hbuilt, hcompiles⟩ := (hwiring.back c hc).held hready
  obtain rfl : rw.run.snapshot = t := Option.some.inj (htarget.symm.trans ht)
  rw [snapshot_of_serve hcustody hc] at hbuilt hcompiles
  obtain ⟨v', hv⟩ : ∃ v', w.services.answer (wire.call (w.holder rw.holder) w.currentSet rw.snapshot) = .ok v' :=
    answer_of_compiles hheld (hcompiles.rebuilt hbuilt hwiring.built)
  rcases hanswer with ⟨hok, -⟩ | ⟨e, -, herror, -⟩
  · exact hok
  · cases herror.symm.trans hv

/-- **A move keeps the tenure of its change** -/
theorem move_tenure (hw : w.Consistent) (hp : w.phase? job = some p) (htenure : w.Tenure p)
    (hm : Move (Server.setup settings env introspectors) job w p q u) : u.Tenure q := by
  cases hm with
  | commit =>
    intro c hc
    cases hc
    have hserved : _ = servedHolder := (hw.served.serves job _ hp).1
    show _ = (World.served (w.setHolder _ _)).version
    rw [hserved, served_setHolder hw.served.single]
  | call hcall => exact tenure_call hw hp htenure hcall
  | answered => exact fun c hc => (htenure c hc).1
  | refused hreply hbad hpurpose =>
    intro hready htarget
    obtain ⟨-, done, -, hanswered⟩ := hw.inStep job _ hp
    obtain rfl := replied_atOnce hanswered.atOnce hreply
    rw [callFailure_eq_none.2 ((htenure _ hpurpose).2 hready htarget)] at hbad
    cases hbad
  | document hpurpose => exact htenure _ hpurpose
  | skip hpurpose => exact htenure _ hpurpose
  | generate hcall =>
    obtain ⟨v, rfl, -⟩ := makeCall_answer hcall
    exact htenure
  | documented => exact htenure
  | install => exact tenure_of_idle (by split_ifs <;> rfl)
  | restore => exact fun c hc => by cases hc
  | _ => exact tenure_of_idle rfl

end Tenure

end World

/-! ## What came of commits -/

/-- what came of a snapshot that was put in force: its change was made, or was undone -/
inductive Resolution where
  | made (job : Nat)
  | undone (job : Nat)

/-- what comes of the snapshot in force with the next move of a job -/
def Phase.resolution? (job : Nat) : Phase → Option Resolution
  | .concluding .. => some (.made job)
  | .rollingBack .. => some (.undone job)
  | _ => none

/-- no snapshot is in force whose change still goes on -/
def World.Calm (w : World σ ι) : Prop := ∀ j p, w.phase? j = some p → p.isInForce = false

namespace Gateway

/-- what comes of the snapshot in force with a piece of traffic -/
def resolved (g : Gateway ι) : Traffic → List Resolution
  | .advance job => ((g.world.phase? job).bind (Phase.resolution? job)).toList
  | _ => []

/-- what comes of all commits along some traffic, in order -/
def resolutions [Pattern.Engine] (settings : Settings) (env : Environment) (introspectors : Introspectors ι)
    (g : Gateway ι) : List Traffic → List Resolution
  | [] => []
  | t :: l => g.resolved t ++ (g.step settings env introspectors t).resolutions settings env introspectors l

/-- a report is that of the last change that was made. It names the version there is unless a change was undone since,
and then an earlier one; while a snapshot is in force whose change goes on, the version may be a later one already. -/
def Recalls (g : Gateway ι) (l : List Resolution) (report : ChangeReport) : Prop :=
  ∃ before job after, l = before ++ .made job :: after ∧ (∀ x ∈ after, ∃ k, x = .undone k) ∧
    g.world.result? job = some (.changed (.ok report)) ∧ report.version ≤ g.world.served.version ∧
    (g.world.Calm → (report.version = g.world.served.version ↔ after = []))

/-- what is true of the last report, given what came of all commits -/
structure Recorded (g : Gateway ι) (l : List Resolution) : Prop where
  tenure : ∀ j p, g.world.phase? j = some p → g.world.Tenure p
  ready : g.world.ready = g.world.lastReport.isSome
  recalls : ∀ report, g.world.lastReport = some report → g.Recalls l report

end Gateway

section Recorded

variable {settings : Settings} {env : Environment} {introspectors : Introspectors ι} {g g' : Gateway ι} {t : Traffic}
  {l : List Resolution} {report : ChangeReport}

/-- a snapshot that is in force stays so until its change is made or undone -/
theorem World.inForce_move {setup : Setup σ ι} {w u : World σ ι} {job : Nat} {p q : Phase} (hm : Move setup job w p q u)
    (hp : p.isInForce = true) (hresolution : p.resolution? job = none) : q.isInForce = true := by
  cases hm with
  | lost _ _ hpurpose => simp [Phase.isInForce, Purpose.isService, hpurpose] at hp
  | restored hpurpose => simp [Phase.isInForce, Purpose.isService, hpurpose] at hp
  | succeed => cases hresolution
  | restore => cases hresolution
  | giveUp => cases hresolution
  | _ => first | exact hp | rfl | cases hp

/-- what was said of the last change is said until another one is made -/
theorem World.lastReport_move {setup : Setup σ ι} {w u : World σ ι} {job : Nat} {p q : Phase}
    (hm : Move setup job w p q u) (hp : ∀ r c diagnostics, p ≠ .concluding r c diagnostics) :
    u.ready = w.ready ∧ u.lastReport = w.lastReport := by
  cases hm with
  | accept => split_ifs <;> exact ⟨rfl, rfl⟩
  | call hcall => cases hcall; exact ⟨rfl, rfl⟩
  | generate hcall => cases hcall; exact ⟨rfl, rfl⟩
  | restore _ hu => subst hu; exact ⟨rfl, rfl⟩
  | giveUp hu => subst hu; exact ⟨rfl, rfl⟩
  | succeed => exact absurd rfl (hp _ _ _)
  | _ => exact ⟨rfl, rfl⟩

theorem recorded_boot (config : Option RuntimeConfig) (memory : ι) : (Gateway.boot config memory).Recorded [] := by
  refine ⟨fun j p hp => ?_, rfl, fun report hreport => by cases hreport⟩
  rw [show (Gateway.boot config memory).world.phase? j = none from rfl] at hp
  cases hp

variable [Pattern.Engine]

theorem resolutions_snoc (settings : Settings) (env : Environment) (introspectors : Introspectors ι) (g : Gateway ι)
    (l : List Traffic) (t : Traffic) :
    g.resolutions settings env introspectors (l ++ [t]) =
      g.resolutions settings env introspectors l ++ (g.run settings env introspectors l).resolved t := by
  induction l generalizing g with
  | nil => simp [Gateway.resolutions, Gateway.run]
  | cons x l ih =>
    simp only [List.cons_append, Gateway.resolutions, ih, List.append_assoc]
    rfl

theorem World.held_of_ready {w : World Services ι} (hw : w.Consistent) (hready : w.ready = true) :
    w.served.held.isSome := by
  cases hrun : w.running with
  | none =>
    obtain ⟨s, hs, -⟩ := (hw.rest hrun).agrees hready
    rw [hs]
    rfl
  | some job =>
    obtain ⟨p, hp, hlocked⟩ := hw.served.sound.locked job hrun
    exact World.held_of_locked hw.served hp hlocked

section Moves

variable {u : World Services ι} {job : Nat} {p q : Phase}

/-- a change that was made is recalled by its own report -/
theorem recalls_made (hg : g.Recorded l) (hp : g.world.phase? job = some (.concluding r c diagnostics))
    (hm : Move (Server.setup settings env introspectors) job g.world (.concluding r c diagnostics) q u)
    (hreport : u.lastReport = some report) :
    Gateway.Recalls { g with world := u.setPhase job q } (l ++ [.made job]) report := by
  have hversion : c.version = g.world.served.version := hg.tenure job _ hp
  have hq := World.phase?_moved (World.move_jobs hm) hp q
  cases hm with
  | succeed hmade =>
    rename_i made
    obtain rfl : made = report := Option.some.inj hreport
    have hsame : made.version = g.world.served.version := by
      rw [hmade]
      exact hversion
    exact ⟨l, job, [], rfl, by simp, World.result?_eq_some.2 hq, hsame.le, fun _ => iff_of_true hsame rfl⟩

/-- a rollback in a gateway that is ready puts another snapshot in the place of the one that is undone -/
theorem supersedes_rollBack (hw : g.world.Consistent) (hg : g.Recorded l)
    (hp : g.world.phase? job = some (.rollingBack r fault)) (hready : g.world.ready = true) :
    ∃ s, g.world.Supersedes (.rollingBack r fault) s := by
  have hrestorable : g.world.Restorable r.checkpoint := hw.inStep job _ hp
  obtain ⟨t, ht, hheld⟩ := (hw.served.custody job _ hp).run r rfl
  refine ⟨t, .rollBack ht fun hsame => hg.tenure job _ hp (hrestorable.ready.symm.trans hready) ?_⟩
  rw [ht, ← hsame, hheld]
  rfl

/-- the report of the last change that was made falls behind when another one is undone -/
theorem recalls_undone (hw : g.world.Consistent) (hg : g.Recorded l)
    (hp : g.world.phase? job = some (.rollingBack r fault))
    (hm : Move (Server.setup settings env introspectors) job g.world (.rollingBack r fault) q u)
    (hready : g.world.ready = true) (h : g.Recalls l report) :
    Gateway.Recalls { g with world := u.setPhase job q } (l ++ [.undone job]) report := by
  obtain ⟨before, k, after, rfl, hafter, hresult, hle, -⟩ := h
  obtain ⟨s, hs⟩ := supersedes_rollBack hw hg hp hready
  have hversion : u.served.version = g.world.served.version + 1 := by
    rcases World.move_version hw.served hp hm with ⟨-, -, hnot⟩ | ⟨-, -, -, hversion⟩
    · exact absurd hs (hnot s)
    · exact hversion
  have hresult' := World.result?_eq_some.2
    (World.ended_step (Step.advance hp hm) (World.result?_eq_some.1 hresult) rfl)
  refine ⟨before, k, after ++ [.undone job], by simp, ?_, hresult', ?_, fun _ => ?_⟩
  · intro x hx
    rcases List.mem_append.1 hx with hx | hx
    · exact hafter x hx
    · exact ⟨job, List.mem_singleton.1 hx⟩
  · show report.version ≤ u.served.version
    omega
  · have hlt : report.version ≠ u.served.version := by omega
    exact iff_of_false hlt (by simp)

theorem recalls_move (hw : g.world.Consistent) (hp : g.world.phase? job = some p)
    (hm : Move (Server.setup settings env introspectors) job g.world p q u) (hresolution : p.resolution? job = none)
    (hready : g.world.ready = true) (h : g.Recalls l report) :
    Gateway.Recalls { g with world := u.setPhase job q } l report := by
  obtain ⟨before, k, after, rfl, hafter, hresult, hle, hcalm⟩ := h
  have hresult' := World.result?_eq_some.2
    (World.ended_step (Step.advance hp hm) (World.result?_eq_some.1 hresult) rfl)
  refine ⟨before, k, after, rfl, hafter, hresult', ?_, fun hcalm' => ?_⟩
  · show report.version ≤ u.served.version
    rcases World.move_version hw.served hp hm with ⟨-, hversion, -⟩ | ⟨-, -, -, hversion⟩ <;> omega
  · have hq : q.isInForce = false := hcalm' job q (World.phase?_moved (World.move_jobs hm) hp q)
    have hversion : u.served.version = g.world.served.version := by
      rcases World.move_version hw.served hp hm with ⟨-, hversion, -⟩ | ⟨s, hs, -⟩
      · exact hversion
      · cases hs with
        | install hempty =>
          have hsome := World.held_of_ready hw hready
          rw [hempty] at hsome
          cases hsome
        | commit =>
          cases hm with
          | commit => cases hq
        | rollBack => cases hresolution
    have hbefore : g.world.Calm := by
      intro j r hr
      rw [Bool.eq_false_iff]
      intro hforce
      by_cases hj : j = job
      · subst hj
        obtain rfl := Option.some.inj (hp.symm.trans hr)
        rw [World.inForce_move hm hforce hresolution] at hq
        cases hq
      · have := hcalm' j r ((World.phase?_other (World.move_jobs hm) hj q).trans hr)
        rw [hforce] at this
        cases this
    show report.version = u.served.version ↔ after = []
    rw [hversion]
    exact hcalm hbefore

/-- **A move keeps what is true of the last report** -/
theorem recorded_advance (hw : g.world.Consistent) (hg : g.Recorded l) (hp : g.world.phase? job = some p)
    (hm : Move (Server.setup settings env introspectors) job g.world p q u) :
    Gateway.Recorded { g with world := u.setPhase job q } (l ++ (p.resolution? job).toList) := by
  have htenure : ∀ j r, (u.setPhase job q).phase? j = some r → u.Tenure r := by
    intro j r hr
    rcases World.phase?_setPhase_cases (World.move_jobs hm) hp hr with ⟨rfl, rfl⟩ | ⟨hne, hr⟩
    · exact World.move_tenure hw hp (hg.tenure j p hp) hm
    · refine (hg.tenure j r hr).kept fun hlocked => ?_
      have hfree := hw.served.sound.free_of_other (hw.served.sound.alone j r hr hlocked) hp (Ne.symm hne)
      exact World.version_of_free hw.served hp hfree (World.held_of_locked hw.served hr hlocked) hm
  have hreports : u.ready = u.lastReport.isSome ∧ ∀ report, u.lastReport = some report →
      Gateway.Recalls { g with world := u.setPhase job q } (l ++ (p.resolution? job).toList) report := by
    by_cases hmade : ∃ r c diagnostics, p = .concluding r c diagnostics
    · obtain ⟨r, c, diagnostics, rfl⟩ := hmade
      refine ⟨?_, fun report hreport => recalls_made hg hp hm hreport⟩
      cases hm with
      | succeed => rfl
    · obtain ⟨hready, hlast⟩ := World.lastReport_move hm fun r c diagnostics h => hmade ⟨r, c, diagnostics, h⟩
      rw [hready, hlast]
      refine ⟨hg.ready, fun report hreport => ?_⟩
      have hrecalls := hg.recalls report hreport
      have hserving : g.world.ready = true := by
        rw [hg.ready, hreport]
        rfl
      by_cases hundone : ∃ r fault, p = .rollingBack r fault
      · obtain ⟨r, fault, rfl⟩ := hundone
        exact recalls_undone hw hg hp hm hserving hrecalls
      · have hnone : p.resolution? job = none := by
          cases p with
          | concluding => exact absurd ⟨_, _, _, rfl⟩ hmade
          | rollingBack => exact absurd ⟨_, _, rfl⟩ hundone
          | _ => rfl
        rw [hnone, Option.toList_none, List.append_nil]
        exact recalls_move hw hp hm hnone hserving hrecalls
  refine ⟨fun j r hr => ?_, hreports.1, hreports.2⟩
  exact (htenure j r hr).kept fun _ => rfl

end Moves

/-- only jobs that go on put a snapshot in force, or take it back -/
theorem inForce_of_serve (hg : g.world.Served) (h : Serve settings env introspectors g t g')
    (hother : ∀ job, t ≠ .advance job) {p : Phase} (hp : p.isInForce = true) (j : Nat) :
    g'.world.phase? j = some p ↔ g.world.phase? j = some p := by
  cases piece_of_serve hg h with
  | take =>
    constructor
    · intro hj
      rcases World.phase?_submit_cases hj with hj | ⟨-, rfl⟩
      · exact hj
      · rw [Phase.isInForce_eq_false (World.start_plain _).1] at hp
        cases hp
    · exact fun hj => (World.phase?_submit_of_lt _ _ (World.lt_jobs_of_phase? hj)).trans hj
  | advance => exact absurd rfl (hother _)
  | still hstill =>
    constructor
    · intro hj
      obtain ⟨q, hq, hstays⟩ := hstill.before hj
      rw [stays_inForce hstays hp]
      exact hq
    · intro hj
      obtain ⟨q, hq, hstays⟩ := hstill.phases j p hj
      cases hstays with
      | same => exact hq
      | gathers => cases hp
      | drops hcan hcall => cases p <;> contradiction

theorem recorded_kept (hw : g.world.Consistent) (hg : g.Recorded l) (h : Serve settings env introspectors g t g')
    (hother : ∀ job, t ≠ .advance job) : g'.Recorded l := by
  obtain ⟨hserved, hready, hreport⟩ := kept_of_serve h hother
  have hforce := fun {p} => inForce_of_serve (p := p) hw.served h hother
  obtain ⟨e, hs⟩ := step_of_serve h
  refine ⟨fun j p hp => ?_, by rw [hready, hreport]; exact hg.ready, fun report hlast => ?_⟩
  · cases hp' : p.isInForce with
    | false => exact World.tenure_of_idle hp'
    | true => exact (hg.tenure j p ((hforce hp' j).1 hp)).kept fun _ => congrArg _ hserved
  · obtain ⟨before, k, after, hl, hafter, hresult, hle, hcalm⟩ := hg.recalls report (hreport ▸ hlast)
    have hresult' := World.result?_eq_some.2 (World.ended_step hs (World.result?_eq_some.1 hresult) rfl)
    refine ⟨before, k, after, hl, hafter, hresult', hserved ▸ hle, fun hcalm' => ?_⟩
    rw [hserved]
    refine hcalm fun j p hp => ?_
    rw [Bool.eq_false_iff]
    intro hp'
    have := hcalm' j p ((hforce hp' j).2 hp)
    rw [hp'] at this
    cases this

theorem serve_of_resolved (ht : g.resolved t ≠ []) :
    Serve settings env introspectors g t (g.step settings env introspectors t) := by
  cases t with
  | advance job =>
    simp only [Gateway.resolved] at ht
    cases hp : g.world.phase? job with
    | none => simp [hp] at ht
    | some p =>
      refine serve_of_event rfl (World.step_of_next? hp ?_)
      cases p with
      | concluding => rfl
      | rollingBack => rfl
      | _ => simp [hp, Phase.resolution?] at ht
  | _ => exact absurd rfl ht

/-- **All traffic keeps what is true of the last report** -/
theorem recorded_serve (hw : g.world.Consistent) (hg : g.Recorded l) (h : Serve settings env introspectors g t g') :
    g'.Recorded (l ++ g.resolved t) := by
  by_cases hadvance : ∃ job, t = .advance job
  · obtain ⟨job, rfl⟩ := hadvance
    cases h with
    | advance hp hm =>
      obtain ⟨h₁, h₂, h₃⟩ := recorded_advance hw hg hp hm
      rw [Gateway.resolved, hp]
      exact ⟨h₁, h₂, h₃⟩
  · have hnone : g.resolved t = [] := by
      cases t with
      | advance job => exact absurd ⟨job, rfl⟩ hadvance
      | _ => rfl
    rw [hnone, List.append_nil]
    exact recorded_kept hw hg h fun job ht => hadvance ⟨job, ht⟩

variable (settings env introspectors) in
/-- **What the last report says, against what came of all commits**, along all traffic -/
theorem recorded_run (config : Option RuntimeConfig) (memory : ι) (l : List Traffic) :
    ((Gateway.boot config memory).run settings env introspectors l).Recorded
      ((Gateway.boot config memory).resolutions settings env introspectors l) := by
  induction l using List.reverseRecOn with
  | nil => exact recorded_boot config memory
  | append_singleton l t ih =>
    have hw : ((Gateway.boot config memory).run settings env introspectors l).world.Consistent :=
      consistent_reached ⟨config, memory, l, rfl⟩
    rw [resolutions_snoc, show (Gateway.boot config memory).run settings env introspectors (l ++ [t]) =
      ((Gateway.boot config memory).run settings env introspectors l).step settings env introspectors t by
        simp [Gateway.run]]
    generalize (Gateway.boot config memory).run settings env introspectors l = g at *
    by_cases ht : g.resolved t = []
    · rcases serve_of_step settings env introspectors g t with hsame | hserve
      · rw [hsame, ht, List.append_nil]
        exact ih
      · exact recorded_serve hw ih hserve
    · exact recorded_serve hw ih (serve_of_resolved ht)

end Recorded

/-! ## Whether a gateway says that it is ready -/

section Readiness

variable [Pattern.Engine] {settings : Settings} {env : Environment} {introspectors : Introspectors ι} {r : Request}

theorem answerTo_readiness (hget : r.method = "GET") (hpath : r.path = "/ready") (g : Gateway ι) :
    (g.answerTo settings env introspectors r).status = 200 ↔
      g.world.ready = true ∧ g.world.served.held.isSome = true := by
  have hendpoint : r.endpoint settings.maxConfigBytes = .ok (.page .readiness) := by
    simp [Request.endpoint, hpath, Endpoint.ofPath?, Endpoint.allows, Endpoint.isUnbounded, Page.isForMonitoring, hget]
  have hpage : g.answerTo settings env introspectors r = readinessPage g.world := by
    simp [Gateway.answerTo, Request.plan, hendpoint, Server.perform, hget]
    rfl
  rw [hpage, ← Bool.and_eq_true]
  unfold readinessPage World.isServing
  split_ifs with hserving
  · exact iff_of_true rfl hserving
  · exact iff_of_false (fun h => by cases h) hserving

end Readiness

/-! ## Along all traffic -/

section Traffic

variable [Pattern.Engine] (settings : Settings) (env : Environment) (introspectors : Introspectors ι)

/-- **Versions and readiness only go forward.** A piece of traffic changes what is held if it puts a first
configuration, the snapshot of a change or the one from before a change in the place of another one or of nothing, and
then the version grows by one; otherwise both stay. Of two moments of one history the later one has no smaller version,
holds the same snapshot if the versions are the same, holds something if the earlier one does, and a request for the
readiness that was answered with a success is answered so again. While no change goes on, the last report is that of
the last change that was made, and its version is the one there is if no change was undone since, and a smaller one if
one was. -/
theorem versions_only_go_forward (config : Option RuntimeConfig) (memory : ι) :
    let after (l : List Traffic) := (Gateway.boot config memory).run settings env introspectors l
    -- one piece of traffic
    (∀ l t,
      ((after l).Supersedes t ∧ (after (l ++ [t])).world.served.held ≠ (after l).world.served.held ∧
          (after (l ++ [t])).world.served.version = (after l).world.served.version + 1) ∨
        (¬ (after l).Supersedes t ∧ (after (l ++ [t])).world.served.held = (after l).world.served.held ∧
          (after (l ++ [t])).world.served.version = (after l).world.served.version)) ∧
    -- two moments
    (∀ l l',
      (after l).world.served.version ≤ (after (l ++ l')).world.served.version ∧
        ((after l).world.served.version = (after (l ++ l')).world.served.version →
          (after (l ++ l')).world.served.held = (after l).world.served.held) ∧
        ((after l).world.served.held.isSome → (after (l ++ l')).world.served.held.isSome) ∧
        ∀ r : Request, r.method = "GET" → r.path = "/ready" →
          ((after l).answerTo settings env introspectors r).status = 200 →
            ((after (l ++ l')).answerTo settings env introspectors r).status = 200) ∧
    -- the last report
    ∀ l report, (after l).world.running = none → (after l).world.lastReport = some report →
      ∃ before job undone,
        (Gateway.boot config memory).resolutions settings env introspectors l = before ++ .made job :: undone ∧
          (∀ x ∈ undone, ∃ k, x = .undone k) ∧ (after l).world.result? job = some (.changed (.ok report)) ∧
          report.version ≤ (after l).world.served.version ∧
          (report.version = (after l).world.served.version ↔ undone = []) := by
  intro after
  have hreached : ∀ l, (after l).Reached settings env introspectors := fun l => ⟨config, memory, l, rfl⟩
  have happend : ∀ l l', after (l ++ l') = (after l).run settings env introspectors l' :=
    fun l l' => List.foldl_append
  refine ⟨fun l t => ?_, fun l l' => ?_, fun l report hrun hreport => ?_⟩
  · rw [happend]
    rcases version_step settings env introspectors (consistent_reached (hreached l)).served t with
      ⟨hs, hheld, -, hversion⟩ | hkept
    · exact Or.inl ⟨hs, hheld, hversion⟩
    · exact Or.inr hkept
  · have hforward := forward_run settings env introspectors (hreached l) l'
    rw [happend]
    refine ⟨hforward.version, hforward.same, hforward.held, fun r hget hpath hready => ?_⟩
    rw [answerTo_readiness hget hpath] at hready ⊢
    exact ⟨hforward.ready hready.1, hforward.held hready.2⟩
  · obtain ⟨before, job, undone, hl, hundone, hresult, hle, hcalm⟩ :=
      (recorded_run settings env introspectors config memory l).recalls report hreport
    refine ⟨before, job, undone, hl, hundone, hresult, hle, hcalm fun j p hp => ?_⟩
    exact Phase.isInForce_eq_false ((consistent_reached (hreached l)).served.sound.free_of_none hrun hp)

end Traffic

/-! ### A gateway in which a change was undone -/

open scoped Simulation

/-- a request for an entity under a name that GraphQL does not allow -/
def misnamedRequest : Request where
  method := "POST"
  target := "/configuration/entities"
  contentType := some "application/json"
  body := "\x7b\"name\":\"1\",\"entity\":\x7b\"source\":\x7b\"object\":\"b\"\x7d\x7d\x7d"

/-- that request after a start, up to its end -/
def misnamedTraffic : List Traffic :=
  [.request misnamedRequest] ++ List.replicate 4 (.advance 1) ++ [.settle 1 "default"] ++ List.replicate 21 (.advance 1)

/-- the gateway after that -/
def misnamedGateway : Gateway Unit :=
  (Gateway.boot (some World.plainConfig) ()).run {} (fun _ => none) emptyDatabases (firstTraffic ++ misnamedTraffic)

def readinessRequest : Request := { target := "/ready" }

theorem undone_change_leaves_the_report_behind :
    (misnamedGateway.answerTo {} (fun _ => none) emptyDatabases readinessRequest).status = 200 ∧
    ∃ report before job undone, misnamedGateway.world.lastReport = some report ∧
      (Gateway.boot (some World.plainConfig) ()).resolutions {} (fun _ => none) emptyDatabases
        (firstTraffic ++ misnamedTraffic) = before ++ .made job :: undone ∧
      undone ≠ [] ∧ report.version < misnamedGateway.world.served.version := by
  obtain ⟨hready, hidle, hlast, hversion⟩ :
      (startedGateway.answerTo {} (fun _ => none) emptyDatabases readinessRequest).status = 200 ∧
        misnamedGateway.world.running = none ∧ misnamedGateway.world.lastReport.map (·.version) = some 1 ∧
        misnamedGateway.world.served.version = 3 := by decide +kernel
  obtain ⟨-, hmoments, hreports⟩ :=
    versions_only_go_forward {} (fun _ => none) emptyDatabases (some World.plainConfig) ()
  obtain ⟨report, hreport, hone⟩ := Option.map_eq_some_iff.1 hlast
  obtain ⟨before, job, undone, hl, -, -, hle, hiff⟩ := hreports (firstTraffic ++ misnamedTraffic) report hidle hreport
  change report.version ≤ misnamedGateway.world.served.version at hle
  change report.version = misnamedGateway.world.served.version ↔ undone = [] at hiff
  have hlt : report.version < misnamedGateway.world.served.version := by omega
  refine ⟨(hmoments firstTraffic misnamedTraffic).2.2.2 readinessRequest rfl rfl hready, ?_⟩
  exact ⟨report, before, job, undone, hreport, hl, fun hnil => hlt.ne (hiff.2 hnil), hlt⟩

end EntityGateway
