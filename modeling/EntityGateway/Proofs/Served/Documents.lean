/-
The document that is served describes the snapshot that is held.

A document is kept with the snapshot it was made of and is served only while that snapshot is held. Changes that fail,
that make no document, or that are undone move what is held back and forth beside it. What keeps the two together is
that in a gateway that is ready, the document of what is held is there if one can be made at all, with the version of
the last report; a change that has put nothing in force yet, or takes back what it has, can count on this for what it
found.

- `build_eq_ok_iff`: which configurations can be documented;
- `Published`: what is true of the document at every moment; `published_serve`: all traffic keeps to it;
- `retained_run`: a change that fails leaves the document as it is;
- `document_describes_what_is_held`: the whole of it, as the page says it.
-/
import EntityGateway.Proofs.Orchestration.Stages
import EntityGateway.Proofs.Served.Bookkeeping
import EntityGateway.Proofs.Served.Permissions

namespace EntityGateway

open Http

/-! ## What can be documented -/

/-- a configuration without a document store, with a REST endpoint and an entity that has a route -/
structure RuntimeConfig.IsDocumentable (c : RuntimeConfig) : Prop where
  store : c.usesDocumentStore = false
  rest : c.runtime.rest.enabled = true
  routed : ∃ entry ∈ c.entities.entries, entry.2.rest.enabled = true

namespace OpenApi

/-- a document is made if there is a REST endpoint with an entity -/
theorem build_eq_ok_iff (c : RuntimeConfig) : (∃ d, build c = .ok d) ↔
    c.runtime.rest.enabled = true ∧ ∃ entry ∈ c.entities.entries, entry.2.rest.enabled = true := by
  have hrouted : (routed c).isEmpty = false ↔ ∃ entry ∈ c.entities.entries, entry.2.rest.enabled = true := by
    simp [routed, List.isEmpty_eq_false_iff]
  rw [← hrouted]
  simp only [build]
  cases c.runtime.rest.enabled <;> cases (routed c).isEmpty <;> simp

end OpenApi

/-! ## Documents in force -/

/-- the document of a snapshot is there, with a version, if one can be made -/
def Services.Describes (v : Services) (s : Snapshot) (version : Nat) : Prop :=
  s.config.IsDocumentable → ∃ d, v.document = some ⟨s, version, d⟩

/-- whether a job makes the document, or is past that -/
def Phase.isFiling : Phase → Bool
  | .generating .. | .documenting .. | .concluding .. => true
  | _ => false

namespace World

/-- a document was made of the snapshot it is kept with -/
structure Genuine (w : World Services ι) (d : GeneratedDocument) : Prop where
  built : OpenApi.build d.snapshot.config = .ok d.document
  store : d.snapshot.config.usesDocumentStore = false
  older : d.snapshot.id < w.fresh
  distinct : ∀ s, w.Knows s → s.id = d.snapshot.id → s = d.snapshot

/-- in a gateway that is ready the document of a snapshot is there, with the version of the last report -/
def UpToDate (w : World Services ι) (s : Snapshot) : Prop :=
  w.ready = true → ∃ report, w.lastReport = some report ∧ w.services.Describes s report.version

/-- what a change found is documented -/
def Founded (w : World Services ι) (r : Run) : Prop := ∀ t, r.checkpoint.target = some t → w.UpToDate t

/-- what a job in a phase can count on of the document -/
def OnRecord (w : World Services ι) : Phase → Prop
  | .validating r | .constructing r | .preparing r _ _ | .relating r _ _ | .committing r _ _
  | .rollingBack r _ | .failing r _ => w.Founded r
  | .calling rw _ | .awaiting rw _ _ _ =>
    w.Founded rw.run ∧ ∀ c, rw.purpose = .serve c → c.version = w.served.version
  | .generating r c => c.version = w.served.version ∧ r.snapshot.config.usesDocumentStore = false
  | .documenting r c _ | .concluding r c _ => w.services.Describes r.snapshot c.version
  | _ => True

/-- what is true of the document at every moment -/
structure Published (w : World Services ι) : Prop where
  genuine : ∀ d, w.services.document = some d → w.Genuine d
  rest : w.running = none → ∀ s, w.served.held = some s → w.UpToDate s
  onRecord : ∀ j p, w.phase? j = some p → w.OnRecord p

theorem onRecord_of_free {w : World Services ι} {p : Phase} (h : p.isLocked = false) : w.OnRecord p := by
  cases p <;> first | exact True.intro | cases h

/-! ## What is left alone -/

/-- the document and what was said of the last change are as they were -/
structure Filed (w u : World Services ι) : Prop where
  document : u.services.document = w.services.document
  ready : u.ready = w.ready
  report : u.lastReport = w.lastReport

section Filed

variable {w u : World Services ι} {job : Nat} {p q : Phase} {s : Snapshot}

theorem UpToDate.filed (h : w.UpToDate s) (hf : Filed w u) : u.UpToDate s := by
  intro hready
  obtain ⟨report, hreport, hdescribes⟩ := h (hf.ready ▸ hready)
  refine ⟨report, hf.report.trans hreport, fun hc => ?_⟩
  rw [hf.document]
  exact hdescribes hc

theorem OnRecord.filed (h : w.OnRecord p) (hf : Filed w u)
    (hversion : p.isLocked = true → u.served.version = w.served.version) : u.OnRecord p := by
  have hfounded : ∀ {r : Run}, w.Founded r → u.Founded r := fun hr t ht => (hr t ht).filed hf
  have hdescribes : ∀ {s version}, w.services.Describes s version → u.services.Describes s version := by
    intro s version hd hc
    rw [hf.document]
    exact hd hc
  cases p with
  | calling => exact ⟨hfounded h.1, fun c hc => (h.2 c hc).trans (hversion rfl).symm⟩
  | awaiting => exact ⟨hfounded h.1, fun c hc => (h.2 c hc).trans (hversion rfl).symm⟩
  | generating => exact ⟨h.1.trans (hversion rfl).symm, h.2⟩
  | documenting => exact hdescribes h
  | concluding => exact hdescribes h
  | validating => exact hfounded h
  | constructing => exact hfounded h
  | preparing => exact hfounded h
  | relating => exact hfounded h
  | committing => exact hfounded h
  | rollingBack => exact hfounded h
  | failing => exact hfounded h
  | _ => trivial

variable {settings : Settings} {env : Environment} {introspectors : Introspectors ι}

theorem isFiling_of_free (h : p.isLocked = false) : p.isFiling = false := by
  cases p <;> first | rfl | cases h

/-- a job without the lock leaves the version as it is, once something is held -/
theorem version_of_free {setup : Setup Services ι} (hw : w.Served) (hp : w.phase? job = some p)
    (hfree : p.isLocked = false) (hsome : w.served.held.isSome) (hm : Move setup job w p q u) :
    u.served.version = w.served.version := by
  have hserves := hw.serves job p hp
  cases hm with
  | install hnone =>
    obtain ⟨rfl, -⟩ := hserves
    rw [show w.served.held = none from hnone] at hsome
    cases hsome
  | mark =>
    obtain rfl := hserves
    rw [served_setHolder hw.single]
    rfl
  | accept =>
    have hserved : _ = servedHolder := hserves
    split_ifs
    · rw [hserved, served_setHolder hw.single]
      rfl
    · rfl
  | _ => first | rfl | cases hfree

variable [Pattern.Engine]

theorem document_of_call {wire : Wire} {h : ConfigHolder} {set : ProviderSet} {a : Pending}
    (hcall : w.makeCall (Server.setup settings env introspectors) (wire.call h set s) = (a, u)) : Filed w u := by
  obtain ⟨v, rfl, -, ⟨-, hanswer⟩ | ⟨e, -, -, rfl⟩⟩ := makeCall_answer hcall
  · refine ⟨?_, rfl, rfl⟩
    cases wire with
    | permissions =>
      cases hanswer
      rfl
    | rebind who =>
      cases who <;>
        · obtain ⟨_, -, rfl⟩ := ok_of_map hanswer
          rfl
  · exact ⟨rfl, rfl, rfl⟩

/-- **Only a job that makes the document, or that has, changes what is on file** -/
theorem filed_move (hm : Move (Server.setup settings env introspectors) job w p q u) (hp : p.isFiling = false) :
    Filed w u := by
  cases hm with
  | accept => split_ifs <;> exact ⟨rfl, rfl, rfl⟩
  | call hcall => exact document_of_call hcall
  | restore _ hu =>
    subst hu
    exact ⟨rfl, rfl, rfl⟩
  | giveUp hu =>
    subst hu
    exact ⟨rfl, rfl, rfl⟩
  | generate => cases hp
  | succeed => cases hp
  | _ => exact ⟨rfl, rfl, rfl⟩

end Filed

/-! ## The job with the lock -/

section Moves

variable [Pattern.Engine] {settings : Settings} {env : Environment} {introspectors : Introspectors ι}
  {w u : World Services ι}
  {job : Nat} {p q : Phase} {d : GeneratedDocument}

theorem Genuine.moved (hd : w.Genuine d) (hw : w.Served) (hp : w.phase? job = some p)
    (hm : Move (Server.setup settings env introspectors) job w p q u) : (u.setPhase job q).Genuine d := by
  rcases move_snapshots hw hp hm with ⟨hfresh, hold⟩ | ⟨hfresh, c, -, hnew⟩
  · refine ⟨hd.built, hd.store, hfresh ▸ hd.older, fun s hs hid => ?_⟩
    exact hd.distinct s ((knows_moved hp hm hs).elim (hold s) id) hid
  · refine ⟨hd.built, hd.store, ?_, fun s hs hid => ?_⟩
    · show d.snapshot.id < u.fresh
      rw [hfresh]
      exact Nat.lt_succ_of_lt hd.older
    · rcases (knows_moved hp hm hs).elim (hnew s) Or.inl with hs | rfl
      · exact hd.distinct s hs hid
      · exact absurd hid (Nat.ne_of_gt hd.older)

/-- a document that is made is one of the snapshot of the change, and anything else keeps the document -/
theorem document_of_generate {r : Run} {c : Commit} {a : Pending} (hw : w.Served)
    (hp : w.phase? job = some (.generating r c)) (hstore : r.snapshot.config.usesDocumentStore = false)
    (hcall : w.makeCall (Server.setup settings env introspectors) (.generate (w.holder r.holder) r.snapshot) = (a, u))
    (hd : u.services.document = some d) : w.Genuine d ∨ w.services.document = some d := by
  obtain ⟨v, rfl, -, ⟨-, hanswer⟩ | ⟨e, -, -, rfl⟩⟩ := makeCall_answer hcall
  · obtain ⟨document, hbuild, rfl⟩ := ok_of_map hanswer
    cases hd
    have hknows : w.Knows r.snapshot := knows_run hp rfl
    exact Or.inl ⟨hbuild, hstore, hw.older _ hknows, fun s hs hid => hw.distinct s _ hs hknows hid⟩
  · exact Or.inr hd

theorem describes_of_generate {r : Run} {c : Commit} {a : Pending} (hholder : r.holder = servedHolder)
    (hversion : c.version = w.served.version)
    (hcall : w.makeCall (Server.setup settings env introspectors) (.generate (w.holder r.holder) r.snapshot) = (a, u)) :
    u.services.Describes r.snapshot c.version := by
  intro hc
  obtain ⟨document, hbuild⟩ := (OpenApi.build_eq_ok_iff _).2 ⟨hc.rest, hc.routed⟩
  obtain ⟨v, rfl, -, ⟨-, hanswer⟩ | ⟨e, -, hanswer, -⟩⟩ := makeCall_answer hcall
  · obtain ⟨document', -, rfl⟩ := ok_of_map hanswer
    rw [hversion, hholder]
    exact ⟨document', rfl⟩
  · simp [Services.answer, hbuild, Except.map] at hanswer

/-- **The job with the lock can count on the document**, phase by phase -/
theorem move_onRecord (hw : w.Served) (h : w.Published) (hp : w.phase? job = some p) (hlocked : p.isLocked = true)
    (hm : Move (Server.setup settings env introspectors) job w p q u) : u.OnRecord q := by
  have hin := h.onRecord job p hp
  have hserves := hw.serves job p hp
  cases hm with
  | commit =>
    refine ⟨hin, fun c hc => ?_⟩
    cases hc
    obtain ⟨hholder, -⟩ := hserves
    show _ = (World.served (w.setHolder _ _)).version
    rw [hholder, served_setHolder hw.single]
  | call hcall =>
    have hfiled := document_of_call hcall
    obtain ⟨v, rfl, -⟩ := makeCall_answer hcall
    exact ⟨fun t ht => (hin.1 t ht).filed hfiled, hin.2⟩
  | refused => exact hin.1
  | lost => exact hin.1
  | restored => exact hin.1
  | document hpurpose _ hstore =>
    refine ⟨hin.2 _ hpurpose, ?_⟩
    rw [snapshot_of_serve (hw.custody job _ hp) hpurpose]
    exact hstore
  | skip hpurpose hdocs =>
    intro hc
    rw [snapshot_of_serve (hw.custody job _ hp) hpurpose] at hc
    rcases hdocs with hdocs | hstore
    · cases hdocs
    · cases hstore.symm.trans hc.store
  | generate hcall => exact describes_of_generate hserves.1 hin.1 hcall
  | restore _ hu =>
    subst hu
    exact ⟨hin, fun c hc => by cases hc⟩
  | giveUp hu =>
    subst hu
    exact hin
  | _ => first | exact hin | exact True.intro | cases hlocked

theorem onRecord_begin (hw : w.Served) (h : w.Published) (hp : w.phase? job = some p) (hfree : p.isLocked = false)
    (hq : q.isLocked = true) (hm : Move (Server.setup settings env introspectors) job w p q u) : u.OnRecord q := by
  have hserves := hw.serves job p hp
  cases hm with
  | apply hrun =>
    obtain rfl := hserves
    exact fun t ht => h.rest hrun t ht
  | edit hrun =>
    obtain rfl := hserves
    exact fun t ht => h.rest hrun t ht
  | install => split_ifs at hq <;> cases hq
  | _ => contradiction

/-- a change that ends leaves the document of what is held -/
theorem upToDate_end (hw : w.Served) (h : w.Published) (hp : w.phase? job = some p) (hlocked : p.isLocked = true)
    (hq : q.isLocked = false) (hm : Move (Server.setup settings env introspectors) job w p q u) {s : Snapshot}
    (hs : u.served.held = some s) : u.UpToDate s := by
  have hin := h.onRecord job p hp
  cases hm with
  | succeed hreport =>
    obtain ⟨t, -, hheld⟩ := (hw.custody job _ hp).run _ rfl
    obtain rfl := Option.some.inj (hheld.symm.trans hs)
    subst hreport
    exact fun _ => ⟨_, rfl, hin⟩
  | fail =>
    obtain ⟨t, ht, hheld⟩ := (hw.custody job _ hp).run _ rfl
    obtain rfl := Option.some.inj (hheld.symm.trans hs)
    exact hin t ht
  | _ => contradiction

theorem upToDate_free (hw : w.Consistent) (h : w.Published) (hp : w.phase? job = some p) (hfree : p.isLocked = false)
    (hrun : w.running = none) (hm : Move (Server.setup settings env introspectors) job w p q u) {s : Snapshot}
    (hs : u.served.held = some s) : u.UpToDate s := by
  have hfiled := filed_move hm (isFiling_of_free hfree)
  rcases move_held hw.served hp hm with hsame | ⟨hlocked, -⟩ | hnone
  · exact (h.rest hrun s (hsame ▸ hs)).filed hfiled
  · rw [hfree] at hlocked
    cases hlocked
  · -- nothing is held in a gateway that is not ready
    intro hready
    obtain ⟨t, ht, -⟩ := (hw.rest hrun).agrees (hfiled.ready ▸ hready)
    cases hnone.symm.trans ht

/-- **A move keeps what is true of the document** -/
theorem published_advance (hw : w.Consistent) (h : w.Published) (hp : w.phase? job = some p)
    (hm : Move (Server.setup settings env introspectors) job w p q u) : (u.setPhase job q).Published := by
  have hsound := sound_advance hw.served.sound hp hm
  have hq := phase?_moved (move_jobs hm) hp q
  refine ⟨fun d hd => ?_, fun hrun s hs => ?_, fun k r hk => ?_⟩
  · have hgenuine : w.Genuine d := by
      cases hfiling : p.isFiling with
      | false =>
        have hdocument := (filed_move hm hfiling).document
        exact h.genuine d (hdocument.symm.trans hd)
      | true =>
        have hin := h.onRecord job p hp
        cases hm with
        | generate hcall => exact (document_of_generate hw.served hp hin.2 hcall hd).elim id (h.genuine d)
        | documented => exact h.genuine d hd
        | succeed => exact h.genuine d hd
        | _ => cases hfiling
    exact hgenuine.moved hw.served hp hm
  · have hqfree : q.isLocked = false := hsound.free_of_none hrun hq
    have hupToDate : u.UpToDate s := by
      cases hlocked : p.isLocked with
      | true => exact upToDate_end hw.served h hp hlocked hqfree hm hs
      | false =>
        obtain ⟨-, -, -, -, -, hrunning⟩ := move_governed hm hlocked hqfree
        exact upToDate_free hw h hp hlocked (hrunning.symm.trans hrun) hm hs
    exact hupToDate
  · rcases phase?_setPhase_cases (move_jobs hm) hp hk with ⟨rfl, rfl⟩ | ⟨hne, hk⟩
    · cases hqlocked : r.isLocked with
      | false => exact onRecord_of_free hqlocked
      | true =>
        cases hlocked : p.isLocked with
        | true => exact (move_onRecord hw.served h hp hlocked hm).filed ⟨rfl, rfl, rfl⟩ fun _ => rfl
        | false => exact (onRecord_begin hw.served h hp hlocked hqlocked hm).filed ⟨rfl, rfl, rfl⟩ fun _ => rfl
    · cases hr : r.isLocked with
      | false => exact onRecord_of_free hr
      | true =>
        have hfree := hw.served.sound.free_of_other (hw.served.sound.alone k r hk hr) hp (Ne.symm hne)
        obtain ⟨h₁, h₂, h₃⟩ := filed_move hm (isFiling_of_free hfree)
        have hversion := version_of_free hw.served hp hfree (held_of_locked hw.served hk hr) hm
        exact (h.onRecord k r hk).filed ⟨h₁, h₂, h₃⟩ fun _ => hversion

end Moves

/-! ## Steps -/

section Steps

variable {settings : Settings} {env : Environment} {introspectors : Introspectors ι} {w u : World Services ι}
  {job : Nat} {p q : Phase} {e : Event}

theorem published_submit (h : w.Published) {t : Task}
    (hbrings : ∀ s, t.start.brings? = some s → w.served.held = some s) : (w.submit t).Published := by
  refine ⟨fun d hd => ?_, h.rest, fun j p hp => ?_⟩
  · obtain ⟨hbuilt, hstore, holder, hdistinct⟩ := h.genuine d hd
    refine ⟨hbuilt, hstore, holder, fun s hs => hdistinct s ?_⟩
    rcases hs with hs | ⟨j, p, hp, hs⟩
    · exact Or.inl hs
    · rcases phase?_submit_cases hp with hp | ⟨-, rfl⟩
      · exact Or.inr ⟨j, p, hp, hs⟩
      · rw [Phase.snapshots_of_free (start_plain t).1, Option.mem_toList] at hs
        exact Or.inl (hbrings s hs)
  · rcases phase?_submit_cases hp with hp | ⟨-, rfl⟩
    · exact h.onRecord j p hp
    · exact onRecord_of_free (start_plain t).1

theorem Still.knows (h : w.Still u) {s : Snapshot} (hs : u.Knows s) : w.Knows s := by
  rcases hs with hs | ⟨j, q, hq, hs⟩
  · exact Or.inl (h.held.symm.trans hs)
  · obtain ⟨p, hp, hstays⟩ := h.before hq
    exact Or.inr ⟨j, p, hp, stays_snapshots hstays s hs⟩

theorem onRecord_stays (hs : p.Stays q) (h : w.OnRecord p) : w.OnRecord q := by
  cases hs with
  | same => exact h
  | gathers => exact h
  | drops => trivial

/-- what no job does keeps what is true of the document, if what is held is on file when no change goes on -/
theorem published_still (h : w.Published) (hstill : w.Still u) (hfiled : Filed w u) (hfresh : u.fresh = w.fresh)
    (hserved : u.served = w.served) (hrest : u.running = none → ∀ s, w.served.held = some s → w.UpToDate s) :
    u.Published := by
  refine ⟨fun d hd => ?_, fun hrun s hs => ?_, fun j q hq => ?_⟩
  · obtain ⟨hbuilt, hstore, holder, hdistinct⟩ := h.genuine d (hfiled.document.symm.trans hd)
    exact ⟨hbuilt, hstore, hfresh ▸ holder, fun s hs => hdistinct s (hstill.knows hs)⟩
  · exact (hrest hrun s (hserved ▸ hs)).filed hfiled
  · obtain ⟨p, hp, hstays⟩ := hstill.before hq
    exact (onRecord_stays hstays (h.onRecord j p hp)).filed hfiled fun _ => congrArg ConfigHolder.version hserved

theorem upToDate_drop (hw : w.Served) (h : w.Published) (hp : w.phase? job = some p) (hcan : p.canDrop = true)
    (hcall : p.isInCall = false) (hrun : w.running = some job) {s : Snapshot} (hs : w.served.held = some s) :
    w.UpToDate s := by
  obtain ⟨p', hp', hlocked⟩ := hw.sound.locked job hrun
  obtain rfl := Option.some.inj (hp.symm.trans hp')
  have hin := h.onRecord job p hp
  have hcustody := hw.custody job p hp
  cases p with
  | preparing r =>
    obtain ⟨t, ht, hheld⟩ := hcustody.run r rfl
    obtain rfl := Option.some.inj (hheld.symm.trans hs)
    exact hin t ht
  | _ => contradiction

end Steps

end World

/-! ## Along all traffic -/

section Traffic

variable {settings : Settings} {env : Environment} {introspectors : Introspectors ι} {g g' : Gateway ι} {job : Nat}
  {t : Trigger} {e : ChangeError}

theorem published_boot (config : Option RuntimeConfig) (memory : ι) :
    (Gateway.boot config memory).world.Published := by
  refine ⟨fun d hd => (by cases hd), fun _ s _ hready => (by cases hready), fun j p hp => ?_⟩
  rw [show (Gateway.boot config memory).world.phase? j = none from rfl] at hp
  cases hp

variable [Pattern.Engine]

/-- **All traffic keeps what is true of the document** -/
theorem published_serve (hw : g.world.Consistent) (hg : g.world.Published)
    (h : Serve settings env introspectors g x g') : g'.world.Published := by
  cases h with
  | take ho =>
    have hordered := ordered_of_plan ho
    refine World.published_submit hg fun s hs => ?_
    cases hordered <;> cases hs
  | apply hheld =>
    refine World.published_submit hg fun s hs => ?_
    cases hs
    exact hheld
  | advance hp hm => exact World.published_advance hw hg hp hm
  | settle hs =>
    cases hs with
    | settle hp =>
      exact World.published_still hg (World.still_setPhase rfl rfl hp .gathers) ⟨rfl, rfl, rfl⟩ rfl rfl hg.rest
    | resettle hp => exact (hw.served.serves _ _ hp).elim
  | linger hs =>
    cases hs
    exact World.published_still hg ⟨rfl, rfl, fun j p hp => ⟨p, hp, .same p⟩⟩ ⟨rfl, rfl, rfl⟩ rfl rfl hg.rest
  | tick hs =>
    cases hs
    exact World.published_still hg ⟨rfl, rfl, fun j p hp => ⟨p, hp, .same p⟩⟩ ⟨rfl, rfl, rfl⟩ rfl rfl hg.rest
  | hangUp hp hcall hs =>
    cases hs with
    | drop hp' hcan =>
      obtain rfl := Option.some.inj (hp.symm.trans hp')
      obtain ⟨h₁, h₂, h₃⟩ := World.still_setPhase (u := g.world) rfl rfl hp (.drops hcan hcall)
      refine World.published_still hg ⟨h₁, h₂, h₃⟩ ⟨rfl, rfl, rfl⟩ rfl rfl fun hrun s hs => ?_
      change (if g.world.running = some _ then none else g.world.running) = none at hrun
      split_ifs at hrun with hown
      · exact World.upToDate_drop hw.served hg hp hcan hcall hown hs
      · exact hg.rest hrun s hs

theorem published_reached (hg : g.Reached settings env introspectors) : g.world.Published := by
  obtain ⟨config, memory, l, rfl⟩ := hg
  have hboth : ((Gateway.boot config memory).run settings env introspectors l).world.Consistent ∧
      ((Gateway.boot config memory).run settings env introspectors l).world.Published :=
    invariant_traffic (P := fun g => g.world.Consistent ∧ g.world.Published)
      (fun _ _ _ _ hg h => ⟨consistent_serve hg.1 h, published_serve hg.1 hg.2 h⟩)
      ⟨consistent_boot config memory, published_boot config memory⟩
  exact hboth.2

theorem reached_run (hg : g.Reached settings env introspectors) (l : List Traffic) :
    (g.run settings env introspectors l).Reached settings env introspectors := by
  obtain ⟨config, memory, before, rfl⟩ := hg
  exact ⟨config, memory, before ++ l, List.foldl_append⟩

end Traffic

/-! ## A change that fails -/

namespace World

/-- a change that began in another world keeps the document from then until it has put its snapshot in force, and the
services accept it -/
def Retains (before w : World Services ι) (p : Phase) : Prop :=
  p.isFiling = true ∨ p.isEnded = true ∨
    (w.services.document = before.services.document ∧ ∃ r, p.run? = some r ∧ r.checkpoint.target = before.served.held)

section Retains

variable {settings : Settings} {env : Environment} {introspectors : Introspectors ι} {before w u : World Services ι}
  {job : Nat} {p q : Phase} {e : Event}

theorem Retains.kept (h : Retains before w p) (hdocument : u.services.document = w.services.document) :
    Retains before u p :=
  h.imp_right fun h => h.imp_right fun h => ⟨hdocument.trans h.1, h.2⟩

theorem filing_move {setup : Setup Services ι} (hm : Move setup job w p q u) (hp : p.isFiling = true) :
    q.isFiling = true ∨ q.isEnded = true := by
  cases hm with
  | generate => exact Or.inl rfl
  | documented => exact Or.inl rfl
  | succeed => exact Or.inr rfl
  | _ => cases hp

variable [Pattern.Engine]

theorem retains_begin (hw : w.Served) {t : Trigger} (hp : w.phase? job = some (.locking t))
    (hm : Move (Server.setup settings env introspectors) job w (.locking t) q u) : Retains w u q := by
  have hserves := hw.serves job _ hp
  cases hm with
  | busy => exact Or.inr (Or.inl rfl)
  | reject => exact Or.inr (Or.inl rfl)
  | apply =>
    obtain rfl := hserves
    exact Or.inr (Or.inr ⟨rfl, _, rfl, rfl⟩)
  | edit =>
    obtain rfl := hserves
    exact Or.inr (Or.inr ⟨rfl, _, rfl, rfl⟩)

theorem retains_move (h : Retains before w p) (hm : Move (Server.setup settings env introspectors) job w p q u) :
    Retains before u q := by
  cases hfiling : p.isFiling with
  | true => exact (filing_move hm hfiling).imp_right Or.inl
  | false =>
    rcases h with hp | hended | ⟨hdocument, r, hr, htarget⟩
    · rw [hfiling] at hp
      cases hp
    · cases hm <;> cases hended
    · have hlocked := locked_of_run hr
      cases hq : q.isLocked with
      | true =>
        have hsame := (filed_move hm hfiling).document
        exact Or.inr (Or.inr ⟨hsame.trans hdocument, r, (move_run hm hlocked hq).trans hr, htarget⟩)
      | false => exact Or.inr (Or.inl (isEnded_of_unlocked hm hlocked hq))

/-- **A step keeps the document** that a change has to keep -/
theorem retains_step (hsound : w.Sound) (hp : w.phase? job = some p) (h : Retains before w p)
    (hs : Step (Server.setup settings env introspectors) w e u) : ∃ q, u.phase? job = some q ∧ Retains before u q := by
  obtain ⟨q, hq, hturn⟩ := turn_of_step hs hp
  refine ⟨q, hq, ?_⟩
  cases hturn with
  | moves hm => exact (retains_move h hm).kept rfl
  | settles hg =>
    cases p <;> cases hg
    · exact h
    · exact h.kept rfl
  | drops => exact Or.inr (Or.inl rfl)
  | rests _ hother =>
    by_cases hlocked : p.isLocked = true
    · have hrun := hsound.alone job p hp hlocked
      refine h.kept ?_
      cases hs with
      | advance hk hm =>
        have hfree := hsound.free_of_other hrun hk fun hk => hother (congrArg some hk)
        exact (filed_move hm (isFiling_of_free hfree)).document
      | _ => rfl
    · -- a change without the lock has ended, and keeps nothing any more
      rcases h with hfiling | hended | ⟨-, r, hr, -⟩
      · exact Or.inl hfiling
      · exact Or.inr (Or.inl hended)
      · exact absurd (locked_of_run hr) hlocked

end Retains

end World

section Failure

variable [Pattern.Engine] {settings : Settings} {env : Environment} {introspectors : Introspectors ι} {g g' : Gateway ι}
  {job : Nat}
  {t : Trigger} {e : ChangeError}

theorem retained_begun (hg : g.world.Served) (hp : g.world.phase? job = some (.locking t)) :
    ∃ p, (g.step settings env introspectors (.advance job)).world.phase? job = some p ∧
      World.Retains g.world (g.step settings env introspectors (.advance job)).world p := by
  obtain ⟨q, u, hm, hu, hq⟩ := World.move_of_step hp (World.step_of_next? hp rfl)
  refine ⟨q, hq, (World.retains_begin hg hp hm).kept ?_⟩
  exact congrArg (·.services.document) hu

theorem retained_refused (hp : g.world.phase? job = some (.locking t))
    (hend : (g.step settings env introspectors (.advance job)).world.result? job = some (.changed (.error e))) :
    (g.step settings env introspectors (.advance job)).world.services.document = g.world.services.document ∧
      (g.step settings env introspectors (.advance job)).world.served.held = g.world.served.held := by
  obtain ⟨q, u, hm, hu, hq⟩ := World.move_of_step hp (World.step_of_next? hp rfl)
  obtain rfl : q = .finished (.changed (.error e)) := Option.some.inj (hq.symm.trans (World.result?_eq_some.1 hend))
  rcases World.move_failed hm with ⟨-, rfl⟩ | ⟨⟨r, hr⟩, -⟩
  · exact ⟨congrArg (·.services.document) hu, congrArg (·.served.held) hu⟩
  · cases hr

/-- the last step of a change that fails leaves the document, and what is held, as the change found them -/
theorem retained_end {before : World Services ι} {x : Traffic} {p : Phase} (hg : g.world.Served)
    (hp : g.world.phase? job = some p) (h : World.Retains before g.world p) (hopen : g.world.result? job = none)
    (hserve : Serve settings env introspectors g x g')
    (hend : g'.world.result? job = some (.changed (.error e))) :
    g'.world.services.document = before.services.document ∧ g'.world.served.held = before.served.held := by
  obtain ⟨ev, hs⟩ := step_of_serve hserve
  obtain rfl := World.result?_of_other hs hp hopen hend
  obtain ⟨q, u, hm, hu, hq⟩ := World.move_of_step hp hs
  obtain rfl : q = .finished (.changed (.error e)) := Option.some.inj (hq.symm.trans (World.result?_eq_some.1 hend))
  rw [hu]
  rcases World.move_failed hm with ⟨⟨t, rfl, -⟩, -⟩ | ⟨⟨r, rfl⟩, rfl⟩
  · rcases h with h | h | ⟨-, r, hr, -⟩
    · cases h
    · cases h
    · cases hr
  · rcases h with h | h | ⟨hdocument, r', hr, htarget⟩
    · cases h
    · cases h
    · cases hr
      obtain ⟨t, ht, hheld⟩ := (hg.custody job _ hp).run r rfl
      exact ⟨hdocument, hheld.trans (ht.symm.trans htarget)⟩

variable (settings env introspectors) in
theorem retained_along {before : World Services ι} (hg : g.world.Served)
    (h : ∃ p, g.world.phase? job = some p ∧ World.Retains before g.world p) (l : List Traffic) :
    ∃ p, (g.run settings env introspectors l).world.phase? job = some p ∧
      World.Retains before (g.run settings env introspectors l).world p := by
  have hboth : (g.run settings env introspectors l).world.Served ∧ ∃ p,
      (g.run settings env introspectors l).world.phase? job = some p ∧
        World.Retains before (g.run settings env introspectors l).world p := by
    refine invariant_traffic (P := fun g => g.world.Served ∧ ∃ p, g.world.phase? job = some p ∧
      World.Retains before g.world p) (fun _ _ g₁ g₂ hg₁ hserve => ⟨served_serve hg₁.1 hserve, ?_⟩) ⟨hg, h⟩
    obtain ⟨hserved, p, hp, hr⟩ := hg₁
    obtain ⟨ev, hs⟩ := step_of_serve hserve
    exact World.retains_step hserved.sound hp hr hs
  exact hboth.2

/-- **A change that fails leaves the document as it was**, and what is held -/
theorem retained_run (hg : g.Reached settings env introspectors) (hp : g.world.phase? job = some (.locking t))
    {l : List Traffic}
    (hopen : (g.run settings env introspectors (.advance job :: l).dropLast).world.result? job = none)
    (hend : (g.run settings env introspectors (.advance job :: l)).world.result? job = some (.changed (.error e))) :
    let after := (g.run settings env introspectors (.advance job :: l)).world
    after.services.document = g.world.services.document ∧ after.served.held = g.world.served.held := by
  rcases List.eq_nil_or_concat l with rfl | ⟨l, x, rfl⟩
  · exact retained_refused hp hend
  · rw [List.concat_eq_append] at hopen hend ⊢
    have hlast : g.run settings env introspectors (.advance job :: (l ++ [x])) =
        (g.run settings env introspectors (.advance job :: l)).step settings env introspectors x := by
      simp [Gateway.run]
    rw [← List.cons_append, List.dropLast_concat] at hopen
    rw [hlast] at hend ⊢
    have hserved : (g.step settings env introspectors (.advance job)).world.Served :=
      (consistent_reached (reached_run hg [.advance job])).served
    have hbegun : ∃ p, (g.step settings env introspectors (.advance job)).world.phase? job = some p ∧
        World.Retains g.world (g.step settings env introspectors (.advance job)).world p :=
      retained_begun (consistent_reached hg).served hp
    obtain ⟨p, hp', hr⟩ := retained_along settings env introspectors hserved hbegun l
    have hserved' := (consistent_reached (reached_run hg (.advance job :: l))).served
    rcases serve_of_step settings env introspectors (g.run settings env introspectors (.advance job :: l)) x with
      hsame | hserve
    · rw [hsame, hopen] at hend
      cases hend
    · exact retained_end hserved' hp' hr hopen hserve hend

end Failure

/-! ## The page -/

section Page

/-- the page with a document, and the version of the holder when it was made -/
def Http.documentResponse (d : OpenApi.Document) (version : Nat) : Response :=
  .json 200 (envelope d.toJson (some (Json.obj [("version", Json.ofNat version)])))

variable {settings : Settings} {env : Environment} {introspectors : Introspectors ι} {g : Gateway ι}

/-- the page rests on the document that is kept and on what is held -/
theorem documentPage_congr {w u : World Services ι} (hdocument : u.services.document = w.services.document)
    (hheld : u.served.held = w.served.held) : documentPage u = documentPage w := by
  simp only [documentPage, Services.currentDocument, ConfigHolder.holds, hdocument, hheld]

/-- **What the page says is a document of exactly what is held**, or that there is none -/
theorem documentPage_cases {w : World Services ι} (hw : w.Published) :
    (∃ s version d, w.served.held = some s ∧ s.config.usesDocumentStore = false ∧ OpenApi.build s.config = .ok d ∧
      w.services.document = some ⟨s, version, d⟩ ∧ documentPage w = documentResponse d version) ∨
    ((∀ s version d, w.served.held = some s → w.services.document ≠ some ⟨s, version, d⟩) ∧
      documentPage w = .error missingDocument) := by
  cases hcurrent : w.services.currentDocument w.served with
  | none =>
    refine Or.inr ⟨fun s version d hs hd => ?_, by simp [documentPage, hcurrent]⟩
    simp [Services.currentDocument, hd, ConfigHolder.holds, hs] at hcurrent
  | some d =>
    obtain ⟨hd, hholds⟩ := Option.filter_eq_some_iff.1 hcurrent
    obtain ⟨hbuilt, hstore, -, hdistinct⟩ := hw.genuine d hd
    cases hs : w.served.held with
    | none => simp [ConfigHolder.holds, hs] at hholds
    | some s =>
      obtain rfl := hdistinct s (Or.inl hs) (by simpa [ConfigHolder.holds, hs] using hholds)
      exact Or.inl ⟨d.snapshot, d.version, d.document, rfl, hstore, hbuilt, hd, by
        simp [documentPage, hcurrent, documentResponse]⟩

variable [Pattern.Engine]

variable (settings env introspectors g) in
/-- the response to a request that is taken on in a gateway as it is -/
def Gateway.answerTo (r : Request) : Response :=
  ((Server.mk g.world []).perform (Server.setup settings env introspectors) (r.plan settings env)).2

theorem answerTo_document {r : Request} (hget : r.method = "GET") (hpath : r.path = "/openapi")
    (hlength : r.isDeclaredLonger settings.maxConfigBytes = false) (g : Gateway ι) :
    g.answerTo settings env introspectors r = documentPage g.world := by
  have hendpoint : r.endpoint settings.maxConfigBytes = .ok (.page .document) := by
    simp [Request.endpoint, hpath, hlength, Endpoint.ofPath?, Endpoint.allows, hget]
  simp [Gateway.answerTo, Request.plan, hendpoint, Server.perform, hget]
  rfl

/-- **The page of a gateway that is ready and makes no change**: the document if what is held can be documented, with
the version of the last report, and a refusal if not -/
theorem documentPage_idle {w : World Services ι} (hw : w.Consistent) (h : w.Published) (hrun : w.running = none)
    (hready : w.ready = true) :
    ∃ s report, w.served.held = some s ∧ w.lastReport = some report ∧
      (s.config.IsDocumentable ∧
          (∃ d, OpenApi.build s.config = .ok d ∧ documentPage w = documentResponse d report.version) ∨
        ¬ s.config.IsDocumentable ∧ documentPage w = .error missingDocument) := by
  obtain ⟨s, hs, -⟩ := (hw.rest hrun).agrees hready
  obtain ⟨report, hreport, hdescribes⟩ := h.rest hrun s hs hready
  refine ⟨s, report, hs, hreport, ?_⟩
  rcases documentPage_cases h with ⟨s', version, d', hs', hstore, hbuild, hd', hpage⟩ | ⟨hnone, hpage⟩
  · obtain rfl := Option.some.inj (hs.symm.trans hs')
    obtain ⟨hrest, hrouted⟩ := (OpenApi.build_eq_ok_iff _).1 ⟨d', hbuild⟩
    have hc : s.config.IsDocumentable := ⟨hstore, hrest, hrouted⟩
    obtain ⟨d, hd⟩ := hdescribes hc
    cases hd.symm.trans hd'
    exact Or.inl ⟨hc, d', hbuild, hpage⟩
  · refine Or.inr ⟨fun hc => ?_, hpage⟩
    obtain ⟨d, hd⟩ := hdescribes hc
    exact hnone s _ d hs hd

/-- **The document that is served describes the snapshot that is held.** A request for it is answered with the document
of exactly what is held, or with a refusal, at every moment. In a gateway that is ready and makes no change it is
answered with a document just if what is held can be documented, and with the version of the last report then. A change
that fails leaves the document and the answer as they were. -/
theorem document_describes_what_is_held (hg : g.Reached settings env introspectors) {r : Request}
    (hget : r.method = "GET") (hpath : r.path = "/openapi")
    (hlength : r.isDeclaredLonger settings.maxConfigBytes = false) {answer : Response}
    (hanswer : answer = g.answerTo settings env introspectors r) :
    -- at every moment
    ((answer.status = 200 ∧ ∃ s version d, g.world.served.held = some s ∧ OpenApi.build s.config = .ok d ∧
        answer = documentResponse d version) ∨
      (answer.status = 404 ∧ answer = .error missingDocument)) ∧
    -- while no change goes on
    (g.world.running = none → g.world.ready = true →
      ∃ s report, g.world.served.held = some s ∧ g.world.lastReport = some report ∧
        (answer.status = 200 ↔ s.config.IsDocumentable) ∧
        (answer.status = 200 → ∃ d, OpenApi.build s.config = .ok d ∧ answer = documentResponse d report.version)) ∧
    -- across a change that fails
    (∀ job t e l, g.world.phase? job = some (.locking t) →
      (g.run settings env introspectors (.advance job :: l).dropLast).world.result? job = none →
      (g.run settings env introspectors (.advance job :: l)).world.result? job = some (.changed (.error e)) →
      (g.run settings env introspectors (.advance job :: l)).world.services.document = g.world.services.document ∧
        (g.run settings env introspectors (.advance job :: l)).answerTo settings env introspectors r = answer) := by
  have hpage : ∀ g : Gateway ι, g.answerTo settings env introspectors r = documentPage g.world :=
    answerTo_document hget hpath hlength
  have hpublished := published_reached hg
  rw [hpage] at hanswer
  subst hanswer
  refine ⟨?_, fun hrun hready => ?_, fun job t e l hp hopen hend => ?_⟩
  · rcases documentPage_cases hpublished with ⟨s, version, d, hs, -, hbuild, -, hsome⟩ | ⟨-, hnone⟩
    · exact Or.inl ⟨congrArg Response.status hsome, s, version, d, hs, hbuild, hsome⟩
    · exact Or.inr ⟨congrArg Response.status hnone, hnone⟩
  · obtain ⟨s, report, hs, hreport, hcases⟩ := documentPage_idle (consistent_reached hg) hpublished hrun hready
    refine ⟨s, report, hs, hreport, ?_⟩
    rcases hcases with ⟨hc, d, hbuild, hsome⟩ | ⟨hc, hnone⟩
    · exact ⟨iff_of_true (congrArg Response.status hsome) hc, fun _ => ⟨d, hbuild, hsome⟩⟩
    · have hstatus : (documentPage g.world).status = 404 := congrArg Response.status hnone
      exact ⟨iff_of_false (by simp [hstatus]) hc, fun h => by simp [hstatus] at h⟩
  · obtain ⟨hdocument, hheld⟩ := retained_run hg hp hopen hend
    rw [hpage]
    exact ⟨hdocument, documentPage_congr hdocument hheld⟩

end Page

/-! ## A shelf of books -/

open scoped Simulation

def shelfConfig : RuntimeConfig :=
  { World.plainConfig with entities := NameMap.empty.insert "book" { source := { object := "books" } } }

/-- a gateway after its start with that configuration -/
def shelfGateway : Gateway Unit :=
  (Gateway.boot (some shelfConfig) ()).run {} (fun _ => none) emptyDatabases firstTraffic

def documentRequest : Request := { target := "/openapi" }

theorem shelf_is_documented :
    ∃ d, OpenApi.build shelfConfig = .ok d ∧
      shelfGateway.answerTo {} (fun _ => none) emptyDatabases documentRequest = documentResponse d 1 := by
  have hreached : shelfGateway.Reached {} (fun _ => none) emptyDatabases := ⟨_, _, _, rfl⟩
  have hheld : shelfGateway.world.served.held = some ⟨0, shelfConfig⟩ := rfl
  have hversion : shelfGateway.world.lastReport.map (·.version) = some 1 := rfl
  have hdocumentable : shelfConfig.IsDocumentable := ⟨rfl, rfl, _, List.mem_singleton_self _, rfl⟩
  obtain ⟨-, hidle, -⟩ :=
    document_describes_what_is_held (r := documentRequest) hreached rfl (by decide) rfl rfl
  obtain ⟨s, report, hs, hreport, hstatus, hserved⟩ := hidle rfl rfl
  obtain rfl := Option.some.inj (hheld.symm.trans hs)
  obtain ⟨d, hbuild, hanswer⟩ := hserved (hstatus.2 hdocumentable)
  obtain ⟨report', hreport', hone⟩ := Option.map_eq_some_iff.1 hversion
  obtain rfl := Option.some.inj (hreport.symm.trans hreport')
  rw [hone] at hanswer
  exact ⟨d, hbuild, hanswer⟩

end EntityGateway
