/-
Slow databases, and changes that wait for them.

A change waits for its metadata as long as the slowest data source is waited for, and each of these no longer than the
limit of an introspection; so if that limit is less than the time of a stage, the stage is never too short, however many
data sources there are and however slow they are. A data source that is too slow has failed then, with one problem, and
all others are what they are by themselves.

- `Awaits`: initializations that a change waits for, with what has come of them, and `awaits_settled`, when one ends;
- `now_le_of_awaits`, `le_now_of_awaits`: how long that goes on;
- `InTime`: what is known in each phase, with `inTime_move` and `inTime_run`;
- `slow_sources_do_not_time_out`: the whole of it.
-/
import EntityGateway.Proofs.Metadata.Delays
import EntityGateway.Proofs.Orchestration.Asking
import EntityGateway.Proofs.Orchestration.Questions

namespace EntityGateway

/-- introspections end before a stage does -/
def Setup.IsPatient (setup : Setup σ ι) : Prop :=
  setup.introspectionTimeout.nanoseconds < setup.stageTimeout.nanoseconds

namespace World

/-! ## Initializations that a change waits for -/

section Awaits

variable (setup : Setup σ ι) (made : ProviderSet) (time : Nat) (memory : ι)

/-- the initializations of a set that were begun at a time -/
def begun : ProviderSet × List SourceTask × ι :=
  made.launch setup.introspectors setup.introspectionTimeout time memory

/-- when the slowest of them is not waited for any more -/
def complete : Nat := time + longest setup.introspectionTimeout (made.answers setup.introspectors memory)

/-- a change waits for the initializations of a set -/
structure Awaits (w : World σ ι) (job : Nat) (g : Gathering) : Prop where
  secluded : w.Secluded job g.set
  named : made.Named
  tasks : g.tasks = (begun setup made time memory).2.1
  pending : ∀ name ∈ g.pending, ∃ t ∈ g.tasks, t.name = name
  /-- those that are not waited for have ended -/
  ended : ∀ t ∈ g.tasks, t.name ∉ g.pending → t.endsAt ≤ w.now
  settled : g.waiting.foldl ProviderSet.settle (w.set g.set) =
    g.tasks.foldl ProviderSet.settle (begun setup made time memory).1

end Awaits

section Waiting

variable {setup : Setup σ ι} {made : ProviderSet} {time job : Nat} {memory : ι} {w u : World σ ι} {p q : Phase}
  {g : Gathering} {e : Event}

theorem nodup_waiting (h : w.Awaits setup made time memory job g) : (g.waiting.map (·.name)).Nodup := by
  have hnodup : (g.tasks.map (·.name)).Nodup := by
    rw [h.tasks, begun, ProviderSet.names_tasks h.named]
    exact made.providers.nodup_names
  exact hnodup.sublist (List.filter_sublist.map _)

/-- an initialization ends within the time that the slowest is waited for -/
theorem endsAt_le_complete {t : SourceTask} (ht : t ∈ (begun setup made time memory).2.1) :
    t.endsAt ≤ complete setup made time memory := by
  rw [begun, tasks_launch] at ht
  obtain ⟨x, hx, rfl⟩ := List.mem_map.1 ht
  exact Nat.add_le_add_left (waitFor_le_longest hx) time

/-- **While a change waits for a data source** the slowest one is not overdue, since no timer is passed unseen -/
theorem now_le_of_awaits (hw : w.Sound) (hp : w.phase? job = some p) (hg : p.gathering? = some g)
    (h : w.Awaits setup made time memory job g) (hpending : g.pending ≠ []) :
    w.now ≤ complete setup made time memory := by
  obtain ⟨name, hname⟩ := List.exists_mem_of_ne_nil _ hpending
  obtain ⟨t, ht, rfl⟩ := h.pending name hname
  have hwaiting : t ∈ g.waiting := List.mem_filter.2 ⟨ht, List.contains_iff_mem.2 hname⟩
  have htimer : t.endsAt ∈ p.timers := by
    cases p <;> cases hg
    · exact List.mem_cons_of_mem _ (List.mem_map_of_mem hwaiting)
    · exact List.mem_map_of_mem hwaiting
  calc w.now ≤ t.endsAt := hw.timely job p hp _ htimer
    _ ≤ complete setup made time memory := endsAt_le_complete (h.tasks ▸ ht)

/-- **When it waits for none any more** the slowest one has been waited for -/
theorem le_now_of_awaits (hstart : time ≤ w.now) (h : w.Awaits setup made time memory job g)
    (hpending : g.pending = []) :
    complete setup made time memory ≤ w.now := by
  have hlongest : longest setup.introspectionTimeout (made.answers setup.introspectors memory) ≤ w.now - time := by
    refine longest_le_iff.2 ?_
    intro x hx
    have ht : x.1.taskWith setup.introspectionTimeout time x.2 ∈ g.tasks := by
      rw [h.tasks, begun, tasks_launch]
      exact List.mem_map_of_mem (f := fun x : Provider × Option Answer => x.1.taskWith _ time x.2) hx
    have hended : time + waitFor setup.introspectionTimeout x.2 ≤ w.now := h.ended _ ht (by simp [hpending])
    omega
  unfold complete
  omega

theorem awaits_begun {s : Snapshot} {launched : ProviderSet} {tasks : List SourceTask} {asked : ι} (hw : w.Sound)
    (hset : ProviderSet.ofSnapshot setup.introspectors s = .ok made)
    (hlaunch : made.launch setup.introspectors setup.introspectionTimeout w.now w.memory = (launched, tasks, asked)) :
    World.Awaits setup made w.now w.memory (World.setPhase { w.addSet launched with memory := asked } job q) job
      ⟨w.sets.length, tasks, tasks.map (·.name)⟩ := by
  have hbegun : begun setup made w.now w.memory = (launched, tasks, asked) := hlaunch
  refine ⟨secluded_new hw, ProviderSet.named_ofSnapshot hset, by rw [hbegun], ?_, ?_, ?_⟩
  · intro name hname
    exact List.mem_map.1 hname
  · intro t ht hnot
    exact absurd (List.mem_map_of_mem ht) hnot
  · have hplace : World.set (World.setPhase { w.addSet launched with memory := asked } job q) w.sets.length =
        launched := set_addSet_self w launched
    rw [waiting_begun, hplace, hbegun]

/-- **One of them comes to its end** -/
theorem awaits_settled {t : SourceTask} {source : String} (h : w.Awaits setup made time memory job g)
    (hdue : g.due? w.now source = some t) :
    World.Awaits setup made time memory
      (World.setPhase { w with sets := w.sets.set g.set ((w.set g.set).settle t) } job q) job (g.without source) := by
  obtain ⟨ht, rfl, hends⟩ := due_cases hdue
  have hmem : t ∈ g.tasks := (List.mem_filter.1 ht).1
  refine ⟨h.secluded.moved rfl rfl (by simp) rfl, h.named, h.tasks, ?_, ?_, ?_⟩
  · intro name hname
    exact h.pending name (List.mem_filter.1 hname).1
  · intro t' ht' hnot
    by_cases hname : t'.name = t.name
    · have hbegun : ∀ t ∈ g.tasks, t ∈ (begun setup made time memory).2.1 := fun t ht => h.tasks ▸ ht
      obtain rfl : t' = t := task_unique setup.introspectors h.named (hbegun t' ht') (hbegun t hmem) hname
      exact hends
    · refine h.ended t' ht' ?_
      intro hpending
      exact hnot (List.mem_filter.2 ⟨hpending, by simpa using hname⟩)
  · exact (settles_due h.secluded.there (nodup_waiting h) hdue).trans h.settled

theorem awaits_other (h : w.Awaits setup made time memory job g) (hs : Step setup w e u)
    (hother : e.mover? ≠ some job) : u.Awaits setup made time memory job g := by
  obtain ⟨hsecluded, hset⟩ := secluded_of_other h.secluded hs hother
  refine ⟨hsecluded, h.named, h.tasks, h.pending, ?_, ?_⟩
  · intro t ht hnot
    exact (h.ended t ht hnot).trans (now_le_of_step hs)
  · rw [hset]
    exact h.settled

theorem awaits_waiting {r : Run} {deadline : Nat} (hp : w.phase? job = some (.preparing r g deadline))
    (h : w.Awaits setup made time memory job g) (hs : Step setup w e u) (he : e.isWaiting = true) :
    ∃ g', u.phase? job = some (.preparing r g' deadline) ∧ u.Awaits setup made time memory job g' ∧
      (g'.pending = [] → g.pending ≠ [] → u.now = w.now) := by
  obtain ⟨q, hq, hturn⟩ := turn_of_step hs hp
  cases hturn with
  | moves => cases he
  | settles hg hdue =>
    cases hg
    exact ⟨_, hq, awaits_settled h hdue, fun _ _ => rfl⟩
  | drops => cases he
  | rests _ hother => exact ⟨g, hq, awaits_other h hs hother, fun hnil hsome => absurd hnil hsome⟩

/-- a change that can go on after some events that it waits for has waited as long as for the slowest at one moment -/
theorem exists_complete_of_ready {r : Run} {deadline : Nat} (hw : w.Sound)
    (hp : w.phase? job = some (.preparing r g deadline)) (h : w.Awaits setup made time memory job g)
    (hstart : time ≤ w.now) (hshort : complete setup made time memory < deadline) (hpending : g.pending ≠ [])
    (more : List Event) (hmore : ∀ e ∈ more, e.isWaiting = true)
    (hready : ((w.run setup more).advance? setup job).isSome) :
    ∃ before g', (∀ e ∈ before, e.isWaiting = true) ∧
      (w.run setup before).phase? job = some (.preparing r g' deadline) ∧ g'.pending = [] ∧
      (w.run setup before).now = complete setup made time memory := by
  induction more generalizing w g with
  | nil =>
    -- it cannot go on yet: it waits for a data source, and its time is not up
    have hlate : ¬ deadline ≤ w.now := by
      have := now_le_of_awaits hw hp rfl h hpending
      omega
    rw [show w.run setup [] = w from rfl] at hready
    simp [advance?, hp, next?, gather?, hpending, hlate] at hready
  | cons e more ih =>
    obtain ⟨he, hmore⟩ := List.forall_mem_cons.1 hmore
    have hrun : w.run setup (e :: more) = (w.step setup e).run setup more := rfl
    rw [hrun] at hready
    rcases step_cases setup w e with ⟨-, hstep⟩ | hs
    · rw [hstep] at hready
      exact ih hw hp h hstart hpending hmore hready
    · obtain ⟨g', hp', h', hnow⟩ := awaits_waiting hp h hs he
      by_cases hdone : g'.pending = []
      · have hearly := now_le_of_awaits hw hp rfl h hpending
        have hlate := le_now_of_awaits (hstart.trans (now_le_of_step hs)) h' hdone
        refine ⟨[e], g', by simpa using he, hp', hdone, ?_⟩
        show (w.step setup e).now = _
        rw [hnow hdone hpending] at hlate ⊢
        exact le_antisymm hearly hlate
      · obtain ⟨before, g', hbefore, hdone⟩ :=
          ih (sound_step hw hs) hp' h' (hstart.trans (now_le_of_step hs)) hdone hmore hready
        exact ⟨e :: before, g', List.forall_mem_cons.2 ⟨he, hbefore⟩, hdone⟩

/-- **A change can wait until all initializations have ended**, and that is when the slowest one has -/
theorem exists_complete {r : Run} {deadline : Nat} (hw : w.Sound)
    (hp : w.phase? job = some (.preparing r g deadline)) (h : w.Awaits setup made time memory job g)
    (hstart : time ≤ w.now) (hshort : complete setup made time memory < deadline) (hpending : g.pending ≠ []) :
    ∃ more g', (∀ e ∈ more, e.isWaiting = true) ∧
      (w.run setup more).phase? job = some (.preparing r g' deadline) ∧ g'.pending = [] ∧
      (w.run setup more).now = complete setup made time memory := by
  obtain ⟨more, hmore, -, -, -, -, hready⟩ := exists_ready setup hw hp rfl
  exact exists_complete_of_ready hw hp h hstart hshort hpending more hmore hready

end Waiting

/-! ## What is known in each phase -/

section InTime

variable (setup : Setup σ ι) (s : Snapshot) (asked : List (Nat × ι))

/-- a fault is not that the metadata are late, if introspections end before a stage does -/
def Excuses (fault : ChangeError) : Prop := setup.IsPatient → ∀ d, fault ≠ .timeout .rebuildingMetadata d

/-- a set was made when databases were asked, at a time and with what introspectors remembered then -/
structure MadeAt (made : ProviderSet) (time : Nat) (memory : ι) : Prop where
  asked : asked = [(time, memory)]
  made : ProviderSet.ofSnapshot setup.introspectors s = .ok made

/-- a report is that on the initializations that a change has begun -/
def Reports (report : InitializationReport) : Prop :=
  ∃ made time memory, MadeAt setup s asked made time memory ∧
    report = ProviderSet.report (begun setup made time memory).2.1

/-- a change waits for its metadata up to the time of the stage -/
def WaitsIn (w : World σ ι) (job : Nat) (g : Gathering) (deadline : Nat) : Prop :=
  ∃ made time memory, MadeAt setup s asked made time memory ∧ w.Awaits setup made time memory job g ∧ time ≤ w.now ∧
    deadline = time + setup.stageTimeout.nanoseconds

/-- the metadata of a change are complete -/
def Completed (w : World σ ι) (job place : Nat) (report : InitializationReport) : Prop :=
  ∃ made time memory, MadeAt setup s asked made time memory ∧ w.Secluded job place ∧
    complete setup made time memory ≤ w.now ∧
    w.set place = (begun setup made time memory).2.1.foldl ProviderSet.settle (begun setup made time memory).1 ∧
    report = ProviderSet.report (begun setup made time memory).2.1

/-- services are called for a change whose metadata are complete, or after its failure -/
def ServesInTime : Purpose → Prop
  | .serve c => Reports setup s asked c.initialization
  | .restore fault => Excuses setup fault

/-- what is known of the metadata of a change in a phase -/
def InTime (w : World σ ι) (job : Nat) : Phase → Prop
  | .locking t => asked = [] ∧ ∃ holder, t = .apply holder s
  | .validating r | .constructing r => asked = [] ∧ r.snapshot = s
  | .preparing _ g deadline => WaitsIn setup s asked w job g deadline
  | .relating _ place report | .committing _ place report => Completed setup s asked w job place report
  | .calling rw _ | .awaiting rw _ _ _ => ServesInTime setup s asked rw.purpose
  | .generating _ c | .documenting _ c _ | .concluding _ c _ => Reports setup s asked c.initialization
  | .finished (.changed (.ok report)) => Reports setup s asked report.initialization
  | .rollingBack _ fault | .failing _ fault | .finished (.changed (.error fault)) => Excuses setup fault
  | .dropped => True
  | _ => False

end InTime

section Course

variable {setup : Setup σ ι} {s : Snapshot} {asked : List (Nat × ι)} {job : Nat} {w u : World σ ι} {p q : Phase}
  {e : Event}

/-- a set of its own stays so, and what is known of it, while a change goes on -/
theorem Completed.moved {place : Nat} {report : InitializationReport} (h : Completed setup s asked w job place report)
    (hjobs : u.jobs = w.jobs) (hcurrent : u.current = w.current) (hsets : u.sets = w.sets)
    (hleft : u.leftovers = w.leftovers) (hnow : u.now = w.now) :
    Completed setup s asked (u.setPhase job q) job place report := by
  obtain ⟨made, time, memory, hmade, hsecluded, hcomplete, hset, hreport⟩ := h
  refine ⟨made, time, memory, hmade, hsecluded.moved hjobs hcurrent (by rw [hsets]) hleft, ?_, ?_, hreport⟩
  · show _ ≤ u.now
    rw [hnow]
    exact hcomplete
  · rw [← hset]
    simp only [World.set, setPhase, hsets]

theorem completed_of_waits {g : Gathering} {deadline : Nat} (h : WaitsIn setup s asked w job g deadline)
    (hpending : g.pending = []) : Completed setup s asked w job g.set g.report := by
  obtain ⟨made, time, memory, hmade, hawaits, hstart, -⟩ := h
  refine ⟨made, time, memory, hmade, hawaits.secluded, le_now_of_awaits hstart hawaits hpending, ?_, ?_⟩
  · have hsettled := hawaits.settled
    rw [waiting_of_pending hpending] at hsettled
    rw [← hawaits.tasks, ← hsettled]
    rfl
  · rw [← hawaits.tasks]
    rfl

theorem reports_of_completed {place : Nat} {report : InitializationReport}
    (h : Completed setup s asked w job place report) : Reports setup s asked report := by
  obtain ⟨made, time, memory, hmade, -, -, -, hreport⟩ := h
  exact ⟨made, time, memory, hmade, hreport⟩

/-- **A stage is not too short** if introspections end before it does -/
theorem excuses_of_waits {g : Gathering} {deadline : Nat} {r : Run} (hw : w.Sound)
    (hp : w.phase? job = some (.preparing r g deadline)) (h : WaitsIn setup s asked w job g deadline)
    (hpending : g.pending ≠ []) (hlate : deadline ≤ w.now) (fault : ChangeError) : Excuses setup fault := by
  intro hpatient
  obtain ⟨made, time, memory, -, hawaits, -, hdeadline⟩ := h
  have hnow := now_le_of_awaits hw hp rfl hawaits hpending
  have hlongest := longest_le_limit setup.introspectionTimeout (made.answers setup.introspectors memory)
  unfold Setup.IsPatient at hpatient
  unfold complete at hnow
  omega

theorem excuses_of_stage {fault : ChangeError} (h : fault.stage? ≠ some .rebuildingMetadata) :
    Excuses setup fault := by
  rintro - d rfl
  exact h rfl

/-- **What is known of the metadata of a change** stays right with every move of its own -/
theorem inTime_move (hw : w.Sound) (hp : w.phase? job = some p) (hm : Move setup job w p q u)
    (h : InTime setup s asked w job p) (hbegun : ∀ r, p ≠ .constructing r) :
    InTime setup s asked (u.setPhase job q) job q := by
  cases hm with
  | install => exact h.elim
  | mark => exact h.elim
  | accept => exact h.elim
  | busy => exact excuses_of_stage (by simp [ChangeError.stage?])
  | apply =>
    obtain ⟨hasked, holder, ht⟩ := h
    cases ht
    exact ⟨hasked, rfl⟩
  | reject =>
    obtain ⟨-, holder, ht⟩ := h
    cases ht
  | edit =>
    obtain ⟨-, holder, ht⟩ := h
    cases ht
  | invalid => exact excuses_of_stage (by simp [ChangeError.stage?])
  | unsupported => exact absurd rfl (hbegun _)
  | construct => exact absurd rfl (hbegun _)
  | gathered hpending => exact (completed_of_waits h hpending).moved rfl rfl rfl rfl rfl
  | gatheredInProduction hpending => exact (completed_of_waits h hpending).moved rfl rfl rfl rfl rfl
  | unprepared hpending hlate => exact excuses_of_waits hw hp h hpending hlate _
  | unrelated => exact excuses_of_stage (by simp [ChangeError.stage?])
  | related => exact h.moved rfl rfl rfl rfl rfl
  | commit => exact reports_of_completed h
  | call hcall => exact h
  | answered => exact h
  | refused hreply hbad => exact excuses_of_stage (by simp [callFailure_stage hbad])
  | lost _ _ hpurpose =>
    simp only [InTime, hpurpose, ServesInTime] at h
    exact h
  | restored hpurpose =>
    simp only [InTime, hpurpose, ServesInTime] at h
    exact h
  | document hpurpose =>
    simp only [InTime, hpurpose, ServesInTime] at h
    exact h
  | skip hpurpose =>
    simp only [InTime, hpurpose, ServesInTime] at h
    exact h
  | succeed hreport =>
    subst hreport
    exact h
  | refresh => exact h.elim
  | _ => exact h

theorem inTime_construct {r : Run} (hw : w.Sound) (hm : Move setup job w (.constructing r) q u)
    (h : InTime setup s asked w job (.constructing r)) :
    InTime setup s (asked ++ [(w.now, w.memory)]) (u.setPhase job q) job q := by
  obtain ⟨rfl, rfl⟩ := h
  cases hm with
  | unsupported =>
    rintro - d hfault
    cases hfault
  | construct hset hlaunch =>
    exact ⟨_, w.now, w.memory, ⟨rfl, hset⟩, awaits_begun hw hset hlaunch, le_rfl, rfl⟩

theorem inTime_rests (hs : Step setup w e u) (hother : e.mover? ≠ some job) (h : InTime setup s asked w job p) :
    InTime setup s asked u job p := by
  have hcompleted : ∀ {place report}, Completed setup s asked w job place report →
      Completed setup s asked u job place report := by
    rintro place report ⟨made, time, memory, hmade, hsecluded, hcomplete, hset, hreport⟩
    obtain ⟨hsecluded', hsame⟩ := secluded_of_other hsecluded hs hother
    exact ⟨made, time, memory, hmade, hsecluded', hcomplete.trans (now_le_of_step hs), hsame.trans hset, hreport⟩
  cases p with
  | preparing r g deadline =>
    obtain ⟨made, time, memory, hmade, hawaits, hstart, hdeadline⟩ := h
    exact ⟨made, time, memory, hmade, awaits_other hawaits hs hother, hstart.trans (now_le_of_step hs), hdeadline⟩
  | relating => exact hcompleted h
  | committing => exact hcompleted h
  | finished result => rcases result with (_ | _) | _ | _ | _ <;> exact h
  | _ => exact h

variable (setup) in
/-- **What is known of the metadata of a change is right at every moment**, and they are begun once at most -/
theorem inTime_run {holder : Nat} (hw : w.Sound) (hp : w.phase? job = some (.locking (.apply holder s)))
    (l : List Event) : ∃ q, (w.run setup l).phase? job = some q ∧
      InTime setup s (w.askings setup job l) (w.run setup l) job q ∧ (w.askings setup job l).length ≤ 1 := by
  refine follow_run (I := fun l q => InTime setup s (w.askings setup job l) (w.run setup l) job q ∧
    (w.askings setup job l).length ≤ 1) hp ⟨⟨rfl, holder, rfl⟩, Nat.zero_le 1⟩ ?_ ?_ l
  · intro l e p h hp hnone hsame
    rw [hsame, askings_of_none]
    · exact h
    · refine askingOf?_eq_none hp e ?_
      rintro rfl r rfl
      simp [step?, advance?, hp, next?] at hnone
  · rintro l e p u q ⟨h, honce⟩ hp hs hu hturn
    have hsound : (w.run setup l).Sound := sound_run hw l
    rw [hu]
    by_cases hbegins : e = .advance job ∧ ∃ r, p = .constructing r
    · obtain ⟨rfl, r, rfl⟩ := hbegins
      have hnone : w.askings setup job l = [] := h.1
      rw [askings_append, askings_singleton, askingOf?_constructing hp]
      cases hturn with
      | moves hm => exact ⟨inTime_construct hsound hm h, by simp [hnone]⟩
      | rests _ hother => exact absurd rfl hother
    · have hquiet : (w.run setup l).askingOf? job e = none :=
        askingOf?_eq_none hp e fun he r hr => hbegins ⟨he, r, hr⟩
      rw [askings_of_none hquiet]
      refine ⟨?_, honce⟩
      cases hturn with
      | moves hm => exact inTime_move hsound hp hm h fun r hr => hbegins ⟨rfl, r, hr⟩
      | settles hg hdue =>
        cases p <;> cases hg
        · obtain ⟨made, time, memory, hmade, hawaits, hstart, hdeadline⟩ := h
          exact ⟨made, time, memory, hmade, awaits_settled hawaits hdue, hstart, hdeadline⟩
        · exact h.elim
      | drops => trivial
      | rests _ hother => exact inTime_rests hs hother h

end Course

/-! ## Changes that wait for slow databases -/

section Slow

variable {setup : Setup σ ι} {s : Snapshot} {asked : List (Nat × ι)} {job : Nat} {w : World σ ι} {p : Phase}
  {made : ProviderSet} {time : Nat} {memory : ι}

/-- what a change has waited for by a phase, if it made a set at a time -/
structure Waited (setup : Setup σ ι) (s : Snapshot) (made : ProviderSet) (time : Nat) (memory : ι) (w : World σ ι)
    (job : Nat) (p : Phase) : Prop where
  /-- by itself the set takes until the slowest data source is not waited for any more -/
  alone : ∀ final report endsAt rest,
    ProviderSet.prepare setup.introspectors setup.introspectionTimeout time s memory =
      .ok (final, report, endsAt, rest) → endsAt = complete setup made time memory
  /-- the change waits until then at most -/
  within : ∀ r g deadline, p = .preparing r g deadline → g.pending ≠ [] → w.now ≤ complete setup made time memory
  /-- it can wait until then, if introspections end before a stage does -/
  reaches : setup.IsPatient → ∀ r g deadline, p = .preparing r g deadline → g.pending ≠ [] →
    ∃ more g', (∀ e ∈ more, e.isWaiting = true) ∧ (w.run setup more).phase? job = some (.preparing r g' deadline) ∧
      g'.pending = [] ∧ (w.run setup more).now = complete setup made time memory
  /-- it waits for all of them, and each comes to what it comes to by itself -/
  gathered : ∀ r g deadline, p = .preparing r g deadline → g.pending = [] → complete setup made time memory ≤ w.now ∧
    made.ComesTo setup.introspectors setup.introspectionTimeout memory (w.set g.set) g.report
  kept : ∀ r place report, p = .relating r place report ∨ p = .committing r place report →
    complete setup made time memory ≤ w.now ∧
      made.ComesTo setup.introspectors setup.introspectionTimeout memory (w.set place) report
  /-- that is what it reports when it was made -/
  reported : ∀ report, p = .finished (.changed (.ok report)) → ∃ final,
    made.ComesTo setup.introspectors setup.introspectionTimeout memory final report.initialization

theorem MadeAt.unique {made' : ProviderSet} {time' : Nat} {memory' : ι} (h : MadeAt setup s asked made time memory)
    (h' : MadeAt setup s asked made' time' memory') : made' = made ∧ time' = time ∧ memory' = memory := by
  have hset : made' = made := Except.ok.inj (h'.made.symm.trans h.made)
  have hmoment : (time', memory') = (time, memory) := List.singleton_inj.1 (h'.asked.symm.trans h.asked)
  exact ⟨hset, Prod.mk.inj hmoment⟩

theorem comesTo_of_completed {place : Nat} {report : InitializationReport}
    (hmade : MadeAt setup s asked made time memory)
    (h : Completed setup s asked w job place report) : complete setup made time memory ≤ w.now ∧
      made.ComesTo setup.introspectors setup.introspectionTimeout memory (w.set place) report := by
  obtain ⟨made', time', memory', hmade', -, hcomplete, hset, rfl⟩ := h
  obtain ⟨rfl, rfl, rfl⟩ := hmade.unique hmade'
  rw [hset]
  exact ⟨hcomplete, comesTo_tasks _ _ _ hmade.made⟩

/-- what is known of the metadata of a change says what it has waited for -/
theorem waited_of_inTime (hw : w.Sound) (hp : w.phase? job = some p) (h : InTime setup s asked w job p)
    (hmade : MadeAt setup s asked made time memory) : Waited setup s made time memory w job p := by
  have hwaits : ∀ {r g deadline}, p = .preparing r g deadline → w.Awaits setup made time memory job g ∧ time ≤ w.now ∧
      deadline = time + setup.stageTimeout.nanoseconds := by
    rintro r g deadline rfl
    obtain ⟨made', time', memory', hmade', hawaits⟩ := h
    obtain ⟨rfl, rfl, rfl⟩ := hmade.unique hmade'
    exact hawaits
  refine ⟨?_, ?_, ?_, ?_, ?_, ?_⟩
  · intro final report endsAt rest hprepare
    exact (prepare_takes_longest hmade.made hprepare).1
  · intro r g deadline hphase hpending
    obtain ⟨hawaits, -, -⟩ := hwaits hphase
    subst hphase
    exact now_le_of_awaits hw hp rfl hawaits hpending
  · intro hpatient r g deadline hphase hpending
    obtain ⟨hawaits, hstart, hdeadline⟩ := hwaits hphase
    subst hphase
    have hshort : complete setup made time memory < deadline := by
      have := longest_le_limit setup.introspectionTimeout (made.answers setup.introspectors memory)
      unfold Setup.IsPatient at hpatient
      unfold complete
      omega
    exact exists_complete hw hp hawaits hstart hshort hpending
  · rintro r g deadline rfl hpending
    exact comesTo_of_completed hmade (completed_of_waits h hpending)
  · rintro r place report (rfl | rfl)
    · exact comesTo_of_completed hmade h
    · exact comesTo_of_completed hmade h
  · rintro report rfl
    obtain ⟨made', time', memory', hmade', hreport⟩ := h
    obtain ⟨rfl, rfl, rfl⟩ := hmade.unique hmade'
    rw [hreport]
    exact ⟨_, comesTo_tasks _ _ _ hmade.made⟩

theorem excuses_of_inTime {fault : ChangeError} (h : InTime setup s asked w job p) (hfault : p.fault? = some fault) :
    Excuses setup fault := by
  cases p with
  | rollingBack =>
    cases hfault
    exact h
  | failing =>
    cases hfault
    exact h
  | finished result =>
    rcases result with (_ | _) | _ | _ | _ <;> cases hfault
    exact h
  | _ => cases hfault

variable (setup) in
/-- **Slow databases do not make a change late.** However many data sources there are and whatever their answers are,
preparing their metadata takes as long as the slowest is waited for, and no data source is waited for longer than the
limit of an introspection; so if that is less than the time of a stage, a change never fails because the metadata are
not there in time. When they are complete, each data source that is too slow has failed with that one problem, and all
others are what they are by themselves. -/
theorem slow_sources_do_not_time_out {holder : Nat} (hw : w.Sound)
    (hp : w.phase? job = some (.locking (.apply holder s))) (l : List Event) :
    ∃ p, (w.run setup l).phase? job = some p ∧
      (setup.IsPatient → ∀ d, p.fault? ≠ some (.timeout .rebuildingMetadata d)) ∧
      ∀ time memory made, (time, memory) ∈ w.askings setup job l →
        ProviderSet.ofSnapshot setup.introspectors s = .ok made →
        Waited setup s made time memory (w.run setup l) job p := by
  obtain ⟨p, hp', h, honce⟩ := inTime_run setup hw hp l
  refine ⟨p, hp', ?_, ?_⟩
  · intro hpatient d hfault
    exact excuses_of_inTime h hfault hpatient d rfl
  · intro time memory made hasked hmade
    obtain ⟨x, hx⟩ := List.length_eq_one_iff.1 (le_antisymm honce (List.length_pos_of_mem hasked))
    rw [hx, List.mem_singleton] at hasked
    exact waited_of_inTime (sound_run hw l) hp' h ⟨hx.trans (congrArg ([·]) hasked.symm), hmade⟩

end Slow

/-! ### A library with a slow cellar -/

/-- the books of a library, with an archive that is far away and a cellar that is slow -/
def cellarConfig : RuntimeConfig :=
  { stockConfig with
    dataSources := stockConfig.dataSources.insert "cellar" { databaseType := .postgres, connectionString := "slow" } }

/-- a setup in which databases have half of the time of a stage -/
def patientSetup : Setup Unit Unit :=
  { slowSetup with
    introspectors := troubledDatabases, stageTimeout := .ofSeconds 30, introspectionTimeout := .ofSeconds 15 }

/-- the cellar is waited for until its time is up -/
def cellarEvents : List Event :=
  [.advance 0, .advance 0, .advance 0, .settle 0 "default", .settle 0 "archive",
    .tick (Duration.ofSeconds 15).nanoseconds,
    .settle 0 "cellar", .advance 0]

theorem cellar_is_left_behind :
    let u := (emptyGateway.submit (.change (.apply 0 ⟨0, cellarConfig⟩))).run patientSetup cellarEvents
    ∃ r place report q, u.phase? 0 = some (.committing r place report) ∧ report.failed = ["archive", "cellar"] ∧
      report.succeeded = ["default"] ∧ (u.set place).find "cellar" = .ok q ∧
      q.state = { exceptions := [.timeout "cellar" (.ofSeconds 15)] } := by
  have hsound : (emptyGateway.submit (.change (.apply 0 ⟨0, cellarConfig⟩))).Sound :=
    sound_submit (sound_of_idle ⟨rfl, rfl, rfl, by decide⟩) _
  have hlocking : (emptyGateway.submit (.change (.apply 0 ⟨0, cellarConfig⟩))).phase? 0 =
      some (.locking (.apply 0 ⟨0, cellarConfig⟩)) := rfl
  obtain ⟨p, hp, -, hwaited⟩ := slow_sources_do_not_time_out patientSetup hsound hlocking cellarEvents
  obtain ⟨r, place, report, hphase, hfailed, hsucceeded⟩ : ∃ r place report,
      ((emptyGateway.submit (.change (.apply 0 ⟨0, cellarConfig⟩))).run patientSetup cellarEvents).phase? 0 =
        some (.committing r place report) ∧ report.failed = ["archive", "cellar"] ∧ report.succeeded = ["default"] :=
    ⟨_, _, _, rfl, rfl, rfl⟩
  obtain rfl := Option.some.inj (hp.symm.trans hphase)
  have hall := ((hwaited 0 () _ (List.mem_singleton.2 rfl) rfl).kept r place report (.inr rfl)).2
  obtain ⟨-, -, hfind⟩ := (hall.received { name := "cellar", kind := .sql .postgres, config := cellarConfig }
    (some ⟨some (.ofSeconds 16), .found []⟩) (.tail _ (.head _))).late _ rfl (fun d hd => by cases hd; decide)
  exact ⟨r, place, report, _, hphase, hfailed, hsucceeded, hfind, rfl⟩

end World

end EntityGateway
