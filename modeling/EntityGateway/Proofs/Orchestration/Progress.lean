/-
A change that has the lock can be brought to its end, whatever has happened.

It never waits for good: a database or a service answers, or the time of the stage is up. So it is enough that
initializations come to their ends when they are due, that time goes by, and that the job goes on when it can.

- `toGo_of_move`: the moves that are left to a change become fewer with every move;
- `exists_ready`: a job that waits can go on after some time;
- `exists_result`: a change comes to a result.
-/
import EntityGateway.Proofs.Orchestration.Course

namespace EntityGateway

theorem Gathering.waiting_without (g : Gathering) (source : String) :
    (g.without source).waiting = g.waiting.filter (·.name ≠ source) := by
  simp only [Gathering.waiting, Gathering.without, List.filter_filter]
  refine List.filter_congr fun t _ => ?_
  by_cases ht : t.name = source <;> simp [ht]

/-- whether services have still to be pointed back after a failure -/
def Purpose.toGo : Purpose → Nat
  | .serve _ => 12
  | .restore _ => 2

namespace Phase

/-- more moves than are left to a change in this phase -/
def toGo : Phase → Nat
  | .validating _ => 25
  | .constructing _ => 24
  | .preparing .. => 23
  | .relating .. => 22
  | .committing .. => 21
  | .calling rw todo => rw.purpose.toGo + 2 * todo.length
  | .awaiting rw _ todo _ => rw.purpose.toGo + 2 * todo.length + 1
  | .rollingBack .. => 11
  | .generating .. => 4
  | .documenting .. => 3
  | .concluding .. => 2
  | .failing .. => 1
  | _ => 0

/-- the times at which a job in this phase goes on, whatever comes of its initializations -/
def limits : Phase → List Nat
  | .preparing _ _ deadline => [deadline]
  | .awaiting _ _ _ p | .documenting _ _ p => p.deadline :: p.answersAt.toList
  | _ => []

theorem toGo_withGathering (g : Gathering) (p : Phase) : (p.withGathering g).toGo = p.toGo := by
  cases p <;> rfl

theorem isLocked_withGathering (g : Gathering) (p : Phase) : (p.withGathering g).isLocked = p.isLocked := by
  cases p <;> rfl

theorem mem_timers_of_limits {p : Phase} {time : Nat} (h : time ∈ p.limits) : time ∈ p.timers := by
  cases p with
  | preparing r g deadline =>
    rw [List.mem_singleton.1 h]
    exact List.mem_cons_self
  | awaiting => exact h
  | documenting => exact h
  | _ => cases h

/-- a timer is a limit, or the end of an initialization -/
theorem timers_cases {p : Phase} {time : Nat} (h : time ∈ p.timers) :
    time ∈ p.limits ∨ ∃ g, p.gathering? = some g ∧ ∃ t ∈ g.waiting, t.endsAt = time := by
  cases p with
  | preparing r g deadline =>
    rcases List.mem_cons.1 h with rfl | h
    · exact Or.inl List.mem_cons_self
    · exact Or.inr ⟨g, rfl, List.mem_map.1 h⟩
  | gathering g => exact Or.inr ⟨g, rfl, List.mem_map.1 h⟩
  | awaiting => exact Or.inl h
  | documenting => exact Or.inl h
  | _ => cases h

theorem length_timers_without {p : Phase} {g : Gathering} (hg : p.gathering? = some g) {t : SourceTask}
    (ht : t ∈ g.waiting) : (p.withGathering (g.without t.name)).timers.length < p.timers.length := by
  have hfewer : (g.without t.name).waiting.length < g.waiting.length := by
    rw [Gathering.waiting_without]
    exact List.length_filter_lt_length_iff_exists.2 ⟨t, ht, by simp⟩
  cases p <;> cases hg <;> simpa [Phase.withGathering, Phase.timers] using hfewer

end Phase

/-- whether an event is one that a job waits for -/
def Event.isWaiting : Event → Bool
  | .settle .. | .tick _ => true
  | _ => false

namespace World

section Progress

variable {setup : Setup σ ι} {job : Nat} {w u : World σ ι} {p q : Phase}

/-- **With every move fewer are left** to a change -/
theorem toGo_of_move (hm : Move setup job w p q u) (hp : p.isLocked = true) : q.toGo < p.toGo := by
  cases hm with
  | commit => simp [Phase.toGo, Purpose.toGo, Wire.all]
  | restore => simp [Phase.toGo, Purpose.toGo, Wire.all]
  | refused _ _ hpurpose => simp only [Phase.toGo, hpurpose, Purpose.toGo]; omega
  | lost _ _ hpurpose => simp only [Phase.toGo, hpurpose, Purpose.toGo]; omega
  | restored hpurpose => simp [Phase.toGo, Purpose.toGo, hpurpose]
  | document hpurpose => simp [Phase.toGo, Purpose.toGo, hpurpose]
  | skip hpurpose => simp [Phase.toGo, Purpose.toGo, hpurpose]
  | _ => first | contradiction | (simp only [Phase.toGo, List.length_cons]; omega)

/-- a change gives the lock back with a result -/
theorem finished_of_move (hm : Move setup job w p q u) (hp : p.isLocked = true) (hq : q.isLocked = false) :
    ∃ result, q = .finished (.changed result) := by
  cases hm <;> first | exact ⟨_, rfl⟩ | contradiction

/-- a change goes on if it has not to wait, or if the time has come -/
theorem advance?_of_limits (hp : w.phase? job = some p) (hlocked : p.isLocked = true)
    (hlimits : p.limits = [] ∨ ∃ time ∈ p.limits, time ≤ w.now) : (w.advance? setup job).isSome := by
  have hreplied : ∀ answer : Pending, (∃ time ∈ answer.deadline :: answer.answersAt.toList, time ≤ w.now) →
      (w.replied? answer).isSome := by
    rintro answer ⟨time, hmem, hlate⟩
    unfold replied?
    rcases List.mem_cons.1 hmem with rfl | hmem
    · rw [if_pos hlate]
      split_ifs <;> rfl
    · rw [if_pos (by simp [Option.mem_toList.1 hmem, hlate])]
      rfl
  have hnext : (w.next? setup job p).isSome := by
    cases p with
    | preparing r g deadline =>
      have hlate : deadline ≤ w.now := by simpa [Phase.limits] using hlimits
      simp only [next?, gather?, if_pos hlate]
      split_ifs <;> rfl
    | awaiting rw wire todo answer =>
      have hreply := hreplied answer (hlimits.resolve_left (List.cons_ne_nil _ _))
      simpa only [next?, afterCall?, Option.isSome_map] using hreply
    | documenting r c answer =>
      have hreply := hreplied answer (hlimits.resolve_left (List.cons_ne_nil _ _))
      simpa only [next?, documented?, Option.isSome_map] using hreply
    | _ => first | contradiction | rfl
  obtain ⟨⟨q, u⟩, hnext⟩ := Option.isSome_iff_exists.1 hnext
  simp [advance?, hp, hnext]

/-! ## Waiting -/

theorem length_timers_setPhase (hp : w.phase? job = some p) (h : q.timers.length < p.timers.length) :
    (w.setPhase job q).timers.length < w.timers.length := by
  obtain ⟨hlt, hget⟩ := List.getElem?_eq_some_iff.1 hp
  obtain ⟨before, after, hjobs, hset⟩ :
      ∃ before after, w.jobs = before ++ p :: after ∧ (w.setPhase job q).jobs = before ++ q :: after := by
    refine ⟨w.jobs.take job, w.jobs.drop (job + 1), ?_, ?_⟩
    · rw [← hget, List.getElem_cons_drop, List.take_append_drop]
    · exact (List.set_eq_take_append_cons_drop ..).trans (if_pos hlt)
  unfold timers
  rw [hset, hjobs]
  simp only [List.flatMap_append, List.flatMap_cons, List.length_append]
  omega

/-- an initialization that is due can come to its end, and then there is a timer less -/
theorem exists_settle (setup : Setup σ ι) (hp : w.phase? job = some p) {g : Gathering} (hg : p.gathering? = some g)
    {t : SourceTask} (ht : t ∈ g.waiting) (hdue : t.endsAt ≤ w.now) :
    ∃ u, w.step setup (.settle job t.name) = u ∧ Step setup w (.settle job t.name) u ∧
      u.timers.length < w.timers.length := by
  obtain ⟨v, hv⟩ : ∃ v, g.due? w.now t.name = some v := by
    refine Option.isSome_iff_exists.1 (List.find?_isSome.2 ⟨t, ht, ?_⟩)
    simp [hdue]
  have hstep : w.step? setup (.settle job t.name) =
      some (World.setPhase { w with sets := w.sets.set g.set ((w.set g.set).settle v) } job
        (p.withGathering (g.without t.name))) := by
    simp [step?, settle?, hp, hg, hv]
  refine ⟨_, rfl, ?_, ?_⟩
  · have hs := step_of_step? hstep
    unfold step
    rw [hstep]
    exact hs
  · unfold step
    rw [hstep]
    exact length_timers_setPhase hp (Phase.length_timers_without hg ht)

/-- nothing but time goes by up to the next timer -/
theorem exists_tick (setup : Setup σ ι) (h : w.Sound) {time : Nat} (htime : time ∈ w.timers) :
    ∃ before : List Event, (∀ e ∈ before, e.isWaiting = true) ∧ ∃ next ∈ w.timers,
      w.run setup before = { w with now := next } := by
  obtain ⟨next, hnext⟩ : ∃ next, w.timers.min? = some next :=
    Option.isSome_iff_exists.1 (List.isSome_min?_of_mem htime)
  obtain ⟨hmem, hleast⟩ := List.min?_eq_some_iff.1 hnext
  obtain ⟨j, p, hp, htimer⟩ := mem_timers.1 hmem
  rcases (h.timely j p hp next htimer).lt_or_eq with hlt | heq
  · refine ⟨[.tick next], by simp [Event.isWaiting], next, hmem, ?_⟩
    have hall : (w.now < next && w.timers.all (next ≤ ·)) = true := by
      simpa [hlt] using hleast
    simp [run, step, step?, tick?, hall]
  · exact ⟨[], by simp, next, hmem, by rw [← heq]; rfl⟩

/-- **A job that waits can go on after some time** -/
theorem exists_ready (setup : Setup σ ι) (h : w.Sound) (hp : w.phase? job = some p) (hlocked : p.isLocked = true) :
    ∃ more, (∀ e ∈ more, e.isWaiting = true) ∧ ∃ q, (w.run setup more).phase? job = some q ∧ q.isLocked = true ∧
      q.toGo = p.toGo ∧ ((w.run setup more).advance? setup job).isSome := by
  -- by induction on the number of timers: time goes by to the next one, and it is up or it is one less
  generalize hn : w.timers.length = n
  induction n using Nat.strong_induction_on generalizing w p with
  | h n ih =>
    by_cases hready : p.limits = []
    · exact ⟨[], by simp, p, hp, hlocked, rfl, advance?_of_limits hp hlocked (Or.inl hready)⟩
    · obtain ⟨limit, hlimit⟩ := List.exists_mem_of_ne_nil _ hready
      obtain ⟨before, hbefore, next, hnext, hv⟩ :=
        exists_tick setup h (mem_timers.2 ⟨job, p, hp, Phase.mem_timers_of_limits hlimit⟩)
      have hsound : (w.run setup before).Sound := sound_run h before
      rw [hv] at hsound
      obtain ⟨k, r, hk, htimer⟩ := mem_timers.1 hnext
      rcases Phase.timers_cases htimer with hover | ⟨g, hg, t, ht, rfl⟩
      · -- a limit is one of the job itself, since the others have not the lock
        have hkj : k = job := by
          by_contra hne
          have hfree := h.free_of_other (h.alone job p hp hlocked) hk hne
          cases r <;> contradiction
        subst hkj
        obtain rfl := Option.some.inj (hp.symm.trans hk)
        refine ⟨before, hbefore, p, by rw [hv]; exact hp, hlocked, rfl, ?_⟩
        rw [hv]
        exact advance?_of_limits hp hlocked (Or.inr ⟨next, hover, le_rfl⟩)
      · obtain ⟨u, hu, hs, hless⟩ := exists_settle setup (w := { w with now := t.endsAt }) hk hg ht le_rfl
        obtain ⟨p', hp', hsame⟩ : ∃ p', u.phase? job = some p' ∧ p'.isLocked = true ∧ p'.toGo = p.toGo := by
          obtain ⟨p', hp', hturn⟩ := turn_of_step hs hp
          refine ⟨p', hp', ?_⟩
          cases hturn with
          | settles =>
            exact ⟨(Phase.isLocked_withGathering _ p).trans hlocked, Phase.toGo_withGathering _ p⟩
          | rests => exact ⟨hlocked, rfl⟩
        obtain ⟨more, hmore, q, hq, hqlocked, hqtoGo, hadvance⟩ :=
          ih u.timers.length (hn ▸ hless) (sound_step hsound hs) hp' hsame.1 rfl
        have hrun : w.run setup (before ++ .settle k t.name :: more) = u.run setup more := by
          rw [run_append, hv, ← hu]
          rfl
        refine ⟨before ++ .settle k t.name :: more, ?_, q, ?_, hqlocked, hqtoGo.trans hsame.2, ?_⟩
        · intro e he
          rcases List.mem_append.1 he with he | he
          · exact hbefore e he
          · rcases List.mem_cons.1 he with rfl | he
            · rfl
            · exact hmore e he
        · rw [hrun]
          exact hq
        · rw [hrun]
          exact hadvance

/-- **A change comes to a result**, by moves of its own and events that it waits for -/
theorem exists_result (setup : Setup σ ι) (h : w.Sound) (hp : w.phase? job = some p) (hlocked : p.isLocked = true) :
    ∃ more, (∀ e ∈ more, e.isWaiting = true ∨ e = .advance job) ∧
      ∃ result, (w.run setup more).result? job = some (.changed result) := by
  -- by induction on the moves that are left
  generalize hn : p.toGo = n
  induction n using Nat.strong_induction_on generalizing w p with
  | h n ih =>
    obtain ⟨wait, hwait, q, hq, hqlocked, htoGo, hadvance⟩ := exists_ready setup h hp hlocked
    obtain ⟨u, hu⟩ := Option.isSome_iff_exists.1 hadvance
    have hs : Step setup (w.run setup wait) (.advance job) u := advance_step hu
    have hrun : w.run setup (wait ++ [.advance job]) = u := by
      rw [run_snoc]
      simp [step, step?, hu]
    have hmine : ∀ e ∈ wait ++ [.advance job], e.isWaiting = true ∨ e = .advance job := by
      intro e he
      rcases List.mem_append.1 he with he | he
      · exact Or.inl (hwait e he)
      · exact Or.inr (List.mem_singleton.1 he)
    have hsound : u.Sound := sound_step (sound_run h wait) hs
    obtain ⟨r, hr, hturn⟩ := turn_of_step hs hq
    cases hturn with
    | rests _ hother => exact absurd rfl hother
    | moves hm =>
      rename_i u
      cases hrlocked : r.isLocked with
      | false =>
        obtain ⟨result, rfl⟩ := finished_of_move hm hqlocked hrlocked
        exact ⟨wait ++ [.advance job], hmine, result, by rw [hrun]; exact result?_eq_some.2 hr⟩
      | true =>
        have hless : r.toGo < n := by
          rw [← hn, ← htoGo]
          exact toGo_of_move hm hqlocked
        obtain ⟨more, hmore, result, hresult⟩ := ih _ hless hsound hr hrlocked rfl
        refine ⟨wait ++ [.advance job] ++ more, fun e he => ?_, result, ?_⟩
        · exact (List.mem_append.1 he).elim (hmine e) (hmore e)
        · rw [run_append, hrun]
          exact hresult

end Progress

end World

end EntityGateway
