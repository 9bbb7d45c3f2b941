/-
Sets of metadata that one job has to itself.

The set that a change builds is reserved for it: it is not in use, and no other job waits for it or can put it in use.
So it stays while the change waits for it, and after the change has left its initializations to themselves.

- `move_places`: the sets that a job gets at are old ones of its own, the one in use, and a new one;
- `reserved_step`: whatever the others do, a reserved set stays reserved;
- `leftovers_step`: what is left to itself belongs to a job that waited for it;
- `secluded_of_other`: a reserved set that nothing is left over for is left as it is by the others;
- `secluded_new`, `settles_due`: a new set is of this kind, and its initializations come to the same in any order.
-/
import EntityGateway.Proofs.Orchestration.Building
import EntityGateway.Proofs.Orchestration.Progress

namespace EntityGateway

namespace World

/-- a set that is not in use, and that nobody but one job can get at -/
structure Reserved (w : World σ ι) (job place : Nat) : Prop where
  there : place < w.sets.length
  unused : place ≠ w.current
  apart : ∀ k p, w.phase? k = some p → k ≠ job → place ∉ p.sets

section Places

variable {setup : Setup σ ι} {job : Nat} {w u : World σ ι} {p q : Phase} {e : Event}

/-- the sets that a job gets at are those it got at before, the one in use, and one that it makes -/
theorem move_places (hm : Move setup job w p q u) : (u.current = w.current ∨ u.current ∈ p.sets) ∧
    ∀ i ∈ q.sets, i ∈ p.sets ∨ i = w.current ∨ i = w.sets.length := by
  cases hm with
  | install => refine ⟨Or.inl rfl, ?_⟩; split_ifs <;> simp [Phase.sets]
  | accept => refine ⟨?_, by simp [Phase.sets]⟩; split_ifs <;> exact Or.inl rfl
  | apply => exact ⟨Or.inl rfl, by simp [Phase.sets, checkpoint]⟩
  | edit => exact ⟨Or.inl rfl, by simp [Phase.sets, checkpoint]⟩
  | construct => exact ⟨Or.inl rfl, by simp [Phase.sets]⟩
  | commit => exact ⟨Or.inr (by simp [Phase.sets, publish]), by simp [Phase.sets]⟩
  | call hcall => cases hcall; exact ⟨Or.inl rfl, fun i hi => Or.inl hi⟩
  | generate hcall => cases hcall; exact ⟨Or.inl rfl, by simp [Phase.sets]⟩
  | restore _ hu => subst hu; exact ⟨Or.inr (by simp [Phase.sets, publish]), fun i hi => Or.inl hi⟩
  | giveUp hu => subst hu; exact ⟨Or.inr (by simp [Phase.sets, publish]), by simp [Phase.sets]⟩
  | refresh => exact ⟨Or.inl rfl, by simp [Phase.sets]⟩
  | _ => first | exact ⟨Or.inl rfl, fun i hi => Or.inl hi⟩ | exact ⟨Or.inl rfl, by simp [Phase.sets]⟩

/-- **A set that a job reserves stays reserved**, whatever the others do -/
theorem reserved_step {place : Nat} (h : w.Reserved job place) (hs : Step setup w e u)
    (hown : e.mover? = some job → u.current = w.current) : u.Reserved job place := by
  cases hs with
  | submit =>
    refine ⟨h.there, h.unused, fun k p hk hne => ?_⟩
    rcases phase?_submit_cases hk with hk | ⟨-, rfl⟩
    · exact h.apart k p hk hne
    · rw [(start_plain _).2.1]
      exact List.not_mem_nil
  | advance hp hm =>
    rename_i k p q v
    obtain ⟨hcurrent, hplaces⟩ := move_places hm
    refine ⟨lt_of_lt_of_le h.there (show w.sets.length ≤ v.sets.length from move_length hm), ?_, fun i r hi hne => ?_⟩
    · show place ≠ v.current
      by_cases hk : k = job
      · rw [show v.current = w.current from hown (congrArg some hk)]
        exact h.unused
      · rcases hcurrent with hc | hc
        · rw [hc]
          exact h.unused
        · rintro rfl
          exact h.apart k p hp hk hc
    · rcases phase?_setPhase_cases (move_jobs hm) hp hi with ⟨rfl, rfl⟩ | ⟨-, hi⟩
      · intro hmem
        rcases hplaces place hmem with hmem | heq | heq
        · exact h.apart _ p hp hne hmem
        · exact h.unused heq
        · have := h.there
          omega
      · exact h.apart i r hi hne
  | settle hp =>
    refine ⟨by simpa [setPhase] using h.there, h.unused, fun i r hi hne => ?_⟩
    rcases phase?_setPhase_cases rfl hp hi with ⟨rfl, rfl⟩ | ⟨-, hi⟩
    · exact fun hmem => h.apart _ _ hp hne hmem
    · exact h.apart i r hi hne
  | resettle hp =>
    refine ⟨by simpa [setPhase] using h.there, h.unused, fun i r hi hne => ?_⟩
    rcases phase?_setPhase_cases rfl hp hi with ⟨rfl, rfl⟩ | ⟨-, hi⟩
    · exact fun hmem => h.apart _ _ hp hne hmem
    · exact h.apart i r hi hne
  | linger => exact ⟨by simpa using h.there, h.unused, h.apart⟩
  | tick => exact ⟨h.there, h.unused, h.apart⟩
  | drop hp =>
    refine ⟨h.there, h.unused, fun i r hi hne => ?_⟩
    rcases phase?_setPhase_cases (u := w) rfl hp hi with ⟨rfl, rfl⟩ | ⟨-, hi⟩
    · exact List.not_mem_nil
    · exact h.apart i r hi hne
  | replace => exact ⟨h.there, h.unused, h.apart⟩

theorem leftovers_step {l : Leftover} (hs : Step setup w e u) (hl : l ∈ u.leftovers) :
    l ∈ w.leftovers ∨
      (e.mover? = some l.job ∧ ∃ p g, w.phase? l.job = some p ∧ p.gathering? = some g ∧ g.set = l.set) := by
  have hnew : ∀ {job p}, w.phase? job = some p → e.mover? = some job → l ∈ p.leftovers job →
      l ∈ w.leftovers ∨
        (e.mover? = some l.job ∧ ∃ p g, w.phase? l.job = some p ∧ p.gathering? = some g ∧ g.set = l.set) := by
    intro job p hp hmover hl
    unfold Phase.leftovers at hl
    cases hg : p.gathering? with
    | none => simp [hg] at hl
    | some g =>
      simp only [hg, Option.map_some, Option.getD_some, Gathering.leftovers, List.mem_map] at hl
      obtain ⟨t, -, rfl⟩ := hl
      exact Or.inr ⟨hmover, p, g, hp, hg, rfl⟩
  cases hs with
  | advance hp hm =>
    rcases move_leftovers hm with hu | ⟨hu, -⟩
    · exact Or.inl (hu ▸ hl)
    · rcases List.mem_append.1 (hu ▸ hl) with hl | hl
      · exact Or.inl hl
      · exact hnew hp rfl hl
  | linger => exact Or.inl (List.mem_of_mem_eraseIdx hl)
  | drop hp =>
    rcases List.mem_append.1 hl with hl | hl
    · exact Or.inl hl
    · exact hnew hp rfl hl
  | _ => exact Or.inl hl

/-- a reserved set for which no initialization was left to itself -/
structure Secluded (w : World σ ι) (job place : Nat) : Prop extends Reserved w job place where
  alone : ∀ l ∈ w.leftovers, l.set ≠ place

/-- no job moves on by changing a set that is reserved -/
theorem set_of_move {k place : Nat} (h : w.Reserved job place) (hm : Move setup k w p q u) :
    u.set place = w.set place := by
  cases hm with
  | accept => split_ifs <;> rfl
  | construct => exact set_addSet_of_lt w _ h.there
  | call hcall => cases hcall; rfl
  | generate hcall => cases hcall; rfl
  | restore _ hu => subst hu; rfl
  | giveUp hu => subst hu; rfl
  | refresh => exact set_update_of_ne h.unused _
  | _ => rfl

/-- **The others leave a set as it is** that a job has to itself -/
theorem secluded_of_other {place : Nat} (h : w.Secluded job place) (hs : Step setup w e u)
    (hother : e.mover? ≠ some job) : u.Secluded job place ∧ u.set place = w.set place := by
  have hreserved := reserved_step h.toReserved hs fun hown => absurd hown hother
  have hgathered : ∀ {k p g}, w.phase? k = some p → e.mover? = some k → p.gathering? = some g → place ≠ g.set := by
    intro k p g hp hmover hg hplace
    refine h.apart k p hp (fun hk => hother (hk ▸ hmover)) ?_
    cases p <;> cases hg <;> simp [Phase.sets, hplace]
  refine ⟨⟨hreserved, fun l hl hplace => ?_⟩, ?_⟩
  · rcases leftovers_step hs hl with hl | ⟨hmover, p, g, hp, hg, hset⟩
    · exact h.alone l hl hplace
    · exact hgathered hp hmover hg (hset.trans hplace).symm
  · cases hs with
    | advance _ hm =>
      have hmoved := set_of_move h.toReserved hm
      exact hmoved
    | settle hp => exact set_update_of_ne (hgathered hp rfl rfl) _
    | resettle hp => exact set_update_of_ne (hgathered hp rfl rfl) _
    | linger hl => exact set_update_of_ne (fun hplace => h.alone _ (List.mem_of_getElem? hl) hplace.symm) _
    | _ => rfl

theorem Secluded.moved {place : Nat} (h : w.Secluded job place) (hjobs : u.jobs = w.jobs)
    (hcurrent : u.current = w.current) (hlength : w.sets.length ≤ u.sets.length) (hleft : u.leftovers = w.leftovers) :
    (u.setPhase job q).Secluded job place := by
  refine ⟨⟨lt_of_lt_of_le h.there hlength, fun hplace => h.unused (hplace.trans hcurrent), fun k r hk hne => ?_⟩, ?_⟩
  · rw [phase?_other hjobs hne] at hk
    exact h.apart k r hk hne
  · intro l hl
    exact h.alone l (hleft ▸ hl)

theorem reserved_new (hw : w.Sound) {launched : ProviderSet} {memory : ι} :
    World.Reserved (World.setPhase { w.addSet launched with memory } job q) job w.sets.length := by
  refine ⟨by simp [setPhase, addSet], ?_, fun k r hk hne hmem => ?_⟩
  · have := hw.inUse
    show w.sets.length ≠ w.current
    omega
  · rw [phase?_setPhase_of_ne _ hne] at hk
    exact absurd (hw.sets k r hk _ hmem) (lt_irrefl _)

theorem secluded_new (hw : w.Sound) {launched : ProviderSet} {memory : ι} :
    World.Secluded (World.setPhase { w.addSet launched with memory } job q) job w.sets.length := by
  refine ⟨reserved_new hw, fun l hl => ?_⟩
  have hlt : l.set < w.sets.length := hw.left l hl
  exact Nat.ne_of_lt hlt

end Places

/-! ## Initializations of a set that a job waits for -/

section Gatherings

variable {job : Nat} {w : World σ ι} {q : Phase} {g : Gathering} {t : SourceTask} {source : String}

theorem waiting_begun (place : Nat) (tasks : List SourceTask) :
    (Gathering.mk place tasks (tasks.map (·.name))).waiting = tasks := by
  refine List.filter_eq_self.2 fun t ht => ?_
  exact List.contains_iff_mem.2 (List.mem_map_of_mem ht)

theorem waiting_of_pending (h : g.pending = []) : g.waiting = [] := by
  simp [Gathering.waiting, h]

theorem due_cases (hdue : g.due? w.now source = some t) : t ∈ g.waiting ∧ t.name = source ∧ t.endsAt ≤ w.now := by
  have hends := List.find?_some hdue
  simp only [Bool.and_eq_true, beq_iff_eq, decide_eq_true_eq] at hends
  exact ⟨List.mem_of_find?_eq_some hdue, hends⟩

/-- **An initialization that comes to its end** makes no difference to what comes of them all -/
theorem settles_due (hthere : g.set < w.sets.length) (hnames : (g.waiting.map (·.name)).Nodup)
    (hdue : g.due? w.now source = some t) :
    (g.without source).waiting.foldl ProviderSet.settle
      (World.set (World.setPhase { w with sets := w.sets.set g.set ((w.set g.set).settle t) } job q) g.set) =
      g.waiting.foldl ProviderSet.settle (w.set g.set) := by
  obtain ⟨ht, rfl, -⟩ := due_cases hdue
  have hplace : World.set (World.setPhase { w with sets := w.sets.set g.set ((w.set g.set).settle t) } job q) g.set =
      (w.set g.set).settle t := by
    simp only [World.set, setPhase]
    rw [List.getElem?_set_self hthere]
    rfl
  rw [hplace, Gathering.waiting_without, ProviderSet.settles_filter hnames ht]

end Gatherings

end World

end EntityGateway
