/-
When a change asks databases.

It does so at one moment, when it begins to build its metadata; what comes of it then depends on the time and on what
introspectors remember. A refresh of the current metadata is not a change, and is left aside here.

- `askings`: the moments along a list of events;
- `asksOnce_run`: a change that got the lock goes on until it has a result or is given up, and asks at most once.
-/
import EntityGateway.Proofs.Orchestration.Progress

namespace EntityGateway

/-- whether a change in this phase has not begun to build its metadata -/
def Phase.isUnbuilt : Phase → Bool
  | .validating _ | .constructing _ => true
  | _ => false

namespace World

/-! ## Moments -/

/-- the time at which a job begins to build metadata by an event, and what introspectors remember then -/
def askingOf? (w : World σ ι) (job : Nat) : Event → Option (Nat × ι)
  | .advance k =>
    match k == job, w.phase? k with
    | true, some (.constructing _) => some (w.now, w.memory)
    | _, _ => none
  | _ => none

/-- when a job begins to build metadata along a list of events -/
def askings (setup : Setup σ ι) (job : Nat) (w : World σ ι) : List Event → List (Nat × ι)
  | [] => []
  | e :: l => (w.askingOf? job e).toList ++ (w.step setup e).askings setup job l

section Askings

variable {setup : Setup σ ι} {job : Nat} {w u : World σ ι} {p : Phase}

theorem askings_append (w : World σ ι) (a b : List Event) :
    w.askings setup job (a ++ b) = w.askings setup job a ++ (w.run setup a).askings setup job b := by
  induction a generalizing w with
  | nil => rfl
  | cons e a ih =>
    simp only [List.cons_append, askings, ih, List.append_assoc]
    rfl

theorem askings_singleton (w : World σ ι) (e : Event) : w.askings setup job [e] = (w.askingOf? job e).toList :=
  List.append_nil _

theorem askings_of_none {l : List Event} {e : Event} (h : (w.run setup l).askingOf? job e = none) :
    w.askings setup job (l ++ [e]) = w.askings setup job l := by
  rw [askings_append, askings_singleton, h]
  exact List.append_nil _

theorem askingOf?_constructing {r : Run} (hp : w.phase? job = some (.constructing r)) :
    w.askingOf? job (.advance job) = some (w.now, w.memory) := by
  simp [askingOf?, hp]

/-- databases are asked only by a change that is about to build its metadata -/
theorem askingOf?_eq_none (hp : w.phase? job = some p) (e : Event) (h : e = .advance job → ∀ r, p ≠ .constructing r) :
    w.askingOf? job e = none := by
  unfold askingOf?
  split
  · rename_i k
    by_cases hk : k = job
    · subst hk
      cases p with
      | constructing r => exact absurd rfl (h rfl r)
      | _ => simp [hp]
    · simp [hk]
  · rfl

end Askings

/-! ## One moment at most -/

section Once

variable {setup : Setup σ ι} {job : Nat} {w u v : World σ ι} {p q : Phase} {e : Event} {l : List Event}

/-- a change that got the lock has it still, has a result or was given up, and asks databases at most once -/
structure AsksOnce (setup : Setup σ ι) (w : World σ ι) (job : Nat) (l : List Event) (p : Phase) : Prop where
  course : p.isLocked = true ∨ (∃ result, p = .finished (.changed result)) ∨ (p = .dropped ∧ .drop job ∈ l)
  unasked : p.isUnbuilt = true → w.askings setup job l = []
  once : (w.askings setup job l).length ≤ 1

theorem isUnbuilt_of_move (hm : Move setup job w p q u) (hp : p.isLocked = true) (hq : q.isUnbuilt = true) :
    p.isUnbuilt = true ∧ ∀ r, p ≠ .constructing r := by
  cases hm <;> first | contradiction | exact ⟨rfl, by simp⟩

/-- what happens beside the moves of a change asks nothing for it -/
theorem AsksOnce.of_still (h : AsksOnce setup w job l p) (hnone : (w.run setup l).askingOf? job e = none)
    (hcourse : q.isLocked = true ∨ (∃ result, q = .finished (.changed result)) ∨ (q = .dropped ∧ .drop job ∈ l ++ [e]))
    (hunbuilt : q.isUnbuilt = true → p.isUnbuilt = true) : AsksOnce setup w job (l ++ [e]) q := by
  refine ⟨hcourse, fun hq => ?_, ?_⟩
  · rw [askings_of_none hnone]
    exact h.unasked (hunbuilt hq)
  · rw [askings_of_none hnone]
    exact h.once

theorem AsksOnce.rests (h : AsksOnce setup w job l p) (hnone : (w.run setup l).askingOf? job e = none) :
    AsksOnce setup w job (l ++ [e]) p :=
  h.of_still hnone (h.course.imp_right (Or.imp_right fun ⟨hp, hdrop⟩ => ⟨hp, List.mem_append_left _ hdrop⟩)) id

theorem asksOnce_step (h : AsksOnce setup w job l p) (hp : (w.run setup l).phase? job = some p)
    (hs : Step setup (w.run setup l) e u) : ∃ q, u.phase? job = some q ∧ AsksOnce setup w job (l ++ [e]) q := by
  obtain ⟨q, hq, hturn⟩ := turn_of_step hs hp
  refine ⟨q, hq, ?_⟩
  have hquiet : e ≠ .advance job → (w.run setup l).askingOf? job e = none := fun hne =>
    askingOf?_eq_none hp e fun he => absurd he hne
  cases hturn with
  | moves hm =>
    have hlocked : p.isLocked = true := by
      rcases h.course with hlocked | ⟨result, rfl⟩ | ⟨rfl, -⟩
      · exact hlocked
      · cases hm
      · cases hm
    have hnext : q.isLocked = true ∨ (∃ result, q = .finished (.changed result)) ∨
        (q = .dropped ∧ .drop job ∈ l ++ [.advance job]) := by
      cases hqlocked : q.isLocked with
      | true => exact Or.inl rfl
      | false => exact Or.inr (Or.inl (finished_of_move hm hlocked hqlocked))
    by_cases hconstructing : ∃ r, p = .constructing r
    · obtain ⟨r, rfl⟩ := hconstructing
      refine ⟨hnext, fun hunbuilt => ?_, ?_⟩
      · exact absurd rfl ((isUnbuilt_of_move hm hlocked hunbuilt).2 r)
      · rw [askings_append, askings_singleton, h.unasked rfl, askingOf?_constructing hp]
        exact le_rfl
    · exact h.of_still (askingOf?_eq_none hp _ fun _ r hr => hconstructing ⟨r, hr⟩) hnext
        fun hunbuilt => (isUnbuilt_of_move hm hlocked hunbuilt).1
  | settles hg =>
    have hlocked : p.isLocked = true := by
      rcases h.course with hlocked | ⟨result, rfl⟩ | ⟨rfl, -⟩
      · exact hlocked
      · cases hg
      · cases hg
    refine h.of_still (hquiet (by simp)) (Or.inl ((Phase.isLocked_withGathering _ p).trans hlocked)) fun hunbuilt => ?_
    cases p <;> cases hg <;> cases hunbuilt
  | drops =>
    exact h.of_still (hquiet (by simp)) (Or.inr (Or.inr ⟨rfl, by simp⟩)) (by simp [Phase.isUnbuilt])
  | rests _ hother =>
    refine h.rests (hquiet ?_)
    rintro rfl
    exact hother rfl

/-- **A change that got the lock asks databases at most once**, and goes on until it ends or is given up -/
theorem asksOnce_run (hp : w.phase? job = some (.locking t)) (hlock : (w.step setup (.advance job)).phase? job = some p)
    (hlocked : p.isLocked = true) (l : List Event) :
    ∃ q, (w.run setup (.advance job :: l)).phase? job = some q ∧ AsksOnce setup w job (.advance job :: l) q := by
  induction l using List.reverseRecOn with
  | nil =>
    have hnone : w.askings setup job [.advance job] = [] := by
      rw [askings_singleton, askingOf?_eq_none hp _ (by simp)]
      rfl
    refine ⟨p, hlock, Or.inl hlocked, fun _ => hnone, ?_⟩
    rw [hnone]
    exact Nat.zero_le _
  | append_singleton l e ih =>
    obtain ⟨q, hq, h⟩ := ih
    rw [← List.cons_append, run_snoc]
    rcases step_cases setup (w.run setup (.advance job :: l)) e with ⟨hnone, hstep⟩ | hs
    · rw [hstep]
      refine ⟨q, hq, h.rests (askingOf?_eq_none hq e ?_)⟩
      rintro rfl r rfl
      simp [step?, advance?, hq, next?] at hnone
    · exact asksOnce_step h hq hs

end Once

end World

end EntityGateway
