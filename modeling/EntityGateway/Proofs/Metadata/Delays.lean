/-
How long the initializations of a set take.

They go on side by side, so all of them together take as long as the slowest; but none takes longer than the limit,
since nobody waits for a database that has not answered by then. A database that is too slow has one problem, that it
is; one that answers in time comes to what it answers, whatever the others do.

- `Answer.span`, `longest`: how long an answer is waited for, and how long the answers of a set are;
- `tasks_launch`: the initializations of a set, with the answers that end them;
- `received`: what becomes of each data source, and `prepare_takes_longest`, how long that takes.
-/
import EntityGateway.Proofs.Metadata.Inquiries
import EntityGateway.Proofs.Metadata.Isolation

namespace EntityGateway

/-! ## Answers that are waited for -/

namespace Answer

/-- how long an answer is waited for: as long as it takes, and no longer than the limit -/
def span (limit : Duration) (a : Answer) : Nat :=
  match a.after with
  | some d => min d.nanoseconds limit.nanoseconds
  | none => limit.nanoseconds

/-- an answer takes longer than the limit, or never comes -/
def IsLate (limit : Duration) (a : Answer) : Prop := ∀ d, a.after = some d → limit.nanoseconds < d.nanoseconds

variable {limit : Duration} {a : Answer}

theorem span_le (limit : Duration) (a : Answer) : a.span limit ≤ limit.nanoseconds := by
  unfold span
  split
  · exact min_le_right _ _
  · exact le_rfl

theorem ending_of_late (h : a.IsLate limit) : a.ending limit = .timedOut limit := by
  unfold ending
  split
  · rename_i d hd
    exact if_neg (Nat.not_le.2 (h d hd))
  · rfl

theorem ending_of_inTime (h : ¬ a.IsLate limit) : a.ending limit = .answered a.outcome := by
  unfold IsLate at h
  push Not at h
  obtain ⟨d, hd, hle⟩ := h
  simp [ending, hd, hle]

theorem task_ofAnswer (name : String) (now : Nat) (limit : Duration) (a : Answer) :
    SourceTask.ofAnswer name now limit a = ⟨name, now + a.span limit, a.ending limit⟩ := by
  unfold SourceTask.ofAnswer span ending
  cases a.after with
  | none => rfl
  | some d =>
    dsimp only
    split_ifs with hle
    · rw [min_eq_left hle]
    · rw [min_eq_right (Nat.le_of_not_le hle)]

end Answer

/-- how long a provider is waited for, with the answer to its question if it has one -/
def waitFor (limit : Duration) (a : Option Answer) : Nat := (a.map (·.span limit)).getD 0

/-- the initialization of a provider with the answer to its question -/
def Provider.taskWith (p : Provider) (limit : Duration) (now : Nat) (a : Option Answer) : SourceTask :=
  ⟨p.name, now + waitFor limit a, p.endsWith limit a⟩

/-- how long the slowest of some providers is waited for -/
def longest (limit : Duration) (answers : List (Provider × Option Answer)) : Nat :=
  (answers.map fun x => waitFor limit x.2).foldr max 0

namespace ProviderSet

/-- providers with the answers to their questions, which are asked one after another -/
def answersEach (i : Introspectors ι) : List Provider → ι → List (Provider × Option Answer)
  | [], _ => []
  | p :: rest, memory =>
    (p, p.answer? i memory) :: answersEach i rest (i.remembers memory p.inquiry?.toList)

def answers (i : Introspectors ι) (set : ProviderSet) (memory : ι) : List (Provider × Option Answer) :=
  answersEach i set.providers.values memory

end ProviderSet

section Waits

variable {limit : Duration} {answers : List (Provider × Option Answer)}

theorem longest_le_iff {n : Nat} : longest limit answers ≤ n ↔ ∀ x ∈ answers, waitFor limit x.2 ≤ n := by
  induction answers with
  | nil => simp [longest]
  | cons x answers ih =>
    rw [List.forall_mem_cons, ← ih]
    exact max_le_iff

theorem waitFor_le_longest {x : Provider × Option Answer} (hx : x ∈ answers) :
    waitFor limit x.2 ≤ longest limit answers := longest_le_iff.1 le_rfl x hx

/-- **Nobody is waited for longer than the limit** -/
theorem longest_le_limit (limit : Duration) (answers : List (Provider × Option Answer)) :
    longest limit answers ≤ limit.nanoseconds := by
  refine longest_le_iff.2 ?_
  intro x _
  unfold waitFor
  cases x.2 with
  | none => exact Nat.zero_le _
  | some a => exact a.span_le limit

end Waits

/-! ## The initializations of a set -/

section Launch

variable {i : Introspectors ι} {limit : Duration} {now : Nat} {memory : ι}

theorem task_launch (p : Provider) :
    (p.launch i limit now memory).2.1 = p.taskWith limit now (p.answer? i memory) := by
  have hname := name_begin p
  unfold Provider.launch Provider.taskWith Provider.answer? Provider.endsWith
  split
  · rename_i hbegin
    rw [hbegin] at hname ⊢
    exact (Answer.task_ofAnswer ..).trans (by rw [← hname]; rfl)
  · rename_i hbegin
    rw [hbegin] at hname ⊢
    rw [← hname]
    rfl

theorem tasks_launchEach (l : List Provider) (memory : ι) :
    (ProviderSet.launchEach i limit now l memory).2.1 =
      (ProviderSet.answersEach i l memory).map fun x => x.1.taskWith limit now x.2 := by
  induction l generalizing memory with
  | nil => rfl
  | cons p l ih =>
    simp only [ProviderSet.launchEach, ProviderSet.answersEach, List.map_cons, ih, memory_of_provider, task_launch]

/-- **The initializations of a set** end with the answers to its questions, and when these are there -/
theorem tasks_launch (set : ProviderSet) (limit : Duration) (now : Nat) (memory : ι) :
    (set.launch i limit now memory).2.1 = (set.answers i memory).map fun x => x.1.taskWith limit now x.2 :=
  tasks_launchEach set.providers.values memory

theorem providers_answers (set : ProviderSet) (memory : ι) :
    (set.answers i memory).map (·.1) = set.providers.values := by
  suffices ∀ (l : List Provider) (memory : ι), (ProviderSet.answersEach i l memory).map (·.1) = l from this _ _
  intro l
  induction l with
  | nil => exact fun _ => rfl
  | cons p l ih => exact fun memory => congrArg (p :: ·) (ih _)

theorem exists_answer {set : ProviderSet} {x : Provider × Option Answer} (hx : x ∈ set.answers i memory) :
    ∃ m, x.2 = x.1.answer? i m := by
  suffices ∀ (l : List Provider) (memory : ι), x ∈ ProviderSet.answersEach i l memory → ∃ m, x.2 = x.1.answer? i m from
    this _ _ hx
  intro l
  induction l with
  | nil =>
    intro memory hx
    cases hx
  | cons p l ih =>
    intro memory hx
    rcases List.mem_cons.1 hx with rfl | hx
    · exact ⟨memory, rfl⟩
    · exact ih _ hx

/-- **The last initialization ends when the slowest provider is not waited for any more** -/
theorem endOf_tasks (set : ProviderSet) (limit : Duration) (now : Nat) (memory : ι) :
    ProviderSet.endOf now (set.launch i limit now memory).2.1 = now + longest limit (set.answers i memory) := by
  rw [tasks_launch]
  suffices ∀ (l : List (Provider × Option Answer)) (sofar : Nat),
      ProviderSet.endOf (now + sofar) (l.map fun x => x.1.taskWith limit now x.2) = now + max sofar (longest limit l) by
    simpa using this (set.answers i memory) 0
  intro l
  induction l with
  | nil => exact fun sofar => by simp [ProviderSet.endOf, longest]
  | cons x l ih =>
    intro sofar
    calc ProviderSet.endOf (now + sofar) ((x :: l).map fun x => x.1.taskWith limit now x.2)
        = ProviderSet.endOf (now + max sofar (waitFor limit x.2)) (l.map fun x => x.1.taskWith limit now x.2) := by
          rw [← Nat.add_max_add_left]
          rfl
      _ = now + max (max sofar (waitFor limit x.2)) (longest limit l) := ih _
      _ = now + max sofar (longest limit (x :: l)) := by
          rw [max_assoc]
          rfl

end Launch

/-! ## What becomes of each data source -/

/-- what becomes of a provider of a set that is prepared, with the answer to its question if it has one -/
structure Received (limit : Duration) (final : ProviderSet) (report : InitializationReport) (p : Provider)
    (a : Option Answer) : Prop where
  /-- a database that is too slow has this one problem, and is one of those that failed -/
  late : ∀ x, a = some x → x.IsLate limit → p.name ∈ report.failed ∧ p.name ∉ report.succeeded ∧
    final.find p.name = .ok { p with state := { exceptions := [.timeout p.name limit] } }
  /-- one that answers in time has what it answers -/
  inTime : ∀ x, a = some x → ¬ x.IsLate limit → final.find p.name = .ok (p.finish (.answered x.outcome)) ∧
    (p.name ∈ report.succeeded ↔ ∃ found, x.outcome = .found found) ∧
    (p.name ∈ report.failed ↔ ¬ ∃ found, x.outcome = .found found)
  /-- one that is not asked is as it was at once -/
  unasked : a = none → final.find p.name = .ok p.begin.1 ∧ (p.name ∈ report.succeeded ↔ p.begin.2 = .over none) ∧
    (p.name ∈ report.failed ↔ p.begin.2 ≠ .over none)

/-- what becomes of a set whose providers are initialized: the report is complete, and each has what it has by itself -/
structure ProviderSet.ComesTo (made : ProviderSet) (i : Introspectors ι) (limit : Duration) (memory : ι)
    (final : ProviderSet) (report : InitializationReport) : Prop where
  introspected : made.Introspected final report
  received : ∀ p a, (p, a) ∈ made.answers i memory → Received limit final report p a

section Received

variable {i : Introspectors ι} {limit : Duration} {now : Nat} {memory : ι} {s : Snapshot} {made : ProviderSet}
  {p : Provider} {a : Option Answer}

/-- what is known of a provider, and what the report says of it, in terms of the answer to its question -/
theorem introspected_of_answer (limit : Duration) (now : Nat) (hnamed : made.Named)
    (hx : (p, a) ∈ made.answers i memory) :
    let final := (made.launch i limit now memory).2.1.foldl ProviderSet.settle (made.launch i limit now memory).1
    let report := ProviderSet.report (made.launch i limit now memory).2.1
    final.find p.name = .ok (p.introspected limit a) ∧
      (p.name ∈ report.succeeded ↔ (p.endsWith limit a).succeeds = true) ∧
      (p.name ∈ report.failed ↔ (p.endsWith limit a).succeeds = false) := by
  intro final report
  have ht : p.taskWith limit now a ∈ (made.launch i limit now memory).2.1 := by
    rw [tasks_launch]
    exact List.mem_map_of_mem (f := fun x : Provider × Option Answer => x.1.taskWith limit now x.2) hx
  have hp : made.providers.get? p.name = some p := by
    have hvalue : p ∈ made.providers.values := providers_answers made memory ▸ List.mem_map_of_mem (f := Prod.fst) hx
    obtain ⟨entry, hentry, rfl⟩ := List.mem_map.1 hvalue
    exact (NameMap.mem_entries_iff _ _ _).1 (hnamed entry hentry ▸ hentry)
  have hends : ∀ succeeds,
      (∃ t ∈ (made.launch i limit now memory).2.1, t.name = p.name ∧ t.ending.succeeds = succeeds) ↔
      (p.endsWith limit a).succeeds = succeeds := by
    intro succeeds
    constructor
    · intro ⟨t, ht', hname, hsucceeds⟩
      obtain rfl := task_unique i hnamed ht' ht hname
      exact hsucceeds
    · intro hsucceeds
      exact ⟨_, ht, rfl, hsucceeds⟩
  refine ⟨?_, ProviderSet.mem_report.1.trans (hends true), ProviderSet.mem_report.2.trans (hends false)⟩
  obtain ⟨t, ht', hname, -, hlearned⟩ := get?_learned i limit now memory hnamed hp
  obtain rfl := task_unique i hnamed ht' ht hname
  exact find_ok.2 hlearned

/-- a new provider that gets an answer is one that asks, and knows nothing when it does -/
theorem introspected_asked (limit : Duration) {x : Answer} (hstate : p.state = {}) (hx : p.answer? i memory = some x) :
    p.endsWith limit (some x) = x.ending limit ∧ p.introspected limit (some x) = p.finish (x.ending limit) := by
  unfold Provider.introspected Provider.endsWith
  unfold Provider.answer? at hx
  rcases Provider.begin_of_new hstate with ⟨d, source, -, hbegin⟩ | ⟨e, -, -, hbegin⟩ | ⟨make, -, hbegin⟩
  · rw [hbegin]
    exact ⟨rfl, rfl⟩
  · rw [hbegin] at hx
    cases hx
  · rw [hbegin] at hx
    cases hx

theorem introspected_unasked (limit : Duration) (hx : p.answer? i memory = none) :
    ∃ e, p.begin.2 = .over e ∧ p.endsWith limit none = .atOnce e ∧ p.introspected limit none = p.begin.1 := by
  unfold Provider.introspected Provider.endsWith
  unfold Provider.answer? at hx
  split at hx
  · cases hx
  · rename_i e hbegin
    rw [hbegin]
    exact ⟨e, rfl, rfl, rfl⟩

/-- **What becomes of a data source** depends on its own answer, and on whether it is there in time -/
theorem received (hmade : ProviderSet.ofSnapshot i s = .ok made) (hx : (p, a) ∈ made.answers i memory) :
    Received limit ((made.launch i limit now memory).2.1.foldl ProviderSet.settle (made.launch i limit now memory).1)
      (ProviderSet.report (made.launch i limit now memory).2.1) p a := by
  have hnamed := ProviderSet.named_ofSnapshot hmade
  have hstate : p.state = {} := by
    have hvalue : p ∈ made.providers.values := providers_answers made memory ▸ List.mem_map_of_mem (f := Prod.fst) hx
    obtain ⟨entry, hentry, rfl⟩ := List.mem_map.1 hvalue
    exact (ProviderSet.made_ofSnapshot hmade _ hentry).2
  obtain ⟨m, hanswer⟩ := exists_answer hx
  obtain ⟨hfind, hsucceeded, hfailed⟩ := introspected_of_answer limit now hnamed hx
  refine ⟨?_, ?_, ?_⟩
  · rintro x rfl hlate
    obtain ⟨hends, hfinish⟩ := introspected_asked limit hstate hanswer.symm
    rw [hends, Answer.ending_of_late hlate] at hsucceeded hfailed
    refine ⟨hfailed.2 rfl, fun hmem => (by cases hsucceeded.1 hmem), ?_⟩
    rw [hfind, hfinish, Answer.ending_of_late hlate]
    simp [Provider.finish, Provider.record, ProviderState.record, hstate]
  · rintro x rfl hinTime
    obtain ⟨hends, hfinish⟩ := introspected_asked limit hstate hanswer.symm
    have hfound : (Ending.answered x.outcome).succeeds = true ↔ ∃ found, x.outcome = .found found := by
      cases x.outcome <;> simp [Ending.succeeds]
    rw [hends, Answer.ending_of_inTime hinTime] at hsucceeded hfailed
    refine ⟨?_, hsucceeded.trans hfound, hfailed.trans ?_⟩
    · rw [hfind, hfinish, Answer.ending_of_inTime hinTime]
    · rw [← hfound, Bool.not_eq_true]
  · rintro rfl
    obtain ⟨e, hbegin, hends, hintrospected⟩ := introspected_unasked limit hanswer.symm
    have hover : (Ending.atOnce e).succeeds = true ↔ p.begin.2 = .over none := by
      rw [hbegin]
      cases e <;> simp [Ending.succeeds]
    rw [hends] at hsucceeded hfailed
    refine ⟨hfind.trans (congrArg Except.ok hintrospected), hsucceeded.trans hover, hfailed.trans ?_⟩
    rw [← Bool.not_eq_true, hover]

/-- **Whatever their answers are and whenever they come**, each provider of a set comes to what it comes to by itself -/
theorem comesTo_tasks (limit : Duration) (now : Nat) (memory : ι) (hmade : ProviderSet.ofSnapshot i s = .ok made) :
    made.ComesTo i limit memory
      ((made.launch i limit now memory).2.1.foldl ProviderSet.settle (made.launch i limit now memory).1)
      (ProviderSet.report (made.launch i limit now memory).2.1) := by
  have hend : made.initializeAll i limit now memory = (_, _, _, _) := rfl
  exact ⟨ProviderSet.introspected (ProviderSet.named_ofSnapshot hmade) hend, fun _ _ => received hmade⟩

/-- **Preparing a set takes as long as the slowest of its data sources is waited for** -/
theorem prepare_takes_longest {final : ProviderSet} {report : InitializationReport} {endsAt : Nat} {rest : ι}
    (hmade : ProviderSet.ofSnapshot i s = .ok made)
    (hprepare : ProviderSet.prepare i limit now s memory = .ok (final, report, endsAt, rest)) :
    endsAt = now + longest limit (made.answers i memory) ∧ made.ComesTo i limit memory final report := by
  rw [prepare_of_made hmade] at hprepare
  have hend : made.initializeAll i limit now memory = (final, report, endsAt, rest) := Except.ok.inj hprepare
  cases hend
  exact ⟨endOf_tasks made limit now memory, comesTo_tasks limit now memory hmade⟩

end Received

end EntityGateway
