/-
Introspections of a set that go on side by side.

Every provider of a set is initialized by itself, with its own limit on the answer. Whoever is asked may answer, fail,
break down, be late or say nothing at all, and the initializations end in any order: each data source is in the report
once, with those that succeeded apart from those that failed, and what a provider comes to depends on nothing but what
it was and the answer to its own question.

- `Provider.introspected`: what a provider comes to with an answer, and `find_introspected`, that it comes to that;
- `collected_eq`: the report is the same in every order;
- `ProviderSet.Named`: every set of a gateway keeps its providers under their own names (`named_run`);
- `introspection_is_complete_and_isolated`: the whole of it.
-/
import EntityGateway.Proofs.Metadata.Accounting

namespace EntityGateway

/-! ## One provider -/

/-- how a question ends whose answer must come within a limit -/
def Answer.ending (limit : Duration) (a : Answer) : Ending :=
  match a.after with
  | some d => if d.nanoseconds ≤ limit.nanoseconds then .answered a.outcome else .timedOut limit
  | none => .timedOut limit

theorem ending_ofAnswer (name : String) (now : Nat) (limit : Duration) (a : Answer) :
    (SourceTask.ofAnswer name now limit a).ending = a.ending limit := by
  unfold SourceTask.ofAnswer Answer.ending
  cases a.after with
  | none => rfl
  | some d =>
    dsimp only
    split_ifs <;> rfl

theorem Answer.ending_ne_atOnce (limit : Duration) (a : Answer) (x : Option MetadataException) :
    a.ending limit ≠ .atOnce x :=
  ending_ofAnswer "" 0 limit a ▸ Provider.not_atOnce_ofAnswer "" 0 limit a x

namespace Provider

/-- the answer to the question of a provider, if it has one -/
def answer? (i : Introspectors ι) (p : Provider) (memory : ι) : Option Answer :=
  match p.begin.2 with
  | .asks d source refs => some (i.ask d source refs memory).1
  | .over _ => none

/-- how the initialization of a provider ends with an answer to its question -/
def endsWith (p : Provider) (limit : Duration) (a : Option Answer) : Ending :=
  match p.begin.2 with
  | .asks .. => (a.map (·.ending limit)).getD (.timedOut limit)
  | .over e => .atOnce e

/-- what a provider comes to with an answer to its question -/
def introspected (p : Provider) (limit : Duration) (a : Option Answer) : Provider :=
  p.begin.1.finish (p.endsWith limit a)

section One

variable {i : Introspectors ι} {limit : Duration} {now : Nat} {memory : ι} {p : Provider}

theorem ending_launch : (p.launch i limit now memory).2.1.ending = p.endsWith limit (p.answer? i memory) := by
  unfold launch endsWith answer?
  split
  · rename_i hbegin
    rw [hbegin]
    exact ending_ofAnswer ..
  · rename_i hbegin
    rw [hbegin]

/-- a database provider that has begun is initialized by what was found, and by nothing else -/
theorem initialized_finish {d : Dialect} (hkind : p.kind = .sql d) (hnew : p.state.initialized = false) {e : Ending}
    (hasked : ∀ x, e ≠ .atOnce x) : (p.finish e).state.initialized = e.succeeds := by
  rcases e with (found | error | reason) | after | x
  · unfold finish publishFound
    rw [hkind]
    rfl
  · exact hnew
  · exact hnew
  · exact hnew
  · exact absurd rfl (hasked x)

/-- **A provider is initialized just if its initialization succeeds**, whatever it was before -/
theorem initialized_introspected (a : Option Answer) :
    (p.introspected limit a).state.initialized = (p.endsWith limit a).succeeds := by
  unfold introspected endsWith
  rcases p.begin_cases with ⟨d, source, hkind, hbegin⟩ | ⟨x, -, -, hbegin⟩ | ⟨make, -, hbegin⟩
  · rw [hbegin]
    refine initialized_finish (p := p.forgotten) hkind rfl fun x => ?_
    cases a with
    | none => rintro ⟨⟩
    | some a => exact a.ending_ne_atOnce limit x
  · rw [hbegin]
    rfl
  · rw [hbegin]
    rfl

end One

end Provider

/-! ## Sets that keep their providers under their own names -/

namespace ProviderSet

section Named

variable {set : ProviderSet}

theorem named_modify (h : set.Named) (name : String) {f : Provider → Provider}
    (hf : ∀ p, (f p).name = name ∨ (f p).name = p.name) :
    ProviderSet.Named { set with providers := set.providers.modify name f } := by
  intro entry he
  obtain ⟨old, hold, rfl⟩ := List.mem_map.1 he
  show (if old.1 = name then f old.2 else old.2).name = old.1
  split_ifs with hname
  · exact (hf old.2).elim (·.trans hname.symm) (·.trans (h old hold))
  · exact h old hold

theorem named_settle (h : set.Named) (t : SourceTask) : (set.settle t).Named :=
  named_modify h t.name fun p => .inr <| by
    obtain ⟨state, hfinish⟩ := finish_eq p t.ending
    rw [hfinish]

theorem named_settleAlone (h : set.Named) (t : SourceTask) : (set.settleAlone t).Named :=
  named_modify h t.name fun p => .inr <| by
    obtain ⟨state, hfinish⟩ := finishAlone_eq p t.ending
    rw [hfinish]

theorem named_launch (i : Introspectors ι) (limit : Duration) (now : Nat) (memory : ι) (h : set.Named) :
    (set.launch i limit now memory).1.Named := by
  suffices ∀ l : List Provider, ∀ set : ProviderSet, set.Named → (l.foldl put set).Named from this _ _ h
  intro l
  induction l with
  | nil => exact fun _ h => h
  | cons p l ih => exact fun set h => ih _ (named_modify h p.name fun _ => .inl rfl)

end Named

end ProviderSet

namespace World

/-- every set of a gateway keeps its providers under their own names -/
def Named (w : World σ ι) : Prop := ∀ set ∈ w.sets, set.Named

section Named

variable {setup : Setup σ ι} {job : Nat} {w u : World σ ι} {p q : Phase} {e : Event}

theorem Named.set (h : w.Named) (k : Nat) : (w.set k).Named := by
  unfold World.set
  cases hk : w.sets[k]? with
  | none => exact fun entry he => by cases he
  | some set => exact h set (List.mem_of_getElem? hk)

theorem Named.replaced (h : w.Named) {k : Nat} {s : ProviderSet} (hs : s.Named) (hu : u.sets = w.sets.set k s) :
    u.Named := by
  intro set hset
  rw [hu] at hset
  rcases List.mem_or_eq_of_mem_set hset with hset | rfl
  · exact h set hset
  · exact hs

theorem named_move (h : w.Named) (hm : Move setup job w p q u) : u.Named := by
  cases hm with
  | accept => split_ifs <;> exact h
  | construct hset hlaunch =>
    intro set hmem
    rcases List.mem_append.1 hmem with hmem | hmem
    · exact h set hmem
    · obtain rfl := List.mem_singleton.1 hmem
      have hlaunched := ProviderSet.named_launch setup.introspectors setup.introspectionTimeout w.now w.memory
        (ProviderSet.named_ofSnapshot hset)
      rwa [hlaunch] at hlaunched
  | call hcall => cases hcall; exact h
  | generate hcall => cases hcall; exact h
  | restore _ hu => subst hu; exact h
  | giveUp hu => subst hu; exact h
  | refresh hlaunch =>
    have hlaunched := ProviderSet.named_launch setup.introspectors setup.introspectionTimeout w.now w.memory
      (h.set w.current)
    rw [show w.set w.current = w.currentSet from rfl, hlaunch] at hlaunched
    exact h.replaced hlaunched rfl
  | _ => exact h

theorem named_step (h : w.Named) (hs : Step setup w e u) : u.Named := by
  cases hs with
  | advance hp hm =>
    have hmoved := named_move h hm
    exact hmoved
  | settle => exact h.replaced (ProviderSet.named_settle (h.set _) _) rfl
  | resettle => exact h.replaced (ProviderSet.named_settle (h.set _) _) rfl
  | linger => exact h.replaced (ProviderSet.named_settleAlone (h.set _) _) rfl
  | _ => exact h

variable (setup) in
/-- **Every set of a gateway keeps its providers under their own names**, whatever happens -/
theorem named_run (h : w.Named) (events : List Event) : (w.run setup events).Named :=
  invariant_run (fun _ _ _ h hs => named_step h hs) h events

end Named

end World

/-! ## The introspection of a set -/

namespace ProviderSet

/-- the report on initializations that came to their ends in an order, with both of its lists sorted -/
def collected (order : List SourceTask) : InitializationReport :=
  { succeeded := (report order).succeeded.mergeSort, failed := (report order).failed.mergeSort }

/-- a set after an introspection of all its providers, with the report -/
structure Introspected (set final : ProviderSet) (report : InitializationReport) : Prop where
  names : final.providers.names = set.providers.names
  /-- both lists are sorted, and nothing is in them twice -/
  succeeded : report.succeeded.Pairwise (· < ·)
  failed : report.failed.Pairwise (· < ·)
  /-- every data source is in one of them, and in one only -/
  complete : (report.succeeded ++ report.failed).Perm set.providers.names
  disjoint : report.succeeded.Disjoint report.failed
  /-- those that succeeded are those whose providers are initialized -/
  initialized : ∀ name, name ∈ report.succeeded ↔ ∃ p, final.find name = .ok p ∧ p.state.initialized = true

section Set

variable {i : Introspectors ι} {limit : Duration} {now : Nat} {memory : ι} {set final : ProviderSet}
  {tasks order : List SourceTask} {report : InitializationReport} {rest : Nat × ι} {name : String} {p : Provider}

/-- a list without repetitions that is sorted is what its rearrangements are sorted into -/
theorem mergeSort_eq {l m : List String} (hl : l.Pairwise (· < ·)) (hperm : m.Perm l) : m.mergeSort = l := by
  have hm : (m.mergeSort).Pairwise (· ≤ ·) := by
    have hsorted : (m.mergeSort fun a b => decide (a ≤ b)).Pairwise fun a b => decide (a ≤ b) = true :=
      List.pairwise_mergeSort (by simpa using fun a b c hab hbc => String.le_trans hab hbc)
        (by simpa using String.le_total) m
    simpa using hsorted
  have hle : l.Pairwise (· ≤ ·) := hl.imp fun h => String.not_lt.1 (String.lt_asymm h)
  exact ((List.mergeSort_perm m _).trans hperm).eq_of_pairwise (fun a b _ _ => String.le_antisymm) hm hle

/-- **The report is the same in every order** -/
theorem collected_eq (hsorted : (tasks.map (·.name)).Pairwise (· < ·)) (horder : order.Perm tasks) :
    collected order = ProviderSet.report tasks := by
  have hpart : ∀ accepts : SourceTask → Bool,
      ((order.filter accepts).map (·.name)).mergeSort = (tasks.filter accepts).map (·.name) := fun accepts =>
    mergeSort_eq (hsorted.sublist (List.filter_sublist.map _)) ((horder.filter accepts).map _)
  unfold collected ProviderSet.report
  rw [hpart, hpart]

theorem names_settles (tasks : List SourceTask) (set : ProviderSet) :
    (tasks.foldl settle set).providers.names = set.providers.names := by
  induction tasks generalizing set with
  | nil => rfl
  | cons t tasks ih => exact (ih (set.settle t)).trans (NameMap.names_modify ..)

theorem names_puts (l : List Provider) (set : ProviderSet) :
    (l.foldl put set).providers.names = set.providers.names := by
  induction l generalizing set with
  | nil => rfl
  | cons p l ih => exact (ih (set.put p)).trans (NameMap.names_modify ..)

theorem names_tasks (h : set.Named) : (set.launch i limit now memory).2.1.map (·.name) = set.providers.names :=
  (names_launch i limit now memory h).2.trans (names_values h)

theorem sorted_tasks (h : set.Named) : ((set.launch i limit now memory).2.1.map (·.name)).Pairwise (· < ·) := by
  rw [names_tasks h]
  exact List.pairwise_map.2 set.providers.sorted

/-- **Initializations end in any order**, and the set and the report are the same -/
theorem settles_eq (h : set.Named) (hend : set.initializeAll i limit now memory = (final, report, rest))
    (horder : order.Perm (set.launch i limit now memory).2.1) :
    order.foldl settle (set.launch i limit now memory).1 = final ∧ collected order = report := by
  cases hend
  have hnodup : ((set.launch i limit now memory).2.1.map (·.name)).Nodup :=
    names_tasks h ▸ set.providers.nodup_names
  exact ⟨settles_perm horder hnodup _, collected_eq (sorted_tasks h) horder⟩

/-- **A provider comes to what it comes to by itself**, and the report says whether it succeeded -/
theorem find_introspected (h : set.Named) (hend : set.initializeAll i limit now memory = (final, report, rest))
    (hp : set.find name = .ok p) : ∃ m, final.find name = .ok (p.introspected limit (p.answer? i m)) ∧
      (name ∈ report.succeeded ↔ (p.endsWith limit (p.answer? i m)).succeeds = true) := by
  cases hend
  obtain ⟨_, ht, rfl, ⟨m, rfl⟩, hlearned⟩ := get?_learned i limit now memory h (find_ok.1 hp)
  refine ⟨m, ?_, ?_⟩
  · rw [find_ok, Provider.introspected, ← Provider.ending_launch]
    exact hlearned
  · rw [mem_report.1, ← Provider.ending_launch]
    constructor
    · rintro ⟨u, hu, huname, hsucceeds⟩
      rwa [task_unique i h hu ht huname] at hsucceeds
    · exact fun hsucceeds => ⟨_, ht, rfl, hsucceeds⟩

/-- each data source is in the report once, and those that succeeded are known -/
theorem introspected (h : set.Named) (hend : set.initializeAll i limit now memory = (final, report, rest)) :
    set.Introspected final report := by
  have hnames : final.providers.names = set.providers.names := by
    cases hend
    exact (names_settles _ _).trans (names_puts _ set)
  have hcomplete : (report.succeeded ++ report.failed).Perm set.providers.names := by
    cases hend
    rw [← names_tasks h]
    exact perm_report _
  refine ⟨hnames, ?_, ?_, hcomplete, ?_, fun name => ⟨fun hname => ?_, fun ⟨q, hq, hinitialized⟩ => ?_⟩⟩
  · cases hend
    exact (sorted_tasks h).sublist (List.filter_sublist.map _)
  · cases hend
    exact (sorted_tasks h).sublist (List.filter_sublist.map _)
  · exact List.disjoint_of_nodup_append (hcomplete.nodup_iff.2 set.providers.nodup_names)
  · have hmem : name ∈ set.providers.names := hcomplete.subset (List.mem_append_left _ hname)
    obtain ⟨p, hp⟩ := mem_names_iff.1 hmem
    obtain ⟨m, hq, hsucceeds⟩ := find_introspected h hend (find_ok.2 hp)
    exact ⟨_, hq, (Provider.initialized_introspected _).trans (hsucceeds.1 hname)⟩
  · have hmem : name ∈ set.providers.names := hnames ▸ mem_names_iff.2 ⟨q, find_ok.1 hq⟩
    obtain ⟨p, hp⟩ := mem_names_iff.1 hmem
    obtain ⟨m, hq', hsucceeds⟩ := find_introspected h hend (find_ok.2 hp)
    cases hq.symm.trans hq'
    exact hsucceeds.2 ((Provider.initialized_introspected _).symm.trans hinitialized)

end Set

end ProviderSet

section Isolation

variable {i : Introspectors ι} {limit : Duration} {now : Nat} {memory : ι} {set final : ProviderSet}
  {report : InitializationReport} {rest : Nat × ι}

/-- **An introspection is complete, and isolates its data sources.** Every provider of a set is initialized, by whatever
introspectors. The report has each data source once, sorted, and those that succeeded are the ones whose providers are
initialized; set and report are the same in whatever order the initializations end. A provider that gets the same answer
in two introspections is the same after both, and succeeds in both or in neither, whatever else is asked and answered,
and when. -/
theorem introspection_is_complete_and_isolated (h : set.Named)
    (hend : set.initializeAll i limit now memory = (final, report, rest)) :
    set.Introspected final report ∧
    (∀ order : List SourceTask, order.Perm (set.launch i limit now memory).2.1 →
      order.foldl ProviderSet.settle (set.launch i limit now memory).1 = final ∧
        ProviderSet.collected order = report) ∧
    ∀ {ι' : Type} (i' : Introspectors ι') (now' : Nat) (memory' : ι') (set' final' : ProviderSet)
      (report' : InitializationReport) (rest' : Nat × ι'), set'.Named →
      set'.initializeAll i' limit now' memory' = (final', report', rest') →
      ∀ name p, set.find name = .ok p → set'.find name = .ok p → (∀ m m', p.answer? i m = p.answer? i' m') →
        final'.find name = final.find name ∧ (name ∈ report'.succeeded ↔ name ∈ report.succeeded) := by
  refine ⟨ProviderSet.introspected h hend, fun order horder => ProviderSet.settles_eq h hend horder, ?_⟩
  intro ι' i' now' memory' set' final' report' rest' h' hend' name p hp hp' hanswer
  obtain ⟨m, hfound, hsucceeds⟩ := ProviderSet.find_introspected h hend hp
  obtain ⟨m', hfound', hsucceeds'⟩ := ProviderSet.find_introspected h' hend' hp'
  rw [hfound, hfound', hsucceeds, hsucceeds', hanswer m m']
  exact ⟨rfl, Iff.rfl⟩

end Isolation

/-! ### Five data sources -/

/-- the books of a library, whose other data sources are all in trouble -/
def troubledConfig : RuntimeConfig :=
  { stockConfig with
    dataSources := ((stockConfig.dataSources.insert
      "branch" { databaseType := .postgres, connectionString := "shut" }).insert
      "cellar" { databaseType := .postgres, connectionString := "slow" }).insert
      "depot" { databaseType := .documentStore } }

/-- one database that answers, one that breaks down, one that refuses, and one that is late -/
def troubledDatabases : Introspectors Unit where
  serves _ := true
  ask d source refs memory :=
    match source.connectionString with
    | "shut" => (⟨some ⟨0⟩, .failed .notConfigured⟩, memory)
    | "slow" => (⟨some (.ofSeconds 16), .found []⟩, memory)
    | _ => stockDatabases.ask d source refs memory

/-- the same database that answers, among others that say nothing -/
def silentDatabases : Introspectors Unit where
  serves _ := true
  ask d source refs memory :=
    if source.connectionString = "host" then stockDatabases.ask d source refs memory else (⟨none, .found []⟩, memory)

theorem troubles_of_others_are_kept_apart : ∃ set final final' rest rest',
    ProviderSet.ofSnapshot troubledDatabases ⟨0, troubledConfig⟩ = .ok set ∧
    set.initializeAll troubledDatabases (.ofSeconds 15) 0 () =
      (final, ⟨["default"], ["archive", "branch", "cellar", "depot"]⟩, rest) ∧
    set.initializeAll silentDatabases (.ofSeconds 15) 0 () =
      (final', ⟨["default"], ["archive", "branch", "cellar", "depot"]⟩, rest') ∧
    set.Introspected final ⟨["default"], ["archive", "branch", "cellar", "depot"]⟩ ∧
    ProviderSet.collected (set.launch troubledDatabases (.ofSeconds 15) 0 ()).2.1.reverse =
      ⟨["default"], ["archive", "branch", "cellar", "depot"]⟩ ∧
    final'.find "default" = final.find "default" := by
  obtain ⟨set, hset, final, final', rest, rest', p, hend, hend', hp, hanswer⟩ : ∃ set,
      ProviderSet.ofSnapshot troubledDatabases ⟨0, troubledConfig⟩ = .ok set ∧ ∃ final final' rest rest' p,
      set.initializeAll troubledDatabases (.ofSeconds 15) 0 () =
        (final, ⟨["default"], ["archive", "branch", "cellar", "depot"]⟩, rest) ∧
      set.initializeAll silentDatabases (.ofSeconds 15) 0 () =
        (final', ⟨["default"], ["archive", "branch", "cellar", "depot"]⟩, rest') ∧
      set.find "default" = .ok p ∧ ∀ m m', p.answer? troubledDatabases m = p.answer? silentDatabases m' :=
    ⟨_, rfl, _, _, _, _, _, rfl, rfl, rfl, fun _ _ => rfl⟩
  have hnamed := ProviderSet.named_ofSnapshot hset
  obtain ⟨hcomplete, horders, hisolated⟩ := introspection_is_complete_and_isolated hnamed hend
  exact ⟨set, final, final', rest, rest', hset, hend, hend', hcomplete, (horders _ (List.reverse_perm _)).2,
    (hisolated silentDatabases 0 () set final' _ rest' hnamed hend' "default" p hp hp hanswer).1⟩

end EntityGateway
