/-
Every entity is accounted for.

When a set of metadata is prepared, each data source is in the report once. The provider of one that succeeded has an
object or one problem for each entity that is bound to it, and the provider of one that failed has one problem with the
data source as a whole and nothing else. What answers came, what broke down and what was late makes no difference, nor
does the order in which the initializations end.

- `learned_or_failed`: what a provider knows when its initialization has ended;
- `prepared`, `reported`: each provider of a set that is prepared, and the report;
- `every_entity_is_accounted_for`: the whole of it.
-/
import EntityGateway.Proofs.Served.Criteria
import EntityGateway.Proofs.Metadata.Initialization

namespace EntityGateway

/-! ## What is known of an entity -/

/-- a problem with the object of an entity: it is not there, has no key, or is a procedure that cannot be called -/
inductive MetadataException.Concerns (source entity : String) : MetadataException → Prop
  | missing (object : String) : Concerns source entity (.missingObject source entity object)
  | keyless (object : String) : Concerns source entity (.missingPrimaryKey source entity object)
  | unusable (object reason : String) : Concerns source entity (.unsupportedProcedure source entity object reason)

/-- a problem with a data source as a whole -/
def MetadataException.IsGeneral (source : String) (x : MetadataException) : Prop :=
  x.dataSource = source ∧ x.entity? = none

theorem MetadataException.concerns_iff {source entity : String} {x : MetadataException} :
    x.Concerns source entity ↔ x.dataSource = source ∧ x.entity? = some entity := by
  constructor
  · rintro (_ | _ | _) <;> exact ⟨rfl, rfl⟩
  · rintro ⟨rfl, hentity⟩
    cases x <;> cases hentity
    · exact .missing _
    · exact .keyless _
    · exact .unusable _ _

namespace Provider

/-- an entity has an object or one problem, and not both -/
def AccountsFor (p : Provider) (entity : String) : Prop :=
  ((∃ o, p.state.objects.get? entity = some o) ∧ p.problemsWith entity = []) ∨
    (p.state.objects.get? entity = none ∧ ∃ x, p.problemsWith entity = [x] ∧ x.Concerns p.name entity)

/-- a provider has an object or a problem for each entity on its data source, and nothing else -/
structure Learned (p : Provider) : Prop where
  initialized : p.state.initialized = true
  accounts : ∀ entity e, (entity, e) ∈ p.entities → p.AccountsFor entity
  objects : ∀ entity o, p.state.objects.get? entity = some o → ∃ e, (entity, e) ∈ p.entities
  exceptions : ∀ x ∈ p.state.exceptions, ∃ entity e, (entity, e) ∈ p.entities ∧ x.Concerns p.name entity

/-- a provider has one problem with its data source, and nothing else -/
structure Failed (p : Provider) : Prop where
  uninitialized : p.state.initialized = false
  objects : p.state.objects = .empty
  exceptions : ∃ x, p.state.exceptions = [x] ∧ x.IsGeneral p.name

section Ends

variable {p q : Provider}

theorem learned_publish {make : String → Entity → Except MetadataException DatabaseObject} (hstate : p.state = {})
    (hmake : Attributes p.name make) : (p.publish make).Learned := by
  have hnew : p.state.exceptions = [] := by rw [hstate]
  refine ⟨rfl, fun entity e he => ?_, fun entity o ho => ?_, fun x hx => ?_⟩
  · unfold AccountsFor
    rw [problemsWith_publish hmake hnew he]
    cases hresult : make entity e with
    | ok o => exact .inl ⟨⟨o, get?_publish.2 ⟨e, he, hresult⟩⟩, rfl⟩
    | error x =>
      refine .inr ⟨Option.eq_none_iff_forall_not_mem.2 fun o ho => ?_, x, rfl, ?_⟩
      · obtain ⟨e', he', hmade⟩ := get?_publish.1 ho
        obtain rfl : e' = e :=
          Option.some.inj ((mem_entities.1 he').1.symm.trans (mem_entities.1 he).1)
        cases hresult.symm.trans hmade
      · exact MetadataException.concerns_iff.2 (hmake entity e x hresult)
  · obtain ⟨e, he, -⟩ := get?_publish.1 ho
    exact ⟨e, he⟩
  · obtain ⟨entity, e, he, hresult⟩ := (mem_problems hnew).1 hx
    exact ⟨entity, e, he, MetadataException.concerns_iff.2 (hmake entity e x hresult)⟩

theorem failed_record {x : MetadataException} (hstate : p.state = {}) (hx : x.IsGeneral p.name) :
    (p.record x).Failed := by
  refine ⟨?_, ?_, x, ?_, hx⟩ <;> simp [record, ProviderState.record, hstate]

/-- **What an initialization comes to** is all that there is to know, or nothing -/
theorem learned_or_failed {succeeded : Bool} (hstate : p.state = {}) (h : ComesTo p succeeded q) :
    q.name = p.name ∧ q.config = p.config ∧ ((succeeded = true ∧ q.Learned) ∨ (succeeded = false ∧ q.Failed)) := by
  cases h with
  | learned make hmake => exact ⟨rfl, rfl, .inl ⟨rfl, learned_publish hstate hmake⟩⟩
  | failed x hsource hentity => exact ⟨rfl, rfl, .inr ⟨rfl, failed_record hstate ⟨hsource, hentity⟩⟩⟩

end Ends

section Known

variable {p : Provider} {entity : String}

theorem mem_problemsWith {x : MetadataException} :
    x ∈ p.problemsWith entity ↔ x ∈ p.state.exceptions ∧ x.entity? = some entity := by
  rw [problemsWith, List.mem_filter, beq_iff_eq]

theorem Learned.nothing (h : p.Learned) (hnot : ∀ e, (entity, e) ∉ p.entities) :
    p.state.objects.get? entity = none ∧ p.problemsWith entity = [] := by
  constructor
  · refine Option.eq_none_iff_forall_not_mem.2 fun o ho => ?_
    obtain ⟨e, he⟩ := h.objects entity o ho
    exact hnot e he
  · refine List.eq_nil_iff_forall_not_mem.2 fun x hx => ?_
    obtain ⟨hx, hentity⟩ := mem_problemsWith.1 hx
    obtain ⟨entity', e, he, hconcerns⟩ := h.exceptions x hx
    obtain rfl : entity' = entity := Option.some.inj ((MetadataException.concerns_iff.1 hconcerns).2.symm.trans hentity)
    exact hnot e he

/-- each problem is the one of an entity -/
theorem Learned.problem (h : p.Learned) {x : MetadataException} (hx : x ∈ p.state.exceptions) :
    ∃ entity e, (entity, e) ∈ p.entities ∧ p.problemsWith entity = [x] := by
  obtain ⟨entity, e, he, hconcerns⟩ := h.exceptions x hx
  have hmem : x ∈ p.problemsWith entity :=
    mem_problemsWith.2 ⟨hx, (MetadataException.concerns_iff.1 hconcerns).2⟩
  refine ⟨entity, e, he, ?_⟩
  obtain ⟨-, hnone⟩ | ⟨-, y, hy, -⟩ := h.accounts entity e he
  · rw [hnone] at hmem
    cases hmem
  · rw [hy, List.mem_singleton] at hmem
    rw [hy, hmem]

theorem Failed.nothing (h : p.Failed) : p.state.objects.get? entity = none ∧ p.problemsWith entity = [] := by
  obtain ⟨x, hx, -, hgeneral⟩ := h.exceptions
  refine ⟨by rw [h.objects, NameMap.get?_empty], ?_⟩
  simp [problemsWith, hx, hgeneral]

end Known

end Provider

/-! ## Sets that are prepared -/

namespace ProviderSet

/-- initializations end in any order -/
theorem settles_perm {order tasks : List SourceTask} (hperm : order.Perm tasks) (hnames : (tasks.map (·.name)).Nodup)
    (set : ProviderSet) : order.foldl settle set = tasks.foldl settle set := by
  refine hperm.foldl_eq' (fun t ht u hu set => ?_) set
  by_cases hname : t.name = u.name
  · rw [List.inj_on_of_nodup_map hnames (hperm.subset ht) (hperm.subset hu) hname]
  · exact settle_comm set hname

theorem mem_report {tasks : List SourceTask} {name : String} :
    (name ∈ (report tasks).succeeded ↔ ∃ t ∈ tasks, t.name = name ∧ t.ending.succeeds = true) ∧
      (name ∈ (report tasks).failed ↔ ∃ t ∈ tasks, t.name = name ∧ t.ending.succeeds = false) := by
  simp only [report, List.mem_map, List.mem_filter, and_assoc, Bool.not_eq_true']
  constructor <;> exact exists_congr fun t => and_congr_right fun _ => and_comm

theorem perm_report (tasks : List SourceTask) :
    ((report tasks).succeeded ++ (report tasks).failed).Perm (tasks.map (·.name)) := by
  unfold report
  rw [← List.map_append]
  exact (List.filter_append_perm (·.ending.succeeds) tasks).map _

end ProviderSet

section Prepared

variable {i : Introspectors ι} {limit : Duration} {now : Nat} {memory : ι} {s : Snapshot} {set : ProviderSet}
  {report : InitializationReport} {rest : Nat × ι}

theorem report_of_prepare {made : ProviderSet}
    (hprepare : ProviderSet.prepare i limit now s memory = .ok (set, report, rest))
    (hmade : ProviderSet.ofSnapshot i s = .ok made) :
    report = ProviderSet.report (made.launch i limit now memory).2.1 := by
  rw [prepare_of_made hmade] at hprepare
  cases hprepare
  rfl

/-- **Each provider of a set that is prepared** has learned all that there is to know, or failed, and the report says
which -/
theorem prepared (hprepare : ProviderSet.prepare i limit now s memory = .ok (set, report, rest)) {name : String}
    {q : Provider} (hq : set.find name = .ok q) :
    q.name = name ∧ q.config = s.config ∧
      ((name ∈ report.succeeded ∧ name ∉ report.failed ∧ q.Learned) ∨
        (name ∈ report.failed ∧ name ∉ report.succeeded ∧ q.Failed)) := by
  have hbuilt := builtFrom_prepare hprepare
  obtain ⟨made, hmade, rfl⟩ := prepare_made hprepare
  obtain rfl := report_of_prepare hprepare hmade
  obtain ⟨p, hp⟩ := made_of_found hmade hbuilt hq
  have hentry := (NameMap.mem_entries_iff _ _ _).2 hp
  obtain ⟨hname, hstate⟩ := ProviderSet.made_ofSnapshot hmade _ hentry
  obtain ⟨_, ht, htname, ⟨m, rfl⟩, hlearned⟩ := get?_learned i limit now memory (ProviderSet.named_ofSnapshot hmade) hp
  cases hlearned.symm.trans (find_ok.1 hq)
  obtain ⟨hqname, hqconfig, hends⟩ := Provider.learned_or_failed hstate (Provider.comesTo_launch hstate)
  have hother : ∀ succeeds, (p.launch i limit now m).2.1.ending.succeeds = succeeds →
      ∀ u ∈ (made.launch i limit now memory).2.1, u.name = name → u.ending.succeeds ≠ !succeeds := by
    rintro succeeds rfl u hu huname
    rw [task_unique i (ProviderSet.named_ofSnapshot hmade) hu ht (huname.trans htname.symm)]
    cases (p.launch i limit now m).2.1.ending.succeeds <;> decide
  refine ⟨hqname.trans hname, hqconfig.trans ((builtFrom_ofSnapshot hmade).configs _ hentry), ?_⟩
  rw [ProviderSet.mem_report.1, ProviderSet.mem_report.2]
  rcases hends with ⟨hsucceeds, hq⟩ | ⟨hsucceeds, hq⟩
  · exact .inl ⟨⟨_, ht, htname, hsucceeds⟩, fun ⟨u, hu, huname, h⟩ => hother _ hsucceeds u hu huname h, hq⟩
  · exact .inr ⟨⟨_, ht, htname, hsucceeds⟩, fun ⟨u, hu, huname, h⟩ => hother _ hsucceeds u hu huname h, hq⟩

theorem reported (hprepare : ProviderSet.prepare i limit now s memory = .ok (set, report, rest)) :
    (report.succeeded ++ report.failed).Perm set.providers.names := by
  have hbuilt := builtFrom_prepare hprepare
  obtain ⟨made, hmade, rfl⟩ := prepare_made hprepare
  obtain rfl := report_of_prepare hprepare hmade
  rw [hbuilt.names, ← (builtFrom_ofSnapshot hmade).names, ← names_values (ProviderSet.named_ofSnapshot hmade),
    ← (names_launch i limit now memory (ProviderSet.named_ofSnapshot hmade)).2]
  exact ProviderSet.perm_report _

/-- a set and its report account for each entity of a configuration -/
structure ProviderSet.Accounts (set : ProviderSet) (c : RuntimeConfig) (report : InitializationReport) : Prop where
  /-- the data source of every entity is there -/
  bound : ∀ entity e, c.entities.get? entity = some e → ∃ p, set.find (c.sourceOf e) = .ok p
  /-- what is found for a data source is its own provider -/
  named : ∀ name p, set.find name = .ok p → p.name = name
  /-- every data source is in the report once -/
  reported : (report.succeeded ++ report.failed).Perm set.providers.names
  /-- if the data source of an entity succeeded, the entity has an object or one problem -/
  succeeded : ∀ entity e p, c.entities.get? entity = some e → set.find (c.sourceOf e) = .ok p →
    c.sourceOf e ∈ report.succeeded → p.state.initialized = true ∧ p.AccountsFor entity
  /-- if a data source failed, nothing is known but that -/
  failed : ∀ name p, set.find name = .ok p → name ∈ report.failed → p.Failed
  /-- no other data source has anything about an entity -/
  others : ∀ entity e name p, c.entities.get? entity = some e → set.find name = .ok p → name ≠ c.sourceOf e →
    p.state.objects.get? entity = none ∧ p.problemsWith entity = []
  /-- there are no other problems -/
  exceptions : ∀ x ∈ set.exceptions,
    (∃ entity e p, c.entities.get? entity = some e ∧ c.sourceOf e ∈ report.succeeded ∧
      set.find (c.sourceOf e) = .ok p ∧ p.problemsWith entity = [x]) ∨
    ∃ name p, name ∈ report.failed ∧ set.find name = .ok p ∧ p.state.exceptions = [x] ∧ x.IsGeneral name

/-- **Every entity is accounted for**: a configuration that was checked is prepared with an object or one problem for
each entity of a data source that succeeded, one problem for each data source that failed, and nothing else, in
whatever order the initializations end -/
theorem every_entity_is_accounted_for (hvalid : s.config.checkProperties = .ok ())
    (hprepare : ProviderSet.prepare i limit now s memory = .ok (set, report, rest)) :
    set.Accounts s.config report ∧ ∀ made (order : List SourceTask), ProviderSet.ofSnapshot i s = .ok made →
      order.Perm (made.launch i limit now memory).2.1 →
        order.foldl ProviderSet.settle (made.launch i limit now memory).1 = set := by
  have hentities : ∀ {name q entity e}, set.find name = .ok q →
      ((entity, e) ∈ q.entities ↔ s.config.entities.get? entity = some e ∧ s.config.sourceOf e = name) := by
    intro name q entity e hq
    obtain ⟨hname, hconfig, -⟩ := prepared hprepare hq
    rw [Provider.mem_entities, hname, hconfig]
  refine ⟨⟨?bound, ?named, reported hprepare, ?succeeded, ?failed, ?others, ?exceptions⟩, ?order⟩
  case named => exact fun _ _ hp => (prepared hprepare hp).1
  case bound =>
    intro entity e he
    have hmem := (NameMap.mem_entries_iff _ _ _).2 he
    exact find_of_builtFrom (builtFrom_prepare hprepare) (contains_sourceOf hvalid _ hmem)
  case succeeded =>
    intro entity e p he hp hsucceeded
    obtain ⟨-, -, ⟨-, -, hlearned⟩ | ⟨-, hnot, -⟩⟩ := prepared hprepare hp
    · exact ⟨hlearned.initialized, hlearned.accounts entity e ((hentities hp).2 ⟨he, rfl⟩)⟩
    · exact absurd hsucceeded hnot
  case failed =>
    intro name p hp hmem
    obtain ⟨-, -, ⟨-, hnot, -⟩ | ⟨-, -, hfailed⟩⟩ := prepared hprepare hp
    · exact absurd hmem hnot
    · exact hfailed
  case others =>
    intro entity e name p he hp hother
    obtain ⟨-, -, ⟨-, -, hlearned⟩ | ⟨-, -, hfailed⟩⟩ := prepared hprepare hp
    · refine hlearned.nothing fun e' he' => ?_
      obtain ⟨hentity, hsource⟩ := (hentities hp).1 he'
      obtain rfl : e' = e := Option.some.inj (hentity.symm.trans he)
      exact hother hsource.symm
    · exact hfailed.nothing
  case exceptions =>
    intro x hx
    obtain ⟨p, hp, hx⟩ := List.mem_flatMap.1 hx
    obtain ⟨⟨name, p⟩, hentry, rfl⟩ := List.mem_map.1 hp
    have hfind := find_ok.2 ((NameMap.mem_entries_iff _ _ _).1 hentry)
    obtain ⟨hname, -, ⟨hsucceeded, -, hlearned⟩ | ⟨hmem, -, hfailed⟩⟩ := prepared hprepare hfind
    · obtain ⟨entity, e, he, hproblem⟩ := hlearned.problem hx
      obtain ⟨hentity, rfl⟩ := (hentities hfind).1 he
      exact .inl ⟨entity, e, p, hentity, hsucceeded, hfind, hproblem⟩
    · obtain ⟨y, hy, hgeneral⟩ := hfailed.exceptions
      rw [hy, List.mem_singleton] at hx
      subst hx
      exact .inr ⟨name, p, hmem, hfind, hy, hname ▸ hgeneral⟩
  case order =>
    intro made order hmade hperm
    obtain ⟨hnodup, hnames⟩ := names_launch i limit now memory (ProviderSet.named_ofSnapshot hmade)
    rw [ProviderSet.settles_perm hperm (hnames ▸ hnodup)]
    obtain ⟨made', hmade', rfl⟩ := prepare_made hprepare
    cases hmade.symm.trans hmade'
    rfl

end Prepared

/-! ### A library and its archive -/

/-- the books of a library, and an archive that is far away -/
def stockConfig : RuntimeConfig :=
  { World.plainConfig with
    dataSources := World.plainConfig.dataSources.insert "archive"
      { databaseType := .postgres, connectionString := "far" },
    entities := (((NameMap.empty.insert "books" { source := { object := "books" } }).insert
      "ghosts" { source := { object := "ghosts" } }).insert "heaps" { source := { object := "heaps" } }).insert
      "notes" { source := { object := "notes" }, dataSource := some "archive" } }

/-- a database with books that have a key and heaps that have none, and one that cannot be reached -/
def stockDatabases : Introspectors Unit where
  serves _ := true
  ask _ source _ memory :=
    let books : DatabaseObject := { schema := some "public", name := "books", primaryKey := ["id"] }
    let heaps : DatabaseObject := { schema := some "public", name := "heaps" }
    (⟨some ⟨0⟩, if source.connectionString = "far" then .aborted "no route" else .found [books, heaps]⟩, memory)

theorem stock_is_accounted_for : ∃ set rest,
    ProviderSet.prepare stockDatabases (.ofSeconds 15) 0 ⟨0, stockConfig⟩ () =
      .ok (set, ⟨["default"], ["archive"]⟩, rest) ∧
    set.exceptions.map (·.entity?) = [none, some "ghosts", some "heaps"] ∧
    set.Accounts stockConfig ⟨["default"], ["archive"]⟩ := by
  obtain ⟨set, rest, hprepare, hproblems⟩ : ∃ set rest,
      ProviderSet.prepare stockDatabases (.ofSeconds 15) 0 ⟨0, stockConfig⟩ () =
        .ok (set, ⟨["default"], ["archive"]⟩, rest) ∧
      set.exceptions.map (·.entity?) = [none, some "ghosts", some "heaps"] := ⟨_, _, rfl, rfl⟩
  exact ⟨set, rest, hprepare, hproblems, (every_entity_is_accounted_for rfl hprepare).1⟩

end EntityGateway
