/-
What a provider knows after an initialization.

A provider publishes an object or a problem for each entity that is bound to its data source, and for no other. An
initialization of a provider that knows nothing yet ends in that, or in one problem with the data source as a whole.

- `get?_publish`, `problemsWith_publish`: what is published about an entity;
- `comesTo_launch`: the two ends of an initialization.
-/
import EntityGateway.Proofs.Orchestration.Building

namespace EntityGateway

/-! ## What is published -/

namespace Provider

variable {p : Provider} {make : String → Entity → Except MetadataException DatabaseObject} {entity : String}
  {e : Entity}

theorem mem_entities :
    (entity, e) ∈ p.entities ↔ p.config.entities.get? entity = some e ∧ p.config.sourceOf e = p.name := by
  unfold entities RuntimeConfig.entitiesOn
  rw [List.mem_filter, NameMap.mem_entries_iff, beq_iff_eq]

theorem nodup_entities (p : Provider) : (p.entities.map (·.1)).Nodup :=
  p.config.entities.nodup_names.sublist (List.filter_sublist.map _)

theorem sublist_objectsOf (made : List (String × Except MetadataException DatabaseObject)) :
    ((made.filterMap fun m => m.2.toOption.map fun o => (m.1, o)).map (·.1)).Sublist (made.map (·.1)) := by
  induction made with
  | nil => exact .slnil
  | cons m made ih =>
    obtain ⟨name, result⟩ := m
    cases result with
    | ok o => exact ih.cons_cons name
    | error x => exact ih.cons name

theorem get?_publish {o : DatabaseObject} :
    (p.publish make).state.objects.get? entity = some o ↔ ∃ e, (entity, e) ∈ p.entities ∧ make entity e = .ok o := by
  have hnames : ((p.entities.map fun e => (e.1, make e.1 e.2)).map (·.1)).Nodup := by
    rw [List.map_map]
    exact p.nodup_entities
  show (objectsOf (p.entities.map fun e => (e.1, make e.1 e.2))).get? entity = some o ↔ _
  rw [objectsOf, NameMap.get?_ofList (hnames.sublist (sublist_objectsOf _))]
  simp only [List.mem_filterMap, List.mem_map, Option.map_eq_some_iff, Prod.mk.injEq]
  constructor
  · rintro ⟨_, ⟨⟨name, e⟩, he, rfl⟩, o', hmade, rfl, rfl⟩
    refine ⟨e, he, ?_⟩
    cases hresult : make name e with
    | ok o =>
      rw [hresult] at hmade
      exact congrArg Except.ok (Option.some.inj hmade)
    | error x =>
      rw [hresult] at hmade
      cases hmade
  · rintro ⟨e, he, hmade⟩
    exact ⟨(entity, make entity e), ⟨(entity, e), he, rfl⟩, o, by rw [hmade]; rfl, rfl, rfl⟩

def problemsWith (p : Provider) (entity : String) : List MetadataException :=
  p.state.exceptions.filter (·.entity? == some entity)

/-- what is made for the entities of a data source fails with problems about these entities -/
def Attributes (source : String) (make : String → Entity → Except MetadataException DatabaseObject) : Prop :=
  ∀ entity e x, make entity e = .error x → x.dataSource = source ∧ x.entity? = some entity

theorem mem_problems {x : MetadataException} (hnew : p.state.exceptions = []) :
    x ∈ (p.publish make).state.exceptions ↔ ∃ entity e, (entity, e) ∈ p.entities ∧ make entity e = .error x := by
  show x ∈ p.state.exceptions ++ problemsOf (p.entities.map fun e => (e.1, make e.1 e.2)) ↔ _
  rw [hnew, List.nil_append]
  simp only [problemsOf, List.mem_filterMap, List.mem_map]
  constructor
  · rintro ⟨_, ⟨⟨name, e⟩, he, rfl⟩, hproblem⟩
    refine ⟨name, e, he, ?_⟩
    cases hresult : make name e with
    | ok o => simp [problem?, hresult] at hproblem
    | error y =>
      simp only [problem?, hresult, Option.some.injEq] at hproblem
      rw [hproblem]
  · rintro ⟨name, e, he, hmade⟩
    exact ⟨(name, make name e), ⟨(name, e), he, rfl⟩, by simp [problem?, hmade]⟩

theorem filter_problem? (hmake : Attributes p.name make) (name : String) (e : Entity) :
    (problem? (make name e)).toList.filter (·.entity? == some entity) =
      if name == entity then (problem? (make name e)).toList else [] := by
  cases hresult : make name e with
  | ok o => split <;> rfl
  | error x =>
    have hx : x.entity? = some name := (hmake name e x hresult).2
    simp [problem?, List.filter_cons, hx]

theorem filter_problems (hmake : Attributes p.name make) (l : List (String × Entity)) :
    (problemsOf (l.map fun e => (e.1, make e.1 e.2))).filter (·.entity? == some entity) =
      (l.filter (·.1 == entity)).flatMap fun e => (problem? (make e.1 e.2)).toList := by
  induction l with
  | nil => rfl
  | cons e rest ih =>
    have hcons : problemsOf ((e :: rest).map fun e => (e.1, make e.1 e.2)) =
        (problem? (make e.1 e.2)).toList ++ problemsOf (rest.map fun e => (e.1, make e.1 e.2)) := by
      cases hproblem : problem? (make e.1 e.2) <;> simp [problemsOf, hproblem]
    rw [hcons, List.filter_append, ih, filter_problem? hmake, List.filter_cons]
    split_ifs <;> rfl

/-- an entity has the one problem that its object could not be made, or none -/
theorem problemsWith_publish (hmake : Attributes p.name make) (hnew : p.state.exceptions = [])
    (he : (entity, e) ∈ p.entities) :
    (p.publish make).problemsWith entity = (problem? (make entity e)).toList := by
  show (p.state.exceptions ++ problemsOf _).filter _ = _
  rw [hnew, List.nil_append, filter_problems hmake, NameMap.filter_eq_of_mem p.nodup_entities he]
  rw [List.flatMap_cons, List.flatMap_nil, List.append_nil]

/-! ## What initializations come to -/

/-- an object that an entity uses with some key, or a problem of an entity that cannot use it -/
inductive Checked (source entity : String) (o : DatabaseObject) : Except MetadataException DatabaseObject → Prop
  | used (key : List String) : Checked source entity o (.ok { o with primaryKey := key })
  | refused (x : MetadataException) (hsource : x.dataSource = source) (hentity : x.entity? = some entity) :
      Checked source entity o (.error x)

theorem checked_checkObject (source : String) (d : Dialect) (entity : String) (keyFields : List String)
    (o : DatabaseObject) : Checked source entity o (checkObject source d entity keyFields o) := by
  unfold checkObject
  split
  · split
    · exact .refused _ rfl rfl
    · exact .used o.primaryKey
  all_goals
    split
    · exact .refused _ rfl rfl
    · -- the key is that of the object, or the one that the entity names
      simp only
      split
      · split
        · exact .refused _ rfl rfl
        · exact .used o.primaryKey
      · exact .used keyFields

theorem attributes_entityObject (source : String) (d : Dialect) (found : List DatabaseObject) :
    Attributes source (entityObject source d found) := by
  intro entity e x h
  unfold entityObject at h
  split at h
  · cases h ▸ checked_checkObject source d entity e.source.keyFields _ with
    | refused _ hsource hentity => exact ⟨hsource, hentity⟩
  · cases h
    exact ⟨rfl, rfl⟩

/-- the object of an entity in a document store, or a problem of this entity -/
theorem attributes_modelObject (source : String) (database : Option String) (models : NameMap (List Column)) :
    Attributes source (modelObject source database models) := by
  intro entity e x h
  unfold modelObject at h
  split at h <;> cases h
  exact ⟨rfl, rfl⟩

/-- what comes of a provider: something about each of its entities, or one problem with the data source -/
inductive ComesTo (p : Provider) : Bool → Provider → Prop
  | learned (make : String → Entity → Except MetadataException DatabaseObject) (hmake : Attributes p.name make) :
      ComesTo p true (p.publish make)
  | failed (x : MetadataException) (hsource : x.dataSource = p.name) (hentity : x.entity? = none) :
      ComesTo p false (p.record x)

theorem not_atOnce_ofAnswer (name : String) (now : Nat) (limit : Duration) (a : Answer) (x : Option MetadataException) :
    (SourceTask.ofAnswer name now limit a).ending ≠ .atOnce x := by
  unfold SourceTask.ofAnswer
  split
  · split_ifs <;> rintro ⟨⟩
  · rintro ⟨⟩

theorem comesTo_answer {d : Dialect} (hkind : p.kind = .sql d) (ending : Ending) (hasked : ∀ x, ending ≠ .atOnce x) :
    ComesTo p ending.succeeds (p.finish ending) := by
  rcases ending with (found | error | reason) | after | x
  · unfold finish publishFound
    rw [hkind]
    exact .learned _ (attributes_entityObject p.name d found)
  · exact .failed _ rfl rfl
  · exact .failed _ rfl rfl
  · exact .failed _ rfl rfl
  · exact absurd rfl (hasked x)

def forgotten (p : Provider) : Provider := { p with state := p.state.reset }

theorem begin_sql {d : Dialect} {source : DataSource} (hkind : p.kind = .sql d) (hsource : p.source? = some source) :
    p.begin = (p.forgotten, .asks d source (refs d p.entities)) := by
  obtain ⟨name, kind, config, state⟩ := p
  subst hkind
  have hreset : Provider.source? ⟨name, .sql d, config, state.reset⟩ = some source := hsource
  unfold begin
  simp only [hreset]
  rfl

theorem begin_unbound {d : Dialect} (hkind : p.kind = .sql d) (hsource : p.source? = none) :
    p.begin = (p.forgotten.record (.introspection p.name notBound), .over (some (.introspection p.name notBound))) := by
  obtain ⟨name, kind, config, state⟩ := p
  subst hkind
  have hreset : Provider.source? ⟨name, .sql d, config, state.reset⟩ = none := hsource
  unfold begin
  simp only [hreset]
  rfl

/-- the three ways in which an initialization begins, whatever is known already -/
theorem begin_cases (p : Provider) :
    (∃ d source, p.kind = .sql d ∧ p.begin = (p.forgotten, .asks d source (refs d p.entities))) ∨
      (∃ x, x.dataSource = p.name ∧ x.entity? = none ∧ p.begin = (p.forgotten.record x, .over (some x))) ∨
      ∃ make, Attributes p.name make ∧ p.begin = (p.forgotten.publish make, .over none) := by
  obtain ⟨name, kind, config, state⟩ := p
  cases kind with
  | sql d =>
    cases hsource : Provider.source? ⟨name, .sql d, config, state⟩ with
    | some source => exact .inl ⟨d, source, rfl, begin_sql rfl hsource⟩
    | none => exact .inr (.inl ⟨.introspection name notBound, rfl, rfl, begin_unbound rfl hsource⟩)
  | documentStore =>
    cases hschema : Provider.schemaText ⟨name, .documentStore, config, state⟩ with
    | none =>
      have hreset : Provider.schemaText ⟨name, .documentStore, config, state.reset⟩ = none := hschema
      refine .inr (.inl ⟨.missingSchema name, rfl, rfl, ?_⟩)
      unfold begin
      simp only [hreset]
      rfl
    | some schema =>
      have hreset : Provider.schemaText ⟨name, .documentStore, config, state.reset⟩ = some schema := hschema
      let database := (Provider.source? ⟨name, .documentStore, config, state⟩).bind (·.textOption "database")
      refine .inr (.inr ⟨modelObject name database (ModelSchema.models schema), ?_, ?_⟩)
      · exact attributes_modelObject name database _
      · unfold begin
        simp only [hreset]
        rfl

theorem forgotten_of_new (hstate : p.state = {}) : p.forgotten = p := by
  cases p
  cases hstate
  rfl

theorem begin_of_new (hstate : p.state = {}) :
    (∃ d source, p.kind = .sql d ∧ p.begin = (p, .asks d source (refs d p.entities))) ∨
      (∃ x, x.dataSource = p.name ∧ x.entity? = none ∧ p.begin = (p.record x, .over (some x))) ∨
      ∃ make, Attributes p.name make ∧ p.begin = (p.publish make, .over none) := by
  have hbegin := p.begin_cases
  rwa [forgotten_of_new hstate] at hbegin

/-- **An initialization comes to one of two ends**, whatever the answer is and whether there is one -/
theorem comesTo_launch {i : Introspectors ι} {limit : Duration} {now : Nat} {memory : ι} (hstate : p.state = {}) :
    ComesTo p (p.launch i limit now memory).2.1.ending.succeeds
      (p.begin.1.finish (p.launch i limit now memory).2.1.ending) := by
  unfold launch
  rcases begin_of_new hstate with ⟨d, source, hkind, hbegin⟩ | ⟨x, hsource, hentity, hbegin⟩ | ⟨make, hmake, hbegin⟩
  · rw [hbegin]
    exact comesTo_answer hkind _ (not_atOnce_ofAnswer p.name now limit _)
  · rw [hbegin]
    exact .failed x hsource hentity
  · rw [hbegin]
    exact .learned make hmake

end Provider

end EntityGateway
