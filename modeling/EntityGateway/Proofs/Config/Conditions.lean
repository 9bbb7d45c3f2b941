/-
What a configuration has to be like, and which error it gets if it is not.

The check of properties goes through conditions in a fixed order: those on the data sources as a whole, on each data
source by name, on the endpoints, and on each entity by name. It ends with the error of the first condition that does
not hold. A route counts as taken if an entity of an earlier name has it, so the first condition on routes that does not
hold names a route that two entities have.

- `Decides`: a check and the conditions that it goes through; `Decides.bind` and `Decides.forM` put checks together;
- `decides_checkProperties`: the conditions of the check of properties, in order;
- `wellFormed_iff`: all of them together, without an order;
- `properties_are_decided`: the whole of it.
-/
import EntityGateway.Config.Check
import Mathlib.Tactic

namespace EntityGateway

/-! ## Checks that can fail -/

section Outcomes

variable {ε α : Type} {check next : Except ε Unit} {f : α → Except ε Unit} {l : List α}

theorem ensure_ok {condition : Bool} {e : ConfigError} :
    RuntimeConfig.ensure condition e = .ok () ↔ condition = true := by
  unfold RuntimeConfig.ensure
  cases condition <;> simp

theorem bind_ok : (check >>= fun _ => next) = .ok () ↔ check = .ok () ∧ next = .ok () := by
  cases check <;> simp [bind, Except.bind]

theorem forM_ok : l.forM f = .ok () ↔ ∀ x ∈ l, f x = .ok () := by
  induction l with
  | nil => simp [pure, Except.pure]
  | cons x l ih => rw [List.forall_mem_cons, ← ih, List.forM, bind_ok]

theorem error_of_forM {e : ε} (h : l.forM f = .error e) : ∃ x ∈ l, f x = .error e := by
  induction l with
  | nil => cases h
  | cons x l ih =>
    rw [List.forM] at h
    cases hx : f x with
    | error e' =>
      rw [hx] at h
      cases h
      exact ⟨x, List.mem_cons_self, hx⟩
    | ok _ =>
      rw [hx] at h
      obtain ⟨y, hy, he⟩ := ih h
      exact ⟨y, List.mem_cons_of_mem _ hy, he⟩

end Outcomes

/-! ## Checks of conditions -/

def AllHold (l : List (Prop × ConfigError)) : Prop := ∀ x ∈ l, x.1

/-- an error is that of the first condition that does not hold -/
def FirstBroken (l : List (Prop × ConfigError)) (e : ConfigError) : Prop :=
  ∃ before p after, l = before ++ (p, e) :: after ∧ AllHold before ∧ ¬ p

/-- a check goes through conditions in order -/
structure Decides (check : Except ConfigError Unit) (l : List (Prop × ConfigError)) : Prop where
  ok : check = .ok () ↔ AllHold l
  error : ∀ e, check = .error e ↔ FirstBroken l e

section Checks

variable {l l' : List (Prop × ConfigError)} {p : Prop} {e e' : ConfigError} {check next : Except ConfigError Unit}

@[simp] theorem allHold_nil : AllHold [] := List.forall_mem_nil _

theorem allHold_cons : AllHold ((p, e) :: l) ↔ p ∧ AllHold l := List.forall_mem_cons

theorem allHold_append : AllHold (l ++ l') ↔ AllHold l ∧ AllHold l' := List.forall_mem_append

theorem allHold_flatMap {α : Type} {conditions : α → List (Prop × ConfigError)} {items : List α} :
    AllHold (items.flatMap conditions) ↔ ∀ x ∈ items, AllHold (conditions x) := by
  unfold AllHold
  simp only [List.mem_flatMap, forall_exists_index, and_imp]
  exact ⟨fun h x hx y hy => h y x hx hy, fun h y x hx hy => h x hx y hy⟩

theorem not_firstBroken_nil : ¬ FirstBroken [] e := by
  rintro ⟨before, p, after, h, -⟩
  cases before <;> cases h

theorem firstBroken_cons : FirstBroken ((p, e) :: l) e' ↔ (¬ p ∧ e' = e) ∨ (p ∧ FirstBroken l e') := by
  constructor
  · rintro ⟨before, q, after, h, hbefore, hq⟩
    rcases List.cons_eq_append_iff.1 h with ⟨rfl, h⟩ | ⟨rest, rfl, rfl⟩
    · cases h
      exact .inl ⟨hq, rfl⟩
    · obtain ⟨hp, hrest⟩ := allHold_cons.1 hbefore
      exact .inr ⟨hp, rest, q, after, rfl, hrest, hq⟩
  · rintro (⟨hp, rfl⟩ | ⟨hp, before, q, after, rfl, hbefore, hq⟩)
    · exact ⟨[], p, l, rfl, by simp, hp⟩
    · exact ⟨(p, e) :: before, q, after, rfl, allHold_cons.2 ⟨hp, hbefore⟩, hq⟩

theorem firstBroken_append : FirstBroken (l ++ l') e ↔ FirstBroken l e ∨ (AllHold l ∧ FirstBroken l' e) := by
  induction l with
  | nil => simp [not_firstBroken_nil, AllHold]
  | cons x l ih =>
    obtain ⟨p, e'⟩ := x
    rw [List.cons_append, firstBroken_cons, firstBroken_cons, ih, allHold_cons]
    tauto

theorem not_allHold_of_firstBroken (h : FirstBroken l e) : ¬ AllHold l := by
  obtain ⟨before, p, after, rfl, -, hp⟩ := h
  exact fun hall => hp (hall (p, e) (List.mem_append_right _ List.mem_cons_self))

namespace Decides

theorem nil : Decides (.ok ()) [] := ⟨by simp, fun e => by simp [not_firstBroken_nil]⟩

theorem ensure {condition : Bool} (h : condition = true ↔ p) : Decides (RuntimeConfig.ensure condition e) [(p, e)] := by
  refine ⟨?_, fun e' => ?_⟩
  · rw [ensure_ok, allHold_cons, ← h]
    simp
  · rw [firstBroken_cons, ← h, RuntimeConfig.ensure]
    cases condition <;> simp [not_firstBroken_nil, eq_comm]

theorem bind (h : Decides check l) (h' : Decides next l') : Decides (check >>= fun _ => next) (l ++ l') := by
  cases check with
  | ok _ =>
    have hall : AllHold l := h.ok.1 rfl
    have hnone : ∀ e, ¬ FirstBroken l e := fun e he => not_allHold_of_firstBroken he hall
    refine ⟨?_, fun e => ?_⟩
    · rw [allHold_append, ← h'.ok]
      simp [hall, Bind.bind, Except.bind]
    · rw [firstBroken_append, ← h'.error]
      simp [hall, hnone, Bind.bind, Except.bind]
  | error e =>
    have hbroken : FirstBroken l e := (h.error e).1 rfl
    have hnot : ¬ AllHold l := not_allHold_of_firstBroken hbroken
    refine ⟨?_, fun e' => ?_⟩
    · rw [allHold_append]
      simp [hnot, Bind.bind, Except.bind]
    · rw [firstBroken_append, ← h.error]
      simp [hnot, Bind.bind, Except.bind]

theorem ensure_bind {condition : Bool} (h : condition = true ↔ p) (h' : Decides next l) :
    Decides (RuntimeConfig.ensure condition e >>= fun _ => next) ((p, e) :: l) := (ensure h).bind h'

theorem forM {α : Type} {f : α → Except ConfigError Unit} {conditions : α → List (Prop × ConfigError)} (items : List α)
    (h : ∀ x ∈ items, Decides (f x) (conditions x)) : Decides (items.forM f) (items.flatMap conditions) := by
  induction items with
  | nil => exact nil
  | cons x items ih =>
    obtain ⟨hx, hitems⟩ := List.forall_mem_cons.1 h
    exact hx.bind (ih hitems)

theorem skip (hp : p) (h : Decides check l) : Decides check ((p, e) :: l) := by
  refine ⟨?_, fun e' => ?_⟩
  · rw [allHold_cons, h.ok]
    simp [hp]
  · rw [firstBroken_cons, h.error]
    simp [hp]

end Decides

end Checks

/-! ## Properties -/

namespace RuntimeConfig

def sourceConditions (name : String) (source : DataSource) : List (Prop × ConfigError) :=
  [(source.databaseType.isRelational = true → Text.isBlank source.connectionString = false,
      .validation ("data source '" ++ name ++ "' (" ++ source.databaseType.name ++ ") requires a connection string")),
    (source.databaseType = .documentStore → ∃ database, source.options.get? "database" = some (.string database),
      .validation ("data source '" ++ name ++ "' (cosmosdb_nosql) requires options.database"))]

def endpointConditions (rest graphql : Endpoint) : List (Prop × ConfigError) :=
  [(Text.startsWith '/' rest.path = true, .validation ("rest path must start with '/': " ++ rest.path)),
    (Text.startsWith '/' graphql.path = true, .validation ("graphql path must start with '/': " ++ graphql.path)),
    (rest.enabled = true → graphql.enabled = true → rest.path ≠ graphql.path,
      .validation ("rest and graphql cannot share the path " ++ rest.path))]

/-- no entity of an earlier name has the route of an entity -/
def RouteFree (c : RuntimeConfig) (name : String) (e : Entity) : Prop :=
  ∀ other e', other < name → c.entities.get? other = some e' → e'.rest.enabled = true →
    restPath other e' ≠ restPath name e

def ownConditions (c : RuntimeConfig) (name : String) (e : Entity) : List (Prop × ConfigError) :=
  [((∃ source, c.dataSources.get? (c.sourceOf e) = some source), .missingReference "data source" (c.sourceOf e)),
    (Text.isBlank e.source.object = false, .validation ("entity '" ++ name ++ "' has an empty source object")),
    (e.isProcedure = true → e.source.keyFields = [],
      .validation ("entity '" ++ name ++ "': key-fields are not allowed on stored procedures"))]

def entityConditions (c : RuntimeConfig) (name : String) (e : Entity) : List (Prop × ConfigError) :=
  c.ownConditions name e ++ [(e.rest.enabled = true → c.RouteFree name e, .duplicatePath (restPath name e))]

/-- the conditions on a configuration: on its data sources by name, on its endpoints, and on its entities by name -/
def conditions (c : RuntimeConfig) : List (Prop × ConfigError) :=
  [(c.dataSources.entries ≠ [], .validation "at least one data source is required"),
    ((∃ source, c.dataSources.get? c.defaultDataSource = some source),
      .missingReference "data source" c.defaultDataSource)] ++
  c.dataSources.entries.flatMap (fun x => sourceConditions x.1 x.2) ++
  endpointConditions c.runtime.rest c.runtime.graphql ++
  c.entities.entries.flatMap fun x => c.entityConditions x.1 x.2

section Properties

variable {c : RuntimeConfig} {name : String}

theorem textOption_isSome {source : DataSource} : (source.textOption name).isSome = true ↔
    ∃ text, source.options.get? name = some (.string text) := by
  unfold DataSource.textOption
  cases source.options.get? name with
  | none => simp
  | some v => cases v <;> simp [Json.text?]

theorem decides_checkSource (source : DataSource) :
    Decides (checkSource name source) (sourceConditions name source) := by
  refine .ensure_bind ?_ (.ensure ?_)
  · cases source.databaseType.isRelational <;> simp
  · rw [Bool.or_eq_true, textOption_isSome, bne_iff_ne, imp_iff_not_or]

theorem decides_checkEndpoints (rest graphql : Endpoint) :
    Decides (checkEndpoints rest graphql) (endpointConditions rest graphql) := by
  refine .ensure_bind Iff.rfl (.ensure_bind Iff.rfl (.ensure ?_))
  cases rest.enabled <;> cases graphql.enabled <;> simp

theorem decides_checkEntity (e : Entity) : Decides (c.checkEntity name e) (c.ownConditions name e) := by
  refine .ensure_bind ?_ (.ensure_bind ?_ (.ensure ?_))
  · exact Option.isSome_iff_exists
  · simp
  · cases e.isProcedure <;> simp

/-- among entities in order, those of an earlier name are those that come before -/
theorem earlier_iff {done rest : List (String × Entity)} {e : Entity}
    (h : c.entities.entries = done ++ (name, e) :: rest) {x : String × Entity} :
    x.1 < name ∧ c.entities.get? x.1 = some x.2 ↔ x ∈ done := by
  have hsorted := c.entities.sorted
  rw [h, List.pairwise_append, List.pairwise_cons] at hsorted
  obtain ⟨-, ⟨hafter, -⟩, hbefore⟩ := hsorted
  obtain ⟨other, e'⟩ := x
  rw [← NameMap.mem_entries_iff, h, List.mem_append, List.mem_cons]
  constructor
  · rintro ⟨hlt, hx | ⟨⟨⟩⟩ | hx⟩
    · exact hx
    · exact absurd hlt (String.lt_irrefl _)
    · exact absurd (String.lt_trans hlt (hafter _ hx)) (String.lt_irrefl _)
  · exact fun hx => ⟨hbefore _ hx _ List.mem_cons_self, .inl hx⟩

/-- the entities that are left, when the routes of those before them are taken -/
theorem decides_checkEntities (done : List (String × Entity)) {rest : List (String × Entity)} {taken : List String}
    (hentries : c.entities.entries = done ++ rest)
    (htaken : ∀ path, path ∈ taken ↔ ∃ x ∈ done, x.2.rest.enabled = true ∧ restPath x.1 x.2 = path) :
    Decides (c.checkEntities taken rest) (rest.flatMap fun x => c.entityConditions x.1 x.2) := by
  induction rest generalizing done taken with
  | nil => exact .nil
  | cons x rest ih =>
    obtain ⟨name, e⟩ := x
    have hnext : c.entities.entries = (done ++ [(name, e)]) ++ rest := by rw [hentries, List.append_assoc]; rfl
    have hfree : (!taken.contains (restPath name e)) = true ↔ c.RouteFree name e := by
      rw [Bool.not_eq_true', ← Bool.not_eq_true, List.contains_iff_mem, htaken]
      constructor
      · exact fun hnone other e' hlt hother henabled hpath =>
          hnone ⟨(other, e'), (earlier_iff hentries).1 ⟨hlt, hother⟩, henabled, hpath⟩
      · rintro hfree ⟨x, hx, henabled, hpath⟩
        obtain ⟨hlt, hx⟩ := (earlier_iff hentries).2 hx
        exact hfree x.1 x.2 hlt hx henabled hpath
    unfold checkEntities
    rw [List.flatMap_cons, entityConditions, List.append_assoc]
    refine (decides_checkEntity e).bind ?_
    split_ifs with henabled
    · refine Decides.bind (.ensure (hfree.trans (by simp [henabled]))) (ih _ hnext fun path => ?_)
      rw [List.mem_cons, htaken]
      simp only [List.mem_append, List.mem_singleton, or_and_right, exists_or, exists_eq_left, henabled, true_and]
      rw [or_comm, eq_comm]
    · refine Decides.skip (fun h => absurd h henabled) (ih _ hnext fun path => ?_)
      rw [htaken]
      simp only [List.mem_append, List.mem_singleton, or_and_right, exists_or, exists_eq_left, henabled,
        Bool.false_eq_true, false_and, or_false]

/-- **The check of properties goes through the conditions** -/
theorem decides_checkProperties (c : RuntimeConfig) : Decides c.checkProperties c.conditions := by
  unfold conditions
  simp only [List.append_assoc]
  refine .ensure_bind ?_ (.ensure_bind Option.isSome_iff_exists ?_)
  · simp [NameMap.isEmpty]
  refine (Decides.forM _ fun x _ => decides_checkSource x.2).bind ((decides_checkEndpoints _ _).bind ?_)
  exact decides_checkEntities [] rfl (by simp)

/-! ## Well-formed configurations -/

/-- what a configuration is like that has the right properties -/
structure WellFormed (c : RuntimeConfig) : Prop where
  /-- there is a data source -/
  sources : ∃ name source, c.dataSources.get? name = some source
  /-- the default data source is there -/
  defaultSource : ∃ source, c.dataSources.get? c.defaultDataSource = some source
  /-- a relational data source has a connection string that is not blank -/
  connection : ∀ name source, c.dataSources.get? name = some source → source.databaseType.isRelational = true →
    Text.isBlank source.connectionString = false
  /-- a document store has a database -/
  database : ∀ name source, c.dataSources.get? name = some source → source.databaseType = .documentStore →
    ∃ database, source.options.get? "database" = some (.string database)
  /-- the paths of both endpoints begin with a slash -/
  restSlash : Text.startsWith '/' c.runtime.rest.path = true
  graphqlSlash : Text.startsWith '/' c.runtime.graphql.path = true
  /-- endpoints that are both enabled have different paths -/
  endpoints : c.runtime.rest.enabled = true → c.runtime.graphql.enabled = true →
    c.runtime.rest.path ≠ c.runtime.graphql.path
  /-- the data source of every entity is there -/
  bound : ∀ name e, c.entities.get? name = some e → ∃ source, c.dataSources.get? (c.sourceOf e) = some source
  /-- every entity has an object -/
  object : ∀ name e, c.entities.get? name = some e → Text.isBlank e.source.object = false
  /-- a stored procedure has no key fields -/
  keyFields : ∀ name e, c.entities.get? name = some e → e.isProcedure = true → e.source.keyFields = []
  /-- entities that have a route have different ones -/
  routes : ∀ name e other e', c.entities.get? name = some e → c.entities.get? other = some e' →
    e.rest.enabled = true → e'.rest.enabled = true → restPath name e = restPath other e' → name = other

theorem routesFree_iff : (∀ name e, c.entities.get? name = some e → e.rest.enabled = true → c.RouteFree name e) ↔
    ∀ name e other e', c.entities.get? name = some e → c.entities.get? other = some e' →
      e.rest.enabled = true → e'.rest.enabled = true → restPath name e = restPath other e' → name = other := by
  constructor
  · intro h name e other e' he he' henabled henabled' hpath
    by_contra hne
    by_cases hlt : name < other
    · exact h other e' he' henabled' name e hlt he henabled hpath
    · have hlt' : other < name := Std.lt_of_le_of_ne (String.not_lt.1 hlt) (Ne.symm hne)
      exact h name e he henabled other e' hlt' he' henabled' hpath.symm
  · intro h name e he henabled other e' hlt he' henabled' hpath
    obtain rfl := h other e' name e he' he henabled' henabled hpath
    exact String.lt_irrefl _ hlt

/-- **All conditions hold just if a configuration is well-formed** -/
theorem wellFormed_iff (c : RuntimeConfig) : c.WellFormed ↔ AllHold c.conditions := by
  have hsources : AllHold (c.dataSources.entries.flatMap fun x => sourceConditions x.1 x.2) ↔
      ∀ name source, c.dataSources.get? name = some source → AllHold (sourceConditions name source) :=
    allHold_flatMap.trans NameMap.forall_mem_entries
  have hentities : AllHold (c.entities.entries.flatMap fun x => c.entityConditions x.1 x.2) ↔
      ∀ name e, c.entities.get? name = some e → AllHold (c.entityConditions name e) :=
    allHold_flatMap.trans NameMap.forall_mem_entries
  rw [conditions, allHold_append, allHold_append, allHold_append, hsources, hentities]
  simp only [sourceConditions, endpointConditions, entityConditions, ownConditions, allHold_append, allHold_cons,
    allHold_nil, and_true]
  constructor
  · intro h
    exact ⟨⟨⟨⟨NameMap.entries_ne_nil.2 h.sources, h.defaultSource⟩,
      fun name source hs => ⟨h.connection name source hs, h.database name source hs⟩⟩,
      h.restSlash, h.graphqlSlash, h.endpoints⟩,
      fun name e he => ⟨⟨h.bound name e he, h.object name e he, h.keyFields name e he⟩,
        routesFree_iff.2 h.routes name e he⟩⟩
  · rintro ⟨⟨⟨⟨hsource, hdefault⟩, hsources⟩, hrest, hgraphql, hendpoints⟩, hentities⟩
    exact ⟨NameMap.entries_ne_nil.1 hsource, hdefault, fun name source hs => (hsources name source hs).1,
      fun name source hs => (hsources name source hs).2, hrest, hgraphql, hendpoints,
      fun name e he => (hentities name e he).1.1, fun name e he => (hentities name e he).1.2.1,
      fun name e he => (hentities name e he).1.2.2,
      routesFree_iff.1 fun name e he => (hentities name e he).2⟩

/-- two entities that have a route have the same one -/
def SharesRoute (c : RuntimeConfig) (path : String) : Prop :=
  ∃ name e other e', name ≠ other ∧ c.entities.get? name = some e ∧ c.entities.get? other = some e' ∧
    e.rest.enabled = true ∧ e'.rest.enabled = true ∧ restPath name e = path ∧ restPath other e' = path

/-- only the conditions on routes have the error of a route that is taken -/
theorem sharesRoute_of_broken {p : Prop} {path : String} (h : (p, .duplicatePath path) ∈ c.conditions) (hp : ¬ p) :
    c.SharesRoute path := by
  simp only [conditions, sourceConditions, endpointConditions, entityConditions, ownConditions,
    List.mem_append, List.mem_flatMap, List.mem_cons, List.not_mem_nil, Prod.mk.injEq, reduceCtorEq, and_false,
    or_false,
    false_or, exists_false, ConfigError.duplicatePath.injEq] at h
  obtain ⟨⟨name, e⟩, he, rfl, rfl⟩ := h
  simp only [RouteFree, Classical.not_imp, not_forall, not_not] at hp
  obtain ⟨henabled, other, e', hlt, hother, henabled', hpath⟩ := hp
  have hne : name ≠ other := fun heq => String.lt_irrefl _ (heq ▸ hlt)
  exact ⟨name, e, other, e', hne, (NameMap.mem_entries_iff _ _ _).1 he, hother, henabled, henabled', rfl, hpath⟩

/-- **A configuration has the right properties just if it is well-formed**, and otherwise the error is that of the first
condition that does not hold; a route that is reported as taken is one that two entities have -/
theorem properties_are_decided (c : RuntimeConfig) :
    (c.checkProperties = .ok () ↔ c.WellFormed) ∧
    (∀ e, c.checkProperties = .error e ↔ FirstBroken c.conditions e) ∧
    ∀ path, c.checkProperties = .error (.duplicatePath path) → c.SharesRoute path := by
  have hdecides : Decides c.checkProperties c.conditions := decides_checkProperties c
  refine ⟨hdecides.ok.trans (wellFormed_iff c).symm, hdecides.error, fun path h => ?_⟩
  obtain ⟨before, p, after, heq, -, hp⟩ := (hdecides.error _).1 h
  refine sharesRoute_of_broken (p := p) ?_ hp
  rw [heq]
  exact List.mem_append_right _ List.mem_cons_self

end Properties

end RuntimeConfig

/-! ### Books and volumes -/

/-- two tables, the second of which has the first one's route -/
def volumesConfig : RuntimeConfig where
  schema := none
  defaultDataSource := "default"
  dataSources := NameMap.empty.insert "default" { databaseType := .postgres, connectionString := "host" }
  runtime := {}
  entities := (NameMap.empty.insert "books" { source := { object := "books" } }).insert "volumes"
    { source := { object := "volumes" }, rest := { path := some "books" } }

theorem volumes_share_a_route : volumesConfig.checkProperties = .error (.duplicatePath "/books") ∧
    ¬ volumesConfig.WellFormed ∧ volumesConfig.SharesRoute "/books" := by
  have hrefused : volumesConfig.checkProperties = .error (.duplicatePath "/books") := by decide
  obtain ⟨hok, -, hshares⟩ := volumesConfig.properties_are_decided
  refine ⟨hrefused, fun h => ?_, hshares _ hrefused⟩
  cases hrefused.symm.trans (hok.2 h)

end EntityGateway
