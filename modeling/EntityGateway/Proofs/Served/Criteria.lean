/-
What a configuration has to satisfy to be put in force.

A change is accepted if its snapshot meets six requirements, and it is refused because of the first one that is not met.
Only one of them, the one about relationships in development mode, is about what databases answer, and it is about those
answers that come: what is not learned cannot stand against a relationship. Documentation is not among them. Which
patterns can be compiled is for an engine to say, and any engine will do.

- `requirements`: the six of them, with the stage at which each is looked at;
- `accepted_iff`, `stage_of_refused`: what the machine finds is what the requirements say;
- `refused_in_production`: in production the reason does not depend on the databases;
- `requirements_of_less`: nothing is lost if less is learned.
-/
import EntityGateway.Proofs.Config.Conditions
import EntityGateway.Proofs.Served.Agreement

namespace EntityGateway

/-! ## Requirements -/

namespace RuntimeConfig

/-- every data source is of a kind that is served -/
def SourcesServed (i : Introspectors ι) (c : RuntimeConfig) : Prop :=
  ∀ entry ∈ c.dataSources.entries, entry.2.databaseType.isServed i.serves = true

/-- the pattern of every rule can be compiled -/
def PatternsCompile [Pattern.Engine] (c : RuntimeConfig) : Prop :=
  ∀ entry ∈ c.entities.entries, ∀ field ∈ entry.2.validation.entries, ∀ source, field.2.pattern = some source →
    Pattern.Compiles source

/-- the entities that have a type have a name for it, and no two of them the same -/
def TypesNamed (c : RuntimeConfig) : Prop :=
  let named := (c.entities.entries.filter fun e => e.2.graphql.enabled).map fun e => TypeCatalog.typeName e.1 e.2
  (∀ name ∈ named, TypeCatalog.isName name = true) ∧ named.Nodup

end RuntimeConfig

/-- the relationships of a snapshot agree with each other, and with what introspectors say who are asked at a time -/
def RelationsHold (i : Introspectors ι) (limit : Duration) (now : Nat) (memory : ι) (s : Snapshot) : Prop :=
  s.config.checkRelationships = .ok () ∧
    ∀ set rest, ProviderSet.prepare i limit now s memory = .ok (set, rest) → s.config.checkAgainst set = .ok ()

/-- what is required of a snapshot, and the stage at which it is looked at, in order -/
def requirements [Pattern.Engine] (i : Introspectors ι) (limit : Duration) (now : Nat) (memory : ι) (s : Snapshot) :
    List (Stage × Prop) :=
  [(.validating, s.config.checkProperties = .ok ()),
   (.validating, s.config.isDevelopment = true → s.config.checkPermissions = .ok ()),
   (.rebuildingMetadata, s.config.SourcesServed i),
   (.revalidatingRelationships, s.config.isDevelopment = true → RelationsHold i limit now memory s),
   (.rewiringDependents, s.config.PatternsCompile),
   (.rewiringDependents, s.config.runtime.graphql.enabled = true → s.config.TypesNamed)]

def AllMet (l : List (Stage × Prop)) : Prop := ∀ x ∈ l, x.2

/-- the first requirement that is not met is looked at in a stage -/
def FirstUnmet (l : List (Stage × Prop)) (s : Stage) : Prop :=
  ∃ before p after, l = before ++ (s, p) :: after ∧ AllMet before ∧ ¬ p

theorem not_allMet_of_firstUnmet {l : List (Stage × Prop)} {s : Stage} (h : FirstUnmet l s) : ¬ AllMet l := by
  obtain ⟨before, p, after, rfl, -, hp⟩ := h
  exact fun hall => hp (hall (s, p) (List.mem_append_right _ List.mem_cons_self))

/-! ## What the machine finds -/

section Found

variable (i : Introspectors ι) (limit : Duration) (now : Nat) (memory : ι) (s : Snapshot)

/-- a snapshot that can be put in force -/
structure Related : Prop where
  valid : World.checkSnapshot s.config = .ok ()
  made : ∃ set, ProviderSet.ofSnapshot i s = .ok set
  holds : s.config.isDevelopment = true → ∀ set rest, ProviderSet.prepare i limit now s memory = .ok (set, rest) →
    World.checkRelations s.config set = .ok ()

/-- a snapshot that can be put in force, and that all services take -/
structure Accepted [Pattern.Engine] : Prop extends Related i limit now memory s where
  rules : ∃ rules, RuleBook.ofConfig s.config = .ok rules
  types : ∃ learned types, ProviderSet.BuiltFrom learned s ∧ TypeCatalog.ofConfig s.config learned = .ok types

def rewiringError (who : Follower) (e : GatewayError) : ChangeError :=
  .stage .rewiringDependents (e.ofService (Services.name who))

/-- why a snapshot is refused -/
inductive Refused [Pattern.Engine] : ChangeError → Prop
  | invalid (hcheck : World.checkSnapshot s.config = .error e) : Refused (.stage .validating (.config e))
  | unserved (hvalid : World.checkSnapshot s.config = .ok ()) (hset : ProviderSet.ofSnapshot i s = .error e) :
      Refused (.stage .rebuildingMetadata (.config e))
  | unrelated (hvalid : World.checkSnapshot s.config = .ok ()) (hdev : s.config.isDevelopment = true)
      (hprepare : ProviderSet.prepare i limit now s memory = .ok (learned, rest))
      (hcheck : World.checkRelations s.config learned = .error e) : Refused (.stage .revalidatingRelationships e)
  | unruled (hrelated : Related i limit now memory s) (hrules : RuleBook.ofConfig s.config = .error e) :
      Refused (rewiringError .validator e)
  | untyped (hrelated : Related i limit now memory s) (hrules : RuleBook.ofConfig s.config = .ok rules)
      (hbuilt : learned.BuiltFrom s) (htypes : TypeCatalog.ofConfig s.config learned = .error e) :
      Refused (rewiringError .schema e)

end Found

/-! ## Each check and what it requires -/

section Checks

variable {i : Introspectors ι} {limit : Duration} {now : Nat} {memory : ι} {s : Snapshot} {c : RuntimeConfig}
  {set : ProviderSet}

theorem checkSnapshot_ok :
    World.checkSnapshot c = .ok () ↔
      c.checkProperties = .ok () ∧ (c.isDevelopment = true → c.checkPermissions = .ok ()) := by
  unfold World.checkSnapshot
  cases hproperties : c.checkProperties with
  | error e => simp [bind, Except.bind]
  | ok _ => cases hdev : c.isDevelopment <;> simp [bind, Except.bind]

theorem checkRelations_ok :
    World.checkRelations c set = .ok () ↔ c.checkRelationships = .ok () ∧ c.checkAgainst set = .ok () := by
  unfold World.checkRelations
  cases hrelationships : c.checkRelationships with
  | error e => simp [bind, Except.bind, Except.mapError]
  | ok _ => simp [bind, Except.bind, Except.mapError]

theorem ofSnapshot_ok : (∃ set, ProviderSet.ofSnapshot i s = .ok set) ↔ s.config.SourcesServed i := by
  have hmake : ∀ entry : String × DataSource, (∃ p, ProviderSet.makeProvider i s.config entry.1 entry.2 = .ok p) ↔
      entry.2.databaseType.isServed i.serves = true := by
    intro entry
    unfold ProviderSet.makeProvider DatabaseType.isServed
    cases entry.2.databaseType.providerKind with
    | none => simp
    | some kind => cases kind <;> simp; split <;> simp_all
  have hall : (∃ providers, s.config.dataSources.tryMap (ProviderSet.makeProvider i s.config) = .ok providers) ↔
      s.config.SourcesServed i := by
    rw [NameMap.tryMap_ok]
    exact forall₂_congr fun entry _ => hmake entry
  rw [← hall]
  unfold ProviderSet.ofSnapshot
  cases s.config.dataSources.tryMap (ProviderSet.makeProvider i s.config) <;> simp

theorem rules_ok [Pattern.Engine] : (∃ rules, RuleBook.ofConfig c = .ok rules) ↔ c.PatternsCompile := by
  have hcompile : ∀ (entity : String) (field : String × FieldRule),
      (∃ rule, RuleBook.compileRule entity field.1 field.2 = .ok rule) ↔
        ∀ source, field.2.pattern = some source → Pattern.Compiles source := by
    intro entity field
    unfold RuleBook.compileRule Pattern.Compiles
    cases field.2.pattern with
    | none => simp
    | some source => cases hcompile : Pattern.Engine.compile source <;> simp [hcompile]
  unfold RuleBook.ofConfig
  rw [NameMap.tryMap_ok]
  refine forall₂_congr fun entry _ => ?_
  rw [NameMap.tryMap_ok]
  exact forall₂_congr fun field _ => hcompile entry.1 field

/-! ### Names of types -/

/-- every entity of a configuration with the right properties is bound to a data source that is there -/
theorem contains_sourceOf (h : c.checkProperties = .ok ()) :
    ∀ entry ∈ c.entities.entries, c.dataSources.contains (c.sourceOf entry.2) = true := by
  have hwell : c.WellFormed := (RuntimeConfig.wellFormed_iff c).2 ((RuntimeConfig.decides_checkProperties c).ok.1 h)
  intro entry he
  exact Option.isSome_iff_exists.2 (hwell.bound entry.1 entry.2 ((NameMap.mem_entries_iff _ _ _).1 he))

theorem mem_names_iff {m : NameMap α} {name : String} : name ∈ m.names ↔ ∃ a, m.get? name = some a := by
  refine ⟨fun h => ?_, fun ⟨a, ha⟩ => List.mem_map_of_mem ((NameMap.mem_entries_iff m name a).2 ha)⟩
  obtain ⟨entry, he, rfl⟩ := List.mem_map.1 h
  exact ⟨entry.2, (NameMap.mem_entries_iff m entry.1 entry.2).1 he⟩

theorem find_ok {name : String} {p : Provider} : set.find name = .ok p ↔ set.providers.get? name = some p := by
  unfold ProviderSet.find
  cases set.providers.get? name <;> simp

theorem find_of_builtFrom (hbuilt : set.BuiltFrom s) {name : String} (h : s.config.dataSources.contains name = true) :
    ∃ p, set.find name = .ok p := by
  have hmem : name ∈ set.providers.names := by
    rw [hbuilt.names]
    exact mem_names_iff.2 (Option.isSome_iff_exists.1 h)
  obtain ⟨p, hp⟩ := mem_names_iff.1 hmem
  exact ⟨p, find_ok.2 hp⟩

theorem find_sourceOf (hvalid : s.config.checkProperties = .ok ()) (hbuilt : set.BuiltFrom s) :
    ∀ entry ∈ TypeCatalog.typed s.config, ∃ p, set.find (s.config.sourceOf entry.2) = .ok p := by
  intro entry he
  refine find_of_builtFrom hbuilt (contains_sourceOf hvalid entry ?_)
  unfold TypeCatalog.typed at he
  split_ifs at he
  · exact (List.mem_filter.1 he).1
  · cases he

/-- the types of entities are made one after another, each if it has a name that is not taken -/
theorem gather_cons {name : String} {e : Entity} {p : Provider} (hfind : set.find (c.sourceOf e) = .ok p)
    (taken : List String) (rest : List (String × Entity)) :
    TypeCatalog.gather c set taken ((name, e) :: rest) =
      if TypeCatalog.isName (TypeCatalog.typeName name e) = false then
        .error (.dependent TypeCatalog.service (TypeCatalog.badName name (TypeCatalog.typeName name e)))
      else if TypeCatalog.typeName name e ∈ taken then
        .error (.dependent TypeCatalog.service (TypeCatalog.takenName (TypeCatalog.typeName name e)))
      else (TypeCatalog.gather c set (TypeCatalog.typeName name e :: taken) rest).map
        ((name, ⟨name, TypeCatalog.typeName name e, TypeCatalog.queries name e, TypeCatalog.mutations name e,
          TypeCatalog.columnsOf p name⟩) :: ·) := by
  rw [TypeCatalog.gather, TypeCatalog.describe]
  by_cases hname : TypeCatalog.isName (TypeCatalog.typeName name e) = true
  · by_cases htaken : TypeCatalog.typeName name e ∈ taken
    · simp [hname, htaken, hfind, bind, Except.bind, pure, Except.pure]
    · simp only [hname, hfind, htaken, bind, Except.bind, pure, Except.pure, Bool.not_true, Bool.false_eq_true,
        if_false, List.contains_iff_mem, Except.map]
      cases TypeCatalog.gather c set (TypeCatalog.typeName name e :: taken) rest <;> simp
  · simp [hname, bind, Except.bind]

theorem found_of_gather {l : List (String × Entity)} {taken : List String}
    {types : List (String × GraphQLType)} (h : TypeCatalog.gather c set taken l = .ok types) :
    ∀ entry ∈ l, ∃ p, set.find (c.sourceOf entry.2) = .ok p := by
  induction l generalizing taken types with
  | nil => simp
  | cons entry rest ih =>
    obtain ⟨name, e⟩ := entry
    obtain ⟨type, hdescribe, h⟩ := ok_of_bind h
    split_ifs at h with htaken
    obtain ⟨others, hothers, -⟩ := ok_of_bind h
    refine List.forall_mem_cons.2 ⟨?_, ih hothers⟩
    simp only [TypeCatalog.describe] at hdescribe
    split_ifs at hdescribe with hname
    obtain ⟨p, hp, -⟩ := ok_of_bind hdescribe
    exact ⟨p, hp⟩

theorem gather_ok {l : List (String × Entity)} (hfind : ∀ entry ∈ l, ∃ p, set.find (c.sourceOf entry.2) = .ok p)
    (taken : List String) : (∃ types, TypeCatalog.gather c set taken l = .ok types) ↔
      (∀ name ∈ l.map fun e => TypeCatalog.typeName e.1 e.2, TypeCatalog.isName name = true ∧ name ∉ taken) ∧
        (l.map fun e => TypeCatalog.typeName e.1 e.2).Nodup := by
  induction l generalizing taken with
  | nil => simp [TypeCatalog.gather]
  | cons entry rest ih =>
    obtain ⟨name, e⟩ := entry
    obtain ⟨p, hp⟩ : ∃ p, set.find (c.sourceOf e) = .ok p := hfind (name, e) List.mem_cons_self
    have hrest := ih (fun entry he => hfind entry (List.mem_cons_of_mem _ he)) (TypeCatalog.typeName name e :: taken)
    rw [gather_cons hp, List.map_cons, List.forall_mem_cons, List.nodup_cons]
    by_cases hname : TypeCatalog.isName (TypeCatalog.typeName name e) = true
    · by_cases htaken : TypeCatalog.typeName name e ∈ taken
      · simp [hname, htaken]
      · have hmap : ∀ x : Except GatewayError (List (String × GraphQLType)), ∀ type,
            (∃ types, x.map (type :: ·) = .ok types) ↔ ∃ types, x = .ok types := by
          intro x type
          cases x <;> simp [Except.map]
        rw [if_neg (by simp [hname]), if_neg htaken, hmap, hrest]
        simp only [List.mem_cons, not_or]
        constructor
        · rintro ⟨hnames, hnodup⟩
          refine ⟨⟨⟨hname, htaken⟩, fun x hx => ⟨(hnames x hx).1, (hnames x hx).2.2⟩⟩, fun hmem => ?_, hnodup⟩
          exact (hnames _ hmem).2.1 rfl
        · rintro ⟨⟨-, hnames⟩, hnew, hnodup⟩
          refine ⟨fun x hx => ⟨(hnames x hx).1, ?_, (hnames x hx).2⟩, hnodup⟩
          rintro rfl
          exact hnew hx
    · simp [hname]

/-- what is wrong with the names of types does not depend on the metadata -/
theorem gather_error {l : List (String × Entity)} {learned : ProviderSet}
    (hfind : ∀ entry ∈ l, ∃ p, set.find (c.sourceOf entry.2) = .ok p)
    (hfind' : ∀ entry ∈ l, ∃ p, learned.find (c.sourceOf entry.2) = .ok p) {taken : List String} {e : GatewayError}
    (h : TypeCatalog.gather c set taken l = .error e) : TypeCatalog.gather c learned taken l = .error e := by
  induction l generalizing taken with
  | nil => cases h
  | cons entry rest ih =>
    obtain ⟨name, entity⟩ := entry
    obtain ⟨p, hp⟩ : ∃ p, set.find (c.sourceOf entity) = .ok p := hfind (name, entity) List.mem_cons_self
    obtain ⟨p', hp'⟩ : ∃ p, learned.find (c.sourceOf entity) = .ok p := hfind' (name, entity) List.mem_cons_self
    rw [gather_cons hp] at h
    rw [gather_cons hp']
    split_ifs at h ⊢ with hname htaken
    · exact h
    · exact h
    · cases hrest : TypeCatalog.gather c set (TypeCatalog.typeName name entity :: taken) rest with
      | ok types =>
        rw [hrest] at h
        cases h
      | error e' =>
        rw [hrest] at h
        obtain rfl : e' = e := by simpa [Except.map] using h
        rw [ih (fun entry he => hfind entry (List.mem_cons_of_mem _ he))
          (fun entry he => hfind' entry (List.mem_cons_of_mem _ he)) hrest]
        exact h

theorem ofConfig_error {e : GatewayError} :
    TypeCatalog.ofConfig c set = .error e ↔ TypeCatalog.gather c set [] (TypeCatalog.typed c) = .error e := by
  unfold TypeCatalog.ofConfig
  cases TypeCatalog.gather c set [] (TypeCatalog.typed c) <;> simp [bind, Except.bind, pure, Except.pure]

theorem types_ok (hvalid : s.config.checkProperties = .ok ()) (hbuilt : set.BuiltFrom s) :
    (∃ types, TypeCatalog.ofConfig s.config set = .ok types) ↔
      (s.config.runtime.graphql.enabled = true → s.config.TypesNamed) := by
  have hgather : (∃ types, TypeCatalog.ofConfig s.config set = .ok types) ↔
      ∃ types, TypeCatalog.gather s.config set [] (TypeCatalog.typed s.config) = .ok types := by
    unfold TypeCatalog.ofConfig
    cases TypeCatalog.gather s.config set [] (TypeCatalog.typed s.config) <;>
      simp [bind, Except.bind, pure, Except.pure]
  rw [hgather, gather_ok (find_sourceOf hvalid hbuilt)]
  unfold TypeCatalog.typed RuntimeConfig.TypesNamed
  cases s.config.runtime.graphql.enabled <;> simp

end Checks

/-! ## What is found is what is required -/

section Requirements

variable {i : Introspectors ι} {limit : Duration} {now : Nat} {memory : ι} {s : Snapshot} {set : ProviderSet}
  {rest : InitializationReport × Nat × ι}

/-- a set that is prepared was made, and is built from its snapshot -/
theorem prepare_made (h : ProviderSet.prepare i limit now s memory = .ok (set, rest)) :
    ∃ made, ProviderSet.ofSnapshot i s = .ok made ∧
      set = (made.launch i limit now memory).2.1.foldl ProviderSet.settle (made.launch i limit now memory).1 := by
  unfold ProviderSet.prepare at h
  obtain ⟨made, hmade, h⟩ := ok_of_bind h
  cases h
  exact ⟨made, hmade, rfl⟩

theorem prepare_of_made {made : ProviderSet} (h : ProviderSet.ofSnapshot i s = .ok made) :
    ProviderSet.prepare i limit now s memory = .ok (made.initializeAll i limit now memory) := by
  simp [ProviderSet.prepare, h, bind, Except.bind, pure, Except.pure]

theorem builtFrom_settles {l : List SourceTask} (h : set.BuiltFrom s) :
    (l.foldl ProviderSet.settle set).BuiltFrom s := by
  induction l generalizing set with
  | nil => exact h
  | cons t l ih => exact ih (builtFrom_settle h t)

theorem builtFrom_prepare (h : ProviderSet.prepare i limit now s memory = .ok (set, rest)) : set.BuiltFrom s := by
  obtain ⟨made, hmade, rfl⟩ := prepare_made h
  exact builtFrom_settles (builtFrom_launch (builtFrom_ofSnapshot hmade) rfl)

theorem made_of_found {made : ProviderSet} (hmade : ProviderSet.ofSnapshot i s = .ok made) (hbuilt : set.BuiltFrom s)
    {name : String} {p : Provider} (hp : set.find name = .ok p) : ∃ q, made.providers.get? name = some q := by
  refine mem_names_iff.1 ?_
  rw [(builtFrom_ofSnapshot hmade).names, ← hbuilt.names]
  exact mem_names_iff.2 ⟨p, find_ok.1 hp⟩

/-- the metadata that are prepared are those that the relationships are checked against -/
theorem related_of_prepare (hvalid : World.checkSnapshot s.config = .ok ())
    (hprepare : ProviderSet.prepare i limit now s memory = .ok (set, rest))
    (hcheck : s.config.isDevelopment = true → World.checkRelations s.config set = .ok ()) :
    Related i limit now memory s := by
  obtain ⟨made, hmade, -⟩ := prepare_made hprepare
  refine ⟨hvalid, ⟨made, hmade⟩, fun hdev set' rest' hprepare' => ?_⟩
  cases hprepare.symm.trans hprepare'
  exact hcheck hdev

theorem Related.properties (h : Related i limit now memory s) : s.config.checkProperties = .ok () :=
  (checkSnapshot_ok.1 h.valid).1

/-- the relationships are looked at when what is learned is there -/
theorem related_iff : Related i limit now memory s ↔ s.config.checkProperties = .ok () ∧
    (s.config.isDevelopment = true → s.config.checkPermissions = .ok ()) ∧ s.config.SourcesServed i ∧
    (s.config.isDevelopment = true → RelationsHold i limit now memory s) := by
  constructor
  · intro h
    obtain ⟨hproperties, hpermissions⟩ := checkSnapshot_ok.1 h.valid
    refine ⟨hproperties, hpermissions, ofSnapshot_ok.1 h.made, fun hdev => ⟨?_, fun set rest hprepare => ?_⟩⟩
    · obtain ⟨made, hmade⟩ := h.made
      exact (checkRelations_ok.1 (h.holds hdev _ _ (prepare_of_made hmade))).1
    · exact (checkRelations_ok.1 (h.holds hdev set rest hprepare)).2
  · rintro ⟨hproperties, hpermissions, hserved, hrelations⟩
    refine ⟨checkSnapshot_ok.2 ⟨hproperties, hpermissions⟩, ofSnapshot_ok.2 hserved, fun hdev set rest hprepare => ?_⟩
    exact checkRelations_ok.2 ⟨(hrelations hdev).1, (hrelations hdev).2 set rest hprepare⟩

theorem ne_ok_of_error {α ε : Type} {x : Except ε α} {e : ε} (h : x = .error e) : ¬ ∃ a, x = .ok a := by
  rintro ⟨a, ha⟩
  rw [h] at ha
  cases ha

variable [Pattern.Engine]

/-- **A snapshot is accepted if it meets every requirement** -/
theorem accepted_iff : Accepted i limit now memory s ↔ AllMet (requirements i limit now memory s) := by
  simp only [AllMet, requirements, List.forall_mem_cons, List.not_mem_nil, false_imp_iff, implies_true, and_true]
  constructor
  · intro h
    obtain ⟨hproperties, hpermissions, hserved, hrelations⟩ := related_iff.1 h.toRelated
    obtain ⟨learned, types, hbuilt, htypes⟩ := h.types
    exact ⟨hproperties, hpermissions, hserved, hrelations, rules_ok.1 h.rules,
      (types_ok hproperties hbuilt).1 ⟨types, htypes⟩⟩
  · rintro ⟨hproperties, hpermissions, hserved, hrelations, hrules, hnames⟩
    obtain ⟨made, hmade⟩ := ofSnapshot_ok.2 hserved
    obtain ⟨types, htypes⟩ := (types_ok hproperties (builtFrom_ofSnapshot hmade)).2 hnames
    exact ⟨related_iff.2 ⟨hproperties, hpermissions, hserved, hrelations⟩, rules_ok.2 hrules,
      made, types, builtFrom_ofSnapshot hmade, htypes⟩

/-- **A snapshot is refused at the stage of the first requirement that it does not meet** -/
theorem stage_of_refused {e : ChangeError} (h : Refused i limit now memory s e) :
    ∃ stage, e.stage? = some stage ∧ FirstUnmet (requirements i limit now memory s) stage := by
  cases h with
  | invalid hcheck =>
    refine ⟨.validating, rfl, ?_⟩
    by_cases hproperties : s.config.checkProperties = .ok ()
    · refine ⟨[(.validating, _)], _, _, rfl, by simpa [AllMet] using hproperties, fun hpermissions => ?_⟩
      exact ne_ok_of_error hcheck ⟨(), checkSnapshot_ok.2 ⟨hproperties, hpermissions⟩⟩
    · exact ⟨[], _, _, rfl, by simp [AllMet], hproperties⟩
  | unserved hvalid hset =>
    obtain ⟨hproperties, hpermissions⟩ := checkSnapshot_ok.1 hvalid
    refine ⟨.rebuildingMetadata, rfl, [(.validating, _), (.validating, _)], _, _, rfl, ?_, fun hserved => ?_⟩
    · simpa [AllMet] using ⟨hproperties, hpermissions⟩
    · exact ne_ok_of_error hset (ofSnapshot_ok.2 hserved)
  | unrelated hvalid hdev hprepare hcheck =>
    obtain ⟨hproperties, hpermissions⟩ := checkSnapshot_ok.1 hvalid
    obtain ⟨made, hmade, -⟩ := prepare_made hprepare
    refine ⟨.revalidatingRelationships, rfl, [(.validating, _), (.validating, _), (.rebuildingMetadata, _)], _, _, rfl,
      ?_, fun hrelations => ?_⟩
    · simpa [AllMet] using ⟨hproperties, hpermissions, ofSnapshot_ok.1 ⟨made, hmade⟩⟩
    · obtain ⟨hrelationships, hagainst⟩ := hrelations hdev
      exact ne_ok_of_error hcheck ⟨(), checkRelations_ok.2 ⟨hrelationships, hagainst _ _ hprepare⟩⟩
  | unruled hrelated hrules =>
    obtain ⟨hproperties, hpermissions, hserved, hrelations⟩ := related_iff.1 hrelated
    refine ⟨.rewiringDependents, rfl, [(.validating, _), (.validating, _), (.rebuildingMetadata, _),
      (.revalidatingRelationships, _)], _, _, rfl, ?_, fun hcompile => ?_⟩
    · simpa [AllMet] using ⟨hproperties, hpermissions, hserved, hrelations⟩
    · exact ne_ok_of_error hrules (rules_ok.2 hcompile)
  | untyped hrelated hrules hbuilt htypes =>
    obtain ⟨hproperties, hpermissions, hserved, hrelations⟩ := related_iff.1 hrelated
    refine ⟨.rewiringDependents, rfl, [(.validating, _), (.validating, _), (.rebuildingMetadata, _),
      (.revalidatingRelationships, _), (.rewiringDependents, _)], _, _, rfl, ?_, fun hnames => ?_⟩
    · simpa [AllMet] using ⟨hproperties, hpermissions, hserved, hrelations, rules_ok.1 ⟨_, hrules⟩⟩
    · exact ne_ok_of_error htypes ((types_ok hproperties hbuilt).2 hnames)

end Requirements

/-! ## What the databases have to do with it -/

section Databases

variable {i : Introspectors ι} {i' : Introspectors ι'} {limit limit' : Duration} {now now' : Nat} {memory : ι}
  {memory' : ι'} {s s' : Snapshot} {e e' : ChangeError}

/-- providers are made of the configuration and of the kinds of databases that are served -/
theorem makeProvider_eq (hserves : i'.serves = i.serves) (hconfig : s'.config = s.config) :
    ProviderSet.makeProvider i' s'.config = ProviderSet.makeProvider i s.config := by
  funext name source
  unfold ProviderSet.makeProvider
  rw [hserves, hconfig]

theorem ofSnapshot_error {e : ConfigError} (hserves : i'.serves = i.serves) (hconfig : s'.config = s.config)
    (h : ProviderSet.ofSnapshot i s = .error e) : ProviderSet.ofSnapshot i' s' = .error e := by
  unfold ProviderSet.ofSnapshot at h ⊢
  rw [makeProvider_eq hserves hconfig, hconfig]
  cases hall : s.config.dataSources.tryMap (ProviderSet.makeProvider i s.config) with
  | ok providers =>
    rw [hall] at h
    cases h
  | error e =>
    rw [hall] at h
    exact h

/-- **In production the databases have no say** in what is required -/
theorem requirements_in_production [Pattern.Engine] (hserves : i'.serves = i.serves) (hconfig : s'.config = s.config)
    (hproduction : s.config.isDevelopment = false) (h : AllMet (requirements i limit now memory s)) :
    AllMet (requirements i' limit' now' memory' s') := by
  simp only [AllMet, requirements, List.forall_mem_cons, List.not_mem_nil, false_imp_iff, implies_true, and_true,
    hconfig, hproduction, Bool.false_eq_true, RuntimeConfig.SourcesServed, hserves] at h ⊢
  exact h

theorem related_in_production (hserves : i'.serves = i.serves) (hconfig : s'.config = s.config)
    (hproduction : s.config.isDevelopment = false) (h : Related i limit now memory s) :
    Related i' limit' now' memory' s' := by
  refine ⟨?_, ?_, fun hdev => ?_⟩
  · rw [hconfig]
    exact h.valid
  · refine ofSnapshot_ok.2 ?_
    have hserved := ofSnapshot_ok.1 h.made
    simp only [RuntimeConfig.SourcesServed, hconfig, hserves] at hserved ⊢
    exact hserved
  · rw [hconfig, hproduction] at hdev
    cases hdev

/-- a refusal in production stands whatever the databases answer -/
theorem refused_transfer [Pattern.Engine] (hserves : i'.serves = i.serves) (hconfig : s'.config = s.config)
    (hproduction : s.config.isDevelopment = false) (h : Refused i limit now memory s e) :
    Refused i' limit' now' memory' s' e := by
  cases h with
  | invalid hcheck => exact .invalid (hconfig ▸ hcheck)
  | unserved hvalid hset => exact .unserved (hconfig ▸ hvalid) (ofSnapshot_error hserves hconfig hset)
  | unrelated hvalid hdev =>
    rw [hproduction] at hdev
    cases hdev
  | unruled hrelated hrules =>
    exact .unruled (related_in_production hserves hconfig hproduction hrelated) (hconfig ▸ hrules)
  | untyped hrelated hrules hbuilt htypes =>
    have hrelated' : Related i' limit' now' memory' s' := related_in_production hserves hconfig hproduction hrelated
    obtain ⟨made, hmade⟩ := hrelated'.made
    have hbuilt' := builtFrom_ofSnapshot hmade
    refine .untyped hrelated' (hconfig ▸ hrules) hbuilt' (ofConfig_error.2 ?_)
    have hfind := find_sourceOf hrelated'.properties hbuilt'
    rw [hconfig] at hfind ⊢
    exact gather_error (find_sourceOf hrelated.properties hbuilt) hfind (ofConfig_error.1 htypes)

theorem refused_unique [Pattern.Engine] (h : Refused i limit now memory s e)
    (h' : Refused i limit now memory s e') : e = e' := by
  cases h with
  | invalid hcheck =>
    cases h' with
    | invalid hcheck' => cases hcheck.symm.trans hcheck'; rfl
    | unserved hvalid => cases hcheck.symm.trans hvalid
    | unrelated hvalid => cases hcheck.symm.trans hvalid
    | unruled hrelated => cases hcheck.symm.trans hrelated.valid
    | untyped hrelated => cases hcheck.symm.trans hrelated.valid
  | unserved hvalid hset =>
    cases h' with
    | invalid hcheck => cases hcheck.symm.trans hvalid
    | unserved _ hset' => cases hset.symm.trans hset'; rfl
    | unrelated _ _ hprepare =>
      obtain ⟨made, hmade, -⟩ := prepare_made hprepare
      cases hset.symm.trans hmade
    | unruled hrelated => exact absurd hrelated.made (ne_ok_of_error hset)
    | untyped hrelated => exact absurd hrelated.made (ne_ok_of_error hset)
  | unrelated hvalid hdev hprepare hcheck =>
    cases h' with
    | invalid hcheck' => cases hcheck'.symm.trans hvalid
    | unserved _ hset =>
      obtain ⟨made, hmade, -⟩ := prepare_made hprepare
      cases hset.symm.trans hmade
    | unrelated _ _ hprepare' hcheck' =>
      cases hprepare.symm.trans hprepare'
      cases hcheck.symm.trans hcheck'
      rfl
    | unruled hrelated => cases hcheck.symm.trans (hrelated.holds hdev _ _ hprepare)
    | untyped hrelated => cases hcheck.symm.trans (hrelated.holds hdev _ _ hprepare)
  | unruled hrelated hrules =>
    cases h' with
    | invalid hcheck => cases hcheck.symm.trans hrelated.valid
    | unserved _ hset => exact absurd hrelated.made (ne_ok_of_error hset)
    | unrelated _ hdev hprepare hcheck => cases hcheck.symm.trans (hrelated.holds hdev _ _ hprepare)
    | unruled _ hrules' => cases hrules.symm.trans hrules'; rfl
    | untyped _ hrules' => cases hrules.symm.trans hrules'
  | untyped hrelated hrules hbuilt htypes =>
    cases h' with
    | invalid hcheck => cases hcheck.symm.trans hrelated.valid
    | unserved _ hset => exact absurd hrelated.made (ne_ok_of_error hset)
    | unrelated _ hdev hprepare hcheck => cases hcheck.symm.trans (hrelated.holds hdev _ _ hprepare)
    | unruled _ hrules' => cases hrules.symm.trans hrules'
    | untyped _ _ hbuilt' htypes' =>
      have hsame := gather_error (find_sourceOf hrelated.properties hbuilt) (find_sourceOf hrelated.properties hbuilt')
        (ofConfig_error.1 htypes)
      cases hsame.symm.trans (ofConfig_error.1 htypes')
      rfl

/-- **In production the reason of a refusal does not depend on the databases** -/
theorem refused_in_production [Pattern.Engine] (hserves : i'.serves = i.serves) (hconfig : s'.config = s.config)
    (hproduction : s.config.isDevelopment = false) (h : Refused i limit now memory s e)
    (h' : Refused i' limit' now' memory' s' e') : e' = e :=
  refused_unique h' (refused_transfer hserves hconfig hproduction h)

/-! ### Less that is learned -/

/-- how the initializations of the data sources of a snapshot end -/
def endings (i : Introspectors ι) (limit : Duration) (now : Nat) (memory : ι) (s : Snapshot) : List (String × Ending) :=
  match ProviderSet.ofSnapshot i s with
  | .ok made => (made.launch i limit now memory).2.1.map fun t => (t.name, t.ending)
  | .error _ => []

theorem objects_finish {ending : Ending} (h : ending.succeeds = false) (p : Provider) :
    (p.finish ending).state.objects = p.state.objects := by
  unfold Ending.succeeds at h
  unfold Provider.finish
  split <;> first | rfl | cases h

theorem objects_begin {p : Provider} (hstate : p.state = {}) {d : Dialect} {source : DataSource} {refs : List ObjectRef}
    (h : p.begin.2 = .asks d source refs) : p.begin.1.state.objects = .empty := by
  unfold Provider.begin at h ⊢
  simp only [hstate] at h ⊢
  split at h
  · split at h
    · rfl
    · cases h
  · split at h <;> cases h

/-- what is learned of a data source is what is learned of it with others who are asked, or nothing, if what they have
learned is learned by the first too -/
theorem objects_of_less {p : Provider} {t t' : SourceTask} (hstate : p.state = {})
    (hover : ∀ e, p.begin.2 = .over e → t.ending = .atOnce e)
    (hover' : ∀ e, p.begin.2 = .over e → t'.ending = .atOnce e)
    (hless : t'.ending.succeeds = true → t'.ending = t.ending) :
    (p.begin.1.finish t'.ending).state.objects = (p.begin.1.finish t.ending).state.objects ∨
      (p.begin.1.finish t'.ending).state.objects = .empty := by
  rcases hbegin : p.begin.2 with ⟨d, source, refs⟩ | e
  · cases hsucceeds : t'.ending.succeeds with
    | true => exact Or.inl (by rw [hless hsucceeds])
    | false => exact Or.inr ((objects_finish hsucceeds _).trans (objects_begin hstate hbegin))
  · exact Or.inl (by rw [hover e hbegin, hover' e hbegin])

/-- relationships that agree with some objects agree with none -/
theorem checkRelated_of_less {p p' : Provider} {name : String} {entity : Entity}
    (h : RuntimeConfig.checkRelated p name entity = .ok ())
    (hobjects : p'.state.objects = p.state.objects ∨ p'.state.objects = .empty) :
    RuntimeConfig.checkRelated p' name entity = .ok () := by
  unfold RuntimeConfig.checkRelated at h ⊢
  rcases hobjects with hobjects | hobjects
  · rw [hobjects]
    exact h
  · rw [hobjects]
    rfl

theorem providers_eq {made made' : ProviderSet} (hserves : i'.serves = i.serves) (hconfig : s'.config = s.config)
    (hmade : ProviderSet.ofSnapshot i s = .ok made) (hmade' : ProviderSet.ofSnapshot i' s' = .ok made') :
    made'.providers = made.providers := by
  unfold ProviderSet.ofSnapshot at hmade hmade'
  rw [makeProvider_eq hserves hconfig, hconfig] at hmade'
  cases hall : s.config.dataSources.tryMap (ProviderSet.makeProvider i s.config) with
  | error e =>
    rw [hall] at hmade
    cases hmade
  | ok providers =>
    rw [hall] at hmade hmade'
    cases hmade
    cases hmade'
    rfl

/-- what succeeds with some introspectors does so with others, and in the same way -/
def LearnsLess (less more : List (String × Ending)) : Prop :=
  ∀ x ∈ less, x.2.succeeds = true → x ∈ more

/-- a data source of which less is learned has the objects that it has if more is learned, or none -/
theorem find_of_less (hserves : i'.serves = i.serves) (hconfig : s'.config = s.config)
    (hless : LearnsLess (endings i' limit' now' memory' s') (endings i limit now memory s)) {set learned : ProviderSet}
    {rest : InitializationReport × Nat × ι} {rest' : InitializationReport × Nat × ι'}
    (hprepare : ProviderSet.prepare i limit now s memory = .ok (set, rest))
    (hprepare' : ProviderSet.prepare i' limit' now' s' memory' = .ok (learned, rest')) {name : String} {p : Provider}
    (hp : set.find name = .ok p) :
    ∃ p', learned.find name = .ok p' ∧ (p'.state.objects = p.state.objects ∨ p'.state.objects = .empty) := by
  have hbuilt := builtFrom_prepare hprepare
  obtain ⟨made, hmade, rfl⟩ := prepare_made hprepare
  obtain ⟨made', hmade', rfl⟩ := prepare_made hprepare'
  obtain ⟨q, hq⟩ := made_of_found hmade hbuilt hp
  have hq' : made'.providers.get? name = some q := by
    rw [providers_eq hserves hconfig hmade hmade']
    exact hq
  have hstate : q.state = {} := (ProviderSet.made_ofSnapshot hmade _ ((NameMap.mem_entries_iff _ _ _).2 hq)).2
  have hnamed := ProviderSet.named_ofSnapshot hmade
  have hnamed' := ProviderSet.named_ofSnapshot hmade'
  obtain ⟨t, ht, htname, ⟨m, htask⟩, hlearned⟩ := get?_learned i limit now memory hnamed hq
  obtain ⟨t', ht', htname', ⟨m', htask'⟩, hlearned'⟩ := get?_learned i' limit' now' memory' hnamed' hq'
  cases hlearned.symm.trans (find_ok.1 hp)
  have hover : ∀ e, q.begin.2 = .over e → t.ending = .atOnce e := htask ▸ (launch_eq i limit now q m).2.2
  have hover' : ∀ e, q.begin.2 = .over e → t'.ending = .atOnce e := htask' ▸ (launch_eq i' limit' now' q m').2.2
  refine ⟨_, find_ok.2 hlearned', objects_of_less hstate hover hover' fun hsucceeds => ?_⟩
  -- what succeeds here is how the same data source comes to its end there
  have hmem : (t'.name, t'.ending) ∈ endings i limit now memory s := by
    refine hless _ ?_ hsucceeds
    simp only [endings, hmade']
    exact List.mem_map_of_mem ht'
  simp only [endings, hmade] at hmem
  obtain ⟨u, hu, hsame⟩ := List.mem_map.1 hmem
  have hname : u.name = t.name := (Prod.ext_iff.1 hsame).1.trans (htname'.trans htname.symm)
  exact (Prod.ext_iff.1 hsame).2.symm.trans (congrArg SourceTask.ending (task_unique i hnamed hu ht hname))

/-- a set of which less is learned agrees with all that one agrees with of which more is learned -/
theorem checkAgainst_of_less {set learned : ProviderSet} {c : RuntimeConfig}
    (hfind : ∀ name p, set.find name = .ok p →
      ∃ p', learned.find name = .ok p' ∧ (p'.state.objects = p.state.objects ∨ p'.state.objects = .empty))
    (h : c.checkAgainst set = .ok ()) : c.checkAgainst learned = .ok () := by
  unfold RuntimeConfig.checkAgainst at h ⊢
  rw [forM_ok] at h ⊢
  intro entry he
  have hentry := h entry he
  cases hrelationships : entry.2.relationships.isEmpty with
  | true => simp [hrelationships]
  | false =>
    simp only [hrelationships, Bool.false_eq_true, if_false] at hentry ⊢
    obtain ⟨p, hp, hrelated⟩ := ok_of_bind hentry
    obtain ⟨p', hp', hobjects⟩ := hfind _ p hp
    have hchecked : RuntimeConfig.checkRelated p entry.1 entry.2 = .ok () := by
      cases hresult : RuntimeConfig.checkRelated p entry.1 entry.2 with
      | ok _ => rfl
      | error e => simp [hresult, Except.mapError] at hrelated
    simp [hp', checkRelated_of_less hchecked hobjects, bind, Except.bind, Except.mapError]

/-- **Nothing is refused because less is learned**: introspectors that fail, break down or do not answer in time cannot
stand against a snapshot -/
theorem requirements_of_less [Pattern.Engine] (hserves : i'.serves = i.serves) (hconfig : s'.config = s.config)
    (hless : LearnsLess (endings i' limit' now' memory' s') (endings i limit now memory s))
    (h : AllMet (requirements i limit now memory s)) : AllMet (requirements i' limit' now' memory' s') := by
  simp only [AllMet, requirements, List.forall_mem_cons, List.not_mem_nil, false_imp_iff, implies_true, and_true,
    RuntimeConfig.SourcesServed, hserves, hconfig] at h ⊢
  obtain ⟨hproperties, hpermissions, hserved, hrelations, hrules, hnames⟩ := h
  refine ⟨hproperties, hpermissions, hserved, fun hdev => ⟨?_, fun learned rest' hprepare' => ?_⟩, hrules, hnames⟩
  · rw [hconfig]
    exact (hrelations hdev).1
  · obtain ⟨made, hmade⟩ := ofSnapshot_ok.2 hserved
    rw [hconfig]
    exact checkAgainst_of_less (fun name p => find_of_less hserves hconfig hless (prepare_of_made hmade) hprepare')
      ((hrelations hdev).2 _ _ (prepare_of_made hmade))

end Databases

end EntityGateway
