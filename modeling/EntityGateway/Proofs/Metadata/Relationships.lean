/-
Which relationships are accepted.

Relationships are looked at twice: by themselves, and against the objects that databases turned out to have. Neither
check is complete. The first does not know any objects, and the second passes over entities without an object and over
entities that do not exist. What both of them accept is exactly what `Relates` says of each relationship, and it does
not matter from which of two entities a relationship without fields starts.

- `Relates`: what is required of a relationship;
- `accepts_iff`: both checks together, for every set in which the data sources of the entities are found;
- `accepts_relate`: one relationship more;
- `relationships_are_decided`: the whole of it, for a set prepared for a configuration with the right properties.
-/
import EntityGateway.Proofs.Served.Criteria

namespace EntityGateway

/-! ## What is required -/

/-- a foreign key names an object; a schema that is not given fits every schema -/
def ForeignKey.Names (k : ForeignKey) (o : DatabaseObject) : Prop :=
  k.name = o.name ∧ ∀ schema schema', k.schema = some schema → o.schema = some schema' → schema = schema'

/-- one of two objects has a foreign key to the other -/
def DatabaseObject.Linked (o o' : DatabaseObject) : Prop :=
  (∃ k ∈ o.foreignKeys, k.Names o') ∨ ∃ k ∈ o'.foreignKeys, k.Names o

def DatabaseObject.HasColumn (o : DatabaseObject) (name : String) : Prop := ∃ column ∈ o.columns, column.name = name

/-- a relationship names no fields -/
def Relationship.IsPlain (r : Relationship) : Prop := r.sourceFields = [] ∧ r.targetFields = []

/-- a relationship fits two objects -/
structure Relationship.Fits (r : Relationship) (source target : DatabaseObject) : Prop where
  linked : r.IsPlain → source.Linked target
  sourceColumns : ∀ field ∈ r.sourceFields, source.HasColumn field
  targetColumns : ∀ field ∈ r.targetFields, target.HasColumn field

namespace RuntimeConfig

/-- what is required of a relationship of an entity -/
structure Relates (c : RuntimeConfig) (set : ProviderSet) (name : String) (e : Entity) (r : Relationship) : Prop where
  /-- it leads to a table or view on the data source of its own table or view -/
  partner : ∃ partner, c.entities.get? r.target = some partner ∧ c.sourceOf e = c.sourceOf partner ∧
    e.isProcedure = false ∧ partner.isProcedure = false
  lengths : r.sourceFields.length = r.targetFields.length
  /-- it fits the objects of both entities, if both were found -/
  fits : ∀ p source target, set.find (c.sourceOf e) = .ok p → p.state.objects.get? name = some source →
    p.state.objects.get? r.target = some target → r.Fits source target

/-- every relationship of every entity is as it is required -/
def AllRelate (c : RuntimeConfig) (set : ProviderSet) : Prop :=
  ∀ name e label r, c.entities.get? name = some e → e.relationships.get? label = some r → c.Relates set name e r

/-- both checks of relationships accept a configuration -/
def Accepts (c : RuntimeConfig) (set : ProviderSet) : Prop :=
  c.checkRelationships = .ok () ∧ c.checkAgainst set = .ok ()

/-- the data source of every entity is found in a set -/
def Finds (c : RuntimeConfig) (set : ProviderSet) : Prop :=
  ∀ name e, c.entities.get? name = some e → ∃ p, set.find (c.sourceOf e) = .ok p

/-! ## Two objects -/

section Objects

variable {name label : String} {r : Relationship} {o source target : DatabaseObject} {fields : List String}

theorem names_iff {k : ForeignKey} : k.leadsTo o = true ↔ k.Names o := by
  unfold ForeignKey.leadsTo ForeignKey.Names
  cases k.schema <;> cases o.schema <;> simp

theorem linked_iff : areLinked source target = true ↔ source.Linked target := by
  simp only [areLinked, DatabaseObject.references, Bool.or_eq_true, List.any_eq_true, names_iff, DatabaseObject.Linked]

theorem linked_comm : source.Linked target ↔ target.Linked source := or_comm

theorem checkColumns_ok : checkColumns name label o fields = .ok () ↔ ∀ field ∈ fields, o.HasColumn field := by
  unfold checkColumns
  rw [forM_ok]
  simp only [ensure_ok, DatabaseObject.column?, List.find?_isSome, beq_iff_eq, DatabaseObject.HasColumn]

/-- fields of the same number on both sides are looked at on both sides or on neither -/
theorem checkObjects_ok (hlengths : r.sourceFields.length = r.targetFields.length) :
    checkObjects name label r source target = .ok () ↔ r.Fits source target := by
  unfold checkObjects
  split_ifs with hnone
  · have hsource : r.sourceFields = [] := List.isEmpty_iff.1 hnone
    have htarget : r.targetFields = [] := List.eq_nil_of_length_eq_zero (by rw [← hlengths, hsource]; rfl)
    rw [ensure_ok, linked_iff]
    exact ⟨fun h => ⟨fun _ => h, by simp [hsource], by simp [htarget]⟩, fun h => h.linked ⟨hsource, htarget⟩⟩
  · rw [bind_ok, checkColumns_ok, checkColumns_ok]
    refine ⟨fun h => ⟨fun hplain => absurd (List.isEmpty_iff.2 hplain.1) hnone, h.1, h.2⟩, fun h => ?_⟩
    exact ⟨h.sourceColumns, h.targetColumns⟩

end Objects

/-! ## Both checks -/

section Checks

variable {c : RuntimeConfig} {set : ProviderSet} {name label : String} {e : Entity} {r : Relationship} {p : Provider}

theorem checkRelationship_ok : c.checkRelationship name e label r = .ok () ↔
    (∃ partner, c.entities.get? r.target = some partner ∧ c.sourceOf e = c.sourceOf partner ∧
      e.isProcedure = false ∧ partner.isProcedure = false) ∧ r.sourceFields.length = r.targetFields.length := by
  unfold checkRelationship
  cases c.entities.get? r.target with
  | none => simp
  | some partner => simp [bind_ok, ensure_ok, and_assoc]

theorem checkRelationships_ok : c.checkRelationships = .ok () ↔ ∀ name e label r, c.entities.get? name = some e →
    e.relationships.get? label = some r → c.checkRelationship name e label r = .ok () := by
  unfold checkRelationships
  rw [forM_ok, NameMap.forall_mem_entries]
  refine forall₂_congr fun name e => ?_
  simp only [forM_ok, NameMap.forall_mem_entries]
  exact ⟨fun h label r he => h he label r, fun h he label r => h label r he⟩

theorem checkRelated_ok : checkRelated p name e = .ok () ↔ ∀ label r, e.relationships.get? label = some r →
    ∀ source target, p.state.objects.get? name = some source → p.state.objects.get? r.target = some target →
      checkObjects name label r source target = .ok () := by
  unfold checkRelated
  cases p.state.objects.get? name with
  | none => simp
  | some source =>
    simp only [forM_ok, NameMap.forall_mem_entries]
    refine forall₃_congr fun label r _ => ?_
    cases p.state.objects.get? r.target <;> simp

theorem checkOne_ok (hp : set.find (c.sourceOf e) = .ok p) :
    (if e.relationships.isEmpty then .ok () else do
      let p ← set.find (c.sourceOf e)
      (checkRelated p name e).mapError GatewayError.config) = .ok () ↔ checkRelated p name e = .ok () := by
  split_ifs with hnone
  · have hempty : e.relationships.entries = [] := List.isEmpty_iff.1 hnone
    refine iff_of_true rfl (checkRelated_ok.2 fun label r hr => ?_)
    rw [← NameMap.mem_entries_iff, hempty] at hr
    cases hr
  · rw [hp]
    cases hchecked : checkRelated p name e <;> simp [bind, Except.bind, Except.mapError, hchecked]

theorem checkAgainst_ok (hfinds : c.Finds set) : c.checkAgainst set = .ok () ↔
    ∀ name e p, c.entities.get? name = some e → set.find (c.sourceOf e) = .ok p → checkRelated p name e = .ok () := by
  unfold checkAgainst
  rw [forM_ok, NameMap.forall_mem_entries]
  refine forall₂_congr fun name e => ⟨fun h p he hp => (checkOne_ok hp).1 (h he), fun h he => ?_⟩
  obtain ⟨p, hp⟩ := hfinds name e he
  exact (checkOne_ok hp).2 (h p he hp)

/-- **Both checks together accept what is required** -/
theorem accepts_iff (hfinds : c.Finds set) : c.Accepts set ↔ c.AllRelate set := by
  rw [Accepts, checkRelationships_ok, checkAgainst_ok hfinds]
  constructor
  · rintro ⟨halone, hagainst⟩ name e label r he hr
    obtain ⟨hpartner, hlengths⟩ := checkRelationship_ok.1 (halone name e label r he hr)
    refine ⟨hpartner, hlengths, fun p source target hp hsource htarget => ?_⟩
    have hchecked := checkRelated_ok.1 (hagainst name e p he hp) label r hr source target hsource htarget
    exact (checkObjects_ok hlengths).1 hchecked
  · intro h
    refine ⟨fun name e label r he hr => ?_, fun name e p he hp => checkRelated_ok.2 fun label r hr => ?_⟩
    · have hrelates := h name e label r he hr
      exact checkRelationship_ok.2 ⟨hrelates.partner, hrelates.lengths⟩
    · have hrelates := h name e label r he hr
      exact fun source target hsource htarget =>
        (checkObjects_ok hrelates.lengths).2 (hrelates.fits p source target hp hsource htarget)

theorem config_of_checkAgainst {problem : GatewayError} (hfinds : c.Finds set)
    (h : c.checkAgainst set = .error problem) : ∃ e, problem = .config e := by
  obtain ⟨⟨name, e⟩, he, hproblem⟩ := error_of_forM h
  obtain ⟨p, hp⟩ := hfinds name e ((NameMap.mem_entries_iff _ _ _).1 he)
  simp only [hp] at hproblem
  split_ifs at hproblem
  cases hchecked : checkRelated p name e with
  | ok _ => simp [hchecked, bind, Except.bind, Except.mapError] at hproblem
  | error e' =>
    simp only [hchecked, bind, Except.bind, Except.mapError, Except.error.injEq] at hproblem
    exact ⟨e', hproblem.symm⟩

end Checks

/-! ## One relationship more -/

/-- an entity after one of them got a relationship more -/
def relatedEntity (owner label : String) (r : Relationship) (name : String) (e : Entity) : Entity :=
  if name = owner then { e with relationships := e.relationships.insert label r } else e

def relate (c : RuntimeConfig) (owner label : String) (r : Relationship) : RuntimeConfig :=
  { c with entities := c.entities.mapWithName (relatedEntity owner label r) }

section Relate

variable {c : RuntimeConfig} {set : ProviderSet} {owner name label other : String} {e partner : Entity}
  {r added back : Relationship}

theorem sourceOf_relatedEntity : c.sourceOf (relatedEntity owner label added name e) = c.sourceOf e := by
  unfold relatedEntity
  split_ifs <;> rfl

theorem isProcedure_relatedEntity : (relatedEntity owner label added name e).isProcedure = e.isProcedure := by
  unfold relatedEntity
  split_ifs <;> rfl

theorem get?_relatedEntity : (relatedEntity owner label added name e).relationships.get? other =
    if name = owner ∧ other = label then some added else e.relationships.get? other := by
  unfold relatedEntity
  by_cases howner : name = owner
  · simp only [howner, if_true, NameMap.get?_insert, true_and]
  · simp only [howner, if_false, false_and]

theorem get?_relate : (c.relate owner label added).entities.get? name =
    (c.entities.get? name).map (relatedEntity owner label added name) := NameMap.get?_mapWithName ..

theorem finds_relate (hfinds : c.Finds set) : (c.relate owner label added).Finds set := by
  intro name e he
  rw [get?_relate] at he
  obtain ⟨before, hbefore, rfl⟩ := Option.map_eq_some_iff.1 he
  obtain ⟨p, hp⟩ := hfinds name before hbefore
  exact ⟨p, (congrArg set.find sourceOf_relatedEntity).trans hp⟩

/-- what is required of a relationship does not depend on other relationships -/
theorem relates_relate : (c.relate owner label added).Relates set name (relatedEntity owner label added name e) r ↔
    c.Relates set name e r := by
  have hsource : ∀ e, (c.relate owner label added).sourceOf e = c.sourceOf e := fun _ => rfl
  have hpartner : (∃ partner, (c.relate owner label added).entities.get? r.target = some partner ∧
      c.sourceOf e = c.sourceOf partner ∧ e.isProcedure = false ∧ partner.isProcedure = false) ↔
      ∃ partner, c.entities.get? r.target = some partner ∧ c.sourceOf e = c.sourceOf partner ∧
        e.isProcedure = false ∧ partner.isProcedure = false := by
    rw [get?_relate]
    cases c.entities.get? r.target <;> simp [sourceOf_relatedEntity, isProcedure_relatedEntity]
  constructor
  · rintro ⟨h, hlengths, hfits⟩
    simp only [hsource, sourceOf_relatedEntity, isProcedure_relatedEntity] at h hfits
    exact ⟨hpartner.1 h, hlengths, hfits⟩
  · rintro ⟨h, hlengths, hfits⟩
    refine ⟨?_, hlengths, ?_⟩ <;> simp only [hsource, sourceOf_relatedEntity, isProcedure_relatedEntity]
    · exact hpartner.2 h
    · exact hfits

theorem allRelate_relate (he : c.entities.get? owner = some e) (hnew : e.relationships.get? label = none) :
    (c.relate owner label added).AllRelate set ↔ c.AllRelate set ∧ c.Relates set owner e added := by
  constructor
  · intro h
    refine ⟨fun name e' other r he' hr => ?_, ?_⟩
    · have hentity : (c.relate owner label added).entities.get? name =
          some (relatedEntity owner label added name e') := by
        rw [get?_relate, he']
        rfl
      refine relates_relate.1 (h name _ other r hentity ?_)
      rw [get?_relatedEntity, if_neg, hr]
      rintro ⟨rfl, rfl⟩
      cases he.symm.trans he'
      cases hnew.symm.trans hr
    · have hentity : (c.relate owner label added).entities.get? owner =
          some (relatedEntity owner label added owner e) := by
        rw [get?_relate, he]
        rfl
      refine relates_relate.1 (h owner _ label added hentity ?_)
      rw [get?_relatedEntity, if_pos ⟨rfl, rfl⟩]
  · rintro ⟨hall, hadded⟩ name e' other r he' hr
    rw [get?_relate] at he'
    obtain ⟨before, hbefore, rfl⟩ := Option.map_eq_some_iff.1 he'
    rw [get?_relatedEntity] at hr
    refine relates_relate.2 ?_
    split_ifs at hr with hthis
    · obtain ⟨rfl, -⟩ := hthis
      cases he.symm.trans hbefore
      cases hr
      exact hadded
    · exact hall name before other r hbefore hr

/-- **A configuration with a relationship more is accepted** if it is without it, and the relationship is as required -/
theorem accepts_relate (hfinds : c.Finds set) (he : c.entities.get? owner = some e)
    (hnew : e.relationships.get? label = none) :
    (c.relate owner label added).Accepts set ↔ c.Accepts set ∧ c.Relates set owner e added := by
  rw [accepts_iff (finds_relate hfinds), accepts_iff hfinds, allRelate_relate he hnew]

/-- a relationship without fields is as good as the one that leads back -/
theorem relates_back (he : c.entities.get? owner = some e) (hpartner : c.entities.get? added.target = some partner)
    (hback : back.target = owner) (hplain : back.IsPlain) (hadded : added.IsPlain) (h : c.Relates set owner e added) :
    c.Relates set added.target partner back := by
  obtain ⟨partner', hpartner', hsource, htable, htable'⟩ := h.partner
  cases hpartner.symm.trans hpartner'
  refine ⟨⟨e, hback ▸ he, hsource.symm, htable', htable⟩, by rw [hplain.1, hplain.2], ?_⟩
  intro p target source hp htarget hobject
  rw [hback] at hobject
  have hfits := h.fits p source target (by rw [hsource, hp]) hobject htarget
  refine ⟨fun _ => linked_comm.1 (hfits.linked hadded), ?_, ?_⟩
  · simp [hplain.1]
  · simp [hplain.2]

end Relate

/-! ## Prepared sets -/

section Prepared

variable {i : Introspectors ι} {limit : Duration} {now : Nat} {memory : ι} {s : Snapshot} {set : ProviderSet}
  {rest : InitializationReport × Nat × ι}

theorem finds_of_prepare (hvalid : s.config.checkProperties = .ok ())
    (hprepare : ProviderSet.prepare i limit now s memory = .ok (set, rest)) : s.config.Finds set :=
  fun name e he => find_of_builtFrom (builtFrom_prepare hprepare)
    (contains_sourceOf hvalid (name, e) ((NameMap.mem_entries_iff _ _ _).2 he))

/-- **Relationships are accepted just if each of them is as it is required**; nothing is said about data sources that
are not found, and a relationship without fields is as good as the one that leads back -/
theorem relationships_are_decided (hvalid : s.config.checkProperties = .ok ())
    (hprepare : ProviderSet.prepare i limit now s memory = .ok (set, rest)) :
    (s.config.Accepts set ↔ s.config.AllRelate set) ∧
    (∀ name, s.config.checkAgainst set ≠ .error (.dataSourceNotFound name)) ∧
    ∀ a b e e' label label' r r', s.config.entities.get? a = some e → s.config.entities.get? b = some e' →
      e.relationships.get? label = none → e'.relationships.get? label' = none →
      r.target = b → r'.target = a → r.IsPlain → r'.IsPlain →
      ((s.config.relate a label r).Accepts set ↔ (s.config.relate b label' r').Accepts set) := by
  have hfinds : s.config.Finds set := finds_of_prepare hvalid hprepare
  refine ⟨accepts_iff hfinds, fun name h => ?_, ?_⟩
  · obtain ⟨e, he⟩ := config_of_checkAgainst hfinds h
    cases he
  · rintro a b e e' label label' r r' he he' hnew hnew' rfl rfl hplain hplain'
    rw [accepts_relate hfinds he hnew, accepts_relate hfinds he' hnew']
    refine and_congr_right fun _ => ⟨relates_back he he' rfl hplain' hplain, relates_back he' he rfl hplain hplain'⟩

end Prepared

end RuntimeConfig

/-! ### Books and their authors -/

/-- books that have an author by a field, and authors -/
def authoredConfig : RuntimeConfig :=
  { World.plainConfig with
    entities := (NameMap.empty.insert "authors" { source := { object := "authors" } }).insert "books"
      { source := { object := "books" },
        relationships := NameMap.empty.insert "author" ⟨.one, "authors", ["author_id"], ["id"]⟩ } }

/-- a database in which books have a foreign key to authors -/
def authoredDatabases : Introspectors Unit where
  serves _ := true
  ask _ _ _ memory :=
    let id : Column := { name := "id", dataType := "int" }
    let authors : DatabaseObject :=
      { schema := some "public", name := "authors", columns := [id], primaryKey := ["id"] }
    let books : DatabaseObject :=
      { schema := some "public", name := "books", columns := [id, { name := "author_id", dataType := "int" }],
        primaryKey := ["id"], foreignKeys := [⟨some "public", "authors", ["author_id"], ["id"]⟩] }
    (⟨some ⟨0⟩, .found [authors, books]⟩, memory)

theorem authors_relate_both_ways : ∃ set rest,
    authoredConfig.checkProperties = .ok () ∧
    ProviderSet.prepare authoredDatabases (.ofSeconds 15) 0 ⟨0, authoredConfig⟩ () = .ok (set, rest) ∧
    authoredConfig.AllRelate set ∧
    (authoredConfig.relate "books" "writer" ⟨.one, "authors", [], []⟩).Accepts set ∧
    (authoredConfig.relate "authors" "works" ⟨.many, "books", [], []⟩).Accepts set := by
  obtain ⟨set, rest, hvalid, hprepare, haccepted, hthere⟩ : ∃ set rest,
      authoredConfig.checkProperties = .ok () ∧
      ProviderSet.prepare authoredDatabases (.ofSeconds 15) 0 ⟨0, authoredConfig⟩ () = .ok (set, rest) ∧
      authoredConfig.Accepts set ∧
      (authoredConfig.relate "books" "writer" ⟨.one, "authors", [], []⟩).Accepts set :=
    ⟨_, _, rfl, rfl, ⟨rfl, rfl⟩, ⟨rfl, rfl⟩⟩
  obtain ⟨hdecided, -, hback⟩ := RuntimeConfig.relationships_are_decided hvalid hprepare
  refine ⟨set, rest, hvalid, hprepare, hdecided.1 haccepted, hthere, ?_⟩
  exact (hback "books" "authors" _ _ "writer" "works" _ _ rfl rfl rfl rfl rfl rfl ⟨rfl, rfl⟩ ⟨rfl, rfl⟩).1 hthere

end EntityGateway
