/-
Which object an entity gets.

A database is asked for each reference once; two references are the same if they agree in schema, name and kind. Among
the objects that are found, an entity gets the first one that fits its reference, and there neither the kind nor the
case of letters counts. So entities get their own objects as long as no two references on their data source fit each
other, and only then: a database in which just one of two such objects exists gives it to both entities.

- `mem_refs`, `nodup_refs`: what is asked for;
- `Postgres.answersFor_introspectors`: PostgreSQL answers with what it was asked for;
- `own_objects_iff`: when entities get their own objects;
- `books_of_another_kind`: a database in which they do not.
-/
import EntityGateway.Proofs.Metadata.Initialization
import EntityGateway.Metadata.Postgres
import EntityGateway.Proofs.Orchestration.Course

namespace EntityGateway

/-! ## References and their objects -/

def DatabaseObject.ref (o : DatabaseObject) : ObjectRef := ⟨o.schema, o.name, o.kind⟩

def ObjectRef.object (r : ObjectRef) : DatabaseObject := { schema := r.schema, name := r.name, kind := r.kind }

/-- a reference fits an object because of the reference that the object carries -/
theorem ObjectRef.fits_object (r : ObjectRef) (o : DatabaseObject) : r.fits o.ref.object = r.fits o := rfl

/-- objects that were asked for, each once -/
structure AnswerTo (refs : List ObjectRef) (found : List DatabaseObject) : Prop where
  asked : ∀ o ∈ found, o.ref ∈ refs
  once : (found.map (·.ref)).Nodup

/-- whoever is asked for some objects of a data source finds at most these -/
def Introspectors.AnswersFor (i : Introspectors ι) (d : Dialect) (source : DataSource) (refs : List ObjectRef) : Prop :=
  ∀ memory found, (i.ask d source refs memory).1.outcome = .found found → AnswerTo refs found

namespace Provider

variable {p q : Provider} {d : Dialect} {source : DataSource} {found : List DatabaseObject}

theorem mem_foldl_refs {r : ObjectRef} {l : List (String × Entity)} {asked : List ObjectRef} :
    r ∈ l.foldl (fun refs e => if refs.contains (refOf d e.2) then refs else refs ++ [refOf d e.2]) asked ↔
      r ∈ asked ∨ ∃ e ∈ l, refOf d e.2 = r := by
  induction l generalizing asked with
  | nil => simp
  | cons e l ih =>
    rw [List.foldl_cons, ih]
    split_ifs with hasked
    · have hmem : refOf d e.2 ∈ asked := List.contains_iff_mem.1 hasked
      simp only [List.exists_mem_cons_iff]
      refine ⟨Or.imp_right Or.inr, ?_⟩
      rintro (h | rfl | h)
      · exact .inl h
      · exact .inl hmem
      · exact .inr h
    · simp only [List.mem_append, List.mem_singleton, List.exists_mem_cons_iff, or_assoc, eq_comm]

theorem mem_refs {r : ObjectRef} {l : List (String × Entity)} : r ∈ refs d l ↔ ∃ e ∈ l, refOf d e.2 = r := by
  rw [refs, mem_foldl_refs]
  simp

theorem nodup_refs (d : Dialect) (l : List (String × Entity)) : (refs d l).Nodup := by
  have hfold : ∀ asked : List ObjectRef, asked.Nodup →
      (l.foldl (fun refs e => if refs.contains (refOf d e.2) then refs else refs ++ [refOf d e.2]) asked).Nodup := by
    induction l with
    | nil => exact fun _ h => h
    | cons e l ih =>
      intro asked hasked
      rw [List.foldl_cons]
      split_ifs with hmem
      · exact ih asked hasked
      · refine ih _ (List.nodup_append.2 ⟨hasked, by simp, fun r hr r' hr' he => ?_⟩)
        rw [List.mem_singleton] at hr'
        exact hmem (List.contains_iff_mem.2 (hr' ▸ he ▸ hr))
  exact hfold [] .nil

/-- no two references on a data source fit each other -/
def TellsApart (p : Provider) (d : Dialect) : Prop :=
  ∀ r ∈ refs d p.entities, ∀ r' ∈ refs d p.entities, r.fits r'.object = true → r' = r

/-- the objects that entities have are those that were found for their own references -/
def HasOwn (p : Provider) (d : Dialect) (found : List DatabaseObject) : Prop :=
  ∀ entity o, p.state.objects.get? entity = some o → ∃ e own, (entity, e) ∈ p.entities ∧ own ∈ found ∧
    own.ref = refOf d e ∧ checkObject p.name d entity e.source.keyFields own = .ok o ∧ o.ref = refOf d e

/-! ## First matches -/

theorem ref_checkObject {name entity : String} {keyFields : List String} {own o : DatabaseObject}
    (h : checkObject name d entity keyFields own = .ok o) : o.ref = own.ref := by
  cases h ▸ checked_checkObject name d entity keyFields own with
  | used key => rfl

/-- an initialization that is answered with objects succeeds, and gives each entity what it makes of them -/
theorem initialization_found {i : Introspectors ι} {memory : ι} (hkind : p.kind = .sql d)
    (hsource : p.source? = some source)
    (hfound : (i.ask d source (refs d p.entities) memory).1.outcome = .found found) :
    p.initialization i memory = (.ok (), Provider.publish { p with state := p.state.reset }
      (entityObject p.name d found), (i.ask d source (refs d p.entities) memory).2) := by
  unfold initialization
  rw [begin_sql hkind hsource]
  simp only [hfound]
  unfold publishFound forgotten
  simp only [hkind]

/-- the first object that fits a reference is its own if no other reference fits it -/
theorem hasOwn_of_tellsApart (htells : p.TellsApart d) (hfound : AnswerTo (refs d p.entities) found) :
    (Provider.publish p (entityObject p.name d found)).HasOwn d found := by
  intro entity o ho
  obtain ⟨e, he, hmade⟩ := get?_publish.1 ho
  unfold entityObject at hmade
  split at hmade
  · rename_i own hown
    have hmem := List.mem_of_find?_eq_some hown
    have hfits : (refOf d e).fits own.ref.object = true :=
      (ObjectRef.fits_object _ own).trans (List.find?_some hown)
    have href : own.ref = refOf d e := htells _ (mem_refs.2 ⟨_, he, rfl⟩) _ (hfound.asked own hmem) hfits
    exact ⟨e, own, he, hmem, href, hmade, (ref_checkObject hmade).trans href⟩
  · cases hmade

/-! ## Objects of others -/

/-- a database in which one object exists -/
def lonely (o : DatabaseObject) : Introspectors Unit where
  serves _ := true
  ask _ _ refs memory := (⟨some ⟨0⟩, .found (if refs.contains o.ref then [o] else [])⟩, memory)

theorem answersFor_lonely (o : DatabaseObject) (refs : List ObjectRef) : (lonely o).AnswersFor d source refs := by
  rintro memory found hfound
  cases hfound
  split_ifs with hasked
  · exact ⟨List.forall_mem_singleton.2 (List.contains_iff_mem.1 hasked), List.nodup_singleton _⟩
  · exact ⟨by simp, .nil⟩

/-- an object that an entity can use, whatever its key fields are -/
def usable (r : ObjectRef) (e : Entity) : DatabaseObject :=
  { r.object with columns := e.source.keyFields.map fun k => ⟨k, "text", false, false⟩, primaryKey := ["id"] }

theorem column?_usable (r : ObjectRef) {e : Entity} {k : String} (hk : k ∈ e.source.keyFields) :
    ((usable r e).column? k).isNone = false := by
  rw [Option.isNone_eq_false_iff, DatabaseObject.column?, List.find?_isSome]
  exact ⟨_, List.mem_map_of_mem hk, beq_self_eq_true k⟩

theorem checkObject_usable (name : String) (d : Dialect) (entity : String) (r : ObjectRef) (e : Entity) :
    ∃ o, checkObject name d entity e.source.keyFields (usable r e) = .ok o := by
  have hkeys : (e.source.keyFields.find? fun k => ((usable r e).column? k).isNone) = none := by
    refine List.find?_eq_none.2 fun k hk => ?_
    rw [column?_usable r hk]
    exact Bool.false_ne_true
  unfold checkObject
  split
  · exact ⟨_, rfl⟩
  all_goals
    rw [hkeys]
    cases e.source.keyFields <;> exact ⟨_, rfl⟩

/-- **When entities get their own objects**: whatever a database answers of what it is asked for, if and only if no two
references on the data source fit each other -/
theorem own_objects_iff (hkind : p.kind = .sql d) (hsource : p.source? = some source) :
    (∀ (ι : Type) (i : Introspectors ι), i.AnswersFor d source (refs d p.entities) → ∀ memory found q rest,
      (i.ask d source (refs d p.entities) memory).1.outcome = .found found →
        p.initialization i memory = (.ok (), q, rest) → q.HasOwn d found) ↔ p.TellsApart d := by
  constructor
  · intro h r hr r' hr' hfits
    obtain ⟨⟨entity, e⟩, he, rfl⟩ := mem_refs.1 hr
    -- of the two objects there is only the one of the other reference, and the entity can use it
    have hasked : ((lonely (usable r' e)).ask d source (refs d p.entities) ()).1.outcome = .found [usable r' e] :=
      congrArg Outcome.found (if_pos (List.contains_iff_mem.2 hr'))
    obtain ⟨o, hused⟩ := checkObject_usable p.name d entity r' e
    have hmade : entityObject p.name d [usable r' e] entity e = .ok o := by
      have hfirst : [usable r' e].find? (refOf d e).fits = some (usable r' e) := List.find?_cons_of_pos hfits
      unfold entityObject
      rw [hfirst]
      exact hused
    have hown := h Unit (lonely (usable r' e)) (answersFor_lonely _ _) () _ _ _ hasked
      (initialization_found hkind hsource hasked)
    obtain ⟨e', own, he', hmem, href, -⟩ := hown entity o (get?_publish.2 ⟨e, he, hmade⟩)
    obtain rfl : e' = e := Option.some.inj ((mem_entities.1 he').1.symm.trans (mem_entities.1 he).1)
    rw [List.mem_singleton.1 hmem] at href
    exact href
  · intro htells ι i hanswers memory found q rest hfound hinit
    rw [initialization_found hkind hsource hfound] at hinit
    cases hinit
    exact hasOwn_of_tellsApart (p := { p with state := p.state.reset }) htells (hanswers memory found hfound)

end Provider

/-! ## PostgreSQL -/

namespace Postgres

variable {σ : Type} {server : Server σ}

/-- what a conversation comes to that goes well, it comes to by what each part of it does -/
theorem ok_of_bind_run {x : Conversation σ α} {f : α → Conversation σ β} {st st' : σ} {b : β}
    (h : (x >>= f).run st = (.ok b, st')) : ∃ a mid, x.run st = (.ok a, mid) ∧ (f a).run mid = (.ok b, st') := by
  change ExceptT.bindCont f (x.run st).1 (x.run st).2 = _ at h
  rcases hx : x.run st with ⟨e | a, mid⟩
  · rw [hx] at h
    cases h
  · rw [hx] at h
    exact ⟨a, mid, rfl, h⟩

theorem ref_loadRelation {schema name : String} {kind : ObjectKind} {o : DatabaseObject} {st st' : σ}
    (h : (loadRelation server schema name kind).run st = (.ok (some o), st')) : o.ref = ⟨some schema, name, kind⟩ := by
  unfold loadRelation at h
  obtain ⟨columns, mid, -, h⟩ := ok_of_bind_run h
  split_ifs at h
  · cases h
  · obtain ⟨primaryKey, mid, -, h⟩ := ok_of_bind_run h
    obtain ⟨rows, mid, -, h⟩ := ok_of_bind_run h
    cases h
    rfl

theorem ref_loadRoutine {schema name : String} {o : DatabaseObject} {st st' : σ}
    (h : (loadRoutine server schema name).run st = (.ok (some o), st')) :
    o.ref = ⟨some schema, name, .storedProcedure⟩ := by
  unfold loadRoutine at h
  obtain ⟨specific?, mid, -, h⟩ := ok_of_bind_run h
  cases specific? with
  | none => cases h
  | some specific =>
    obtain ⟨parameters, mid, -, h⟩ := ok_of_bind_run h
    cases h
    rfl

theorem ref_load {r : ObjectRef} (hschema : r.schema.isSome) {o : DatabaseObject} {st st' : σ}
    (h : (load server r).run st = (.ok (some o), st')) : o.ref = r := by
  obtain ⟨schema, hschema⟩ := Option.isSome_iff_exists.1 hschema
  obtain ⟨_, name, kind⟩ := r
  subst hschema
  cases kind with
  | storedProcedure => exact ref_loadRoutine h
  | table => exact ref_loadRelation h
  | view => exact ref_loadRelation h

/-- the objects that are loaded carry some of the references, in their order -/
theorem refs_loadAll {refs : List ObjectRef} (hschemas : ∀ r ∈ refs, r.schema.isSome) {objects : List DatabaseObject}
    {st st' : σ} (h : (loadAll server refs).run st = (.ok objects, st')) : (objects.map (·.ref)).Sublist refs := by
  induction refs generalizing objects st with
  | nil =>
    cases h
    exact .slnil
  | cons r refs ih =>
    obtain ⟨hr, hrest⟩ := List.forall_mem_cons.1 hschemas
    unfold loadAll at h
    obtain ⟨o, mid, ho, h⟩ := ok_of_bind_run h
    obtain ⟨objects, last, hobjects, h⟩ := ok_of_bind_run h
    cases h
    cases o with
    | none => exact (ih hrest hobjects).cons r
    | some o =>
      rw [← ref_load hr ho]
      exact (ih hrest hobjects).cons_cons o.ref

/-- **PostgreSQL answers with what it was asked for** -/
theorem answersFor_introspectors (server : Server σ) (source : DataSource) {refs : List ObjectRef}
    (hschemas : ∀ r ∈ refs, r.schema.isSome) (hrefs : refs.Nodup) :
    (introspectors server).AnswersFor .postgres source refs := by
  intro session found hfound
  have hsublist : (found.map (·.ref)).Sublist refs := by
    simp only [introspectors, introspect] at hfound
    split at hfound
    · cases hfound
    · rename_i session' hconnect
      rcases hload : (loadAll server refs).run session'.server with ⟨e | objects, st⟩
      · rw [hload] at hfound
        cases hfound
      · rw [hload] at hfound
        cases hfound
        exact refs_loadAll hschemas hload
  exact ⟨fun o ho => hsublist.subset (List.mem_map_of_mem ho), hrefs.sublist hsublist⟩

/-- every reference in PostgreSQL has a schema -/
theorem isSome_schema_refOf (e : Entity) : (Provider.refOf .postgres e).schema.isSome := by
  unfold Provider.refOf ObjectRef.ofText
  split <;> rfl

theorem answersFor_refs (server : Server σ) (source : DataSource) (entities : List (String × Entity)) :
    (introspectors server).AnswersFor .postgres source (Provider.refs .postgres entities) := by
  refine answersFor_introspectors server source (fun r hr => ?_) (Provider.nodup_refs _ _)
  obtain ⟨e, -, rfl⟩ := Provider.mem_refs.1 hr
  exact isSome_schema_refOf e.2

end Postgres

/-! ### Books and a procedure of that name -/

/-- a provider of some entities on one PostgreSQL database -/
def shelf (entities : NameMap Entity) : Provider :=
  { name := "default", kind := .sql .postgres, config := { World.plainConfig with entities } }

/-- what a database answers in which there is everything that is asked for -/
def shelfRows {α : Type} : Postgres.CatalogQuery α → α
  | .columns _ _ => [{ name := "id", dataType := "text" }]
  | .primaryKey _ _ => ["id"]
  | .foreignKeys _ _ => []
  | .routine _ name => some name
  | .parameters _ _ => []

def shelfServer : Postgres.Server Unit where
  login _ _ st := (.ok (), st)
  answer q st := (.ok (shelfRows q), st)

def shelfSource : DataSource := { databaseType := .postgres, connectionString := "host" }

/-- entities on tables of different names -/
def apart : NameMap Entity :=
  (NameMap.empty.insert "authors" { source := { object := "authors" } }).insert
    "books" { source := { object := "public.books" } }

/-- entities on a table, on one whose name differs in case, and on a procedure of the same name -/
def alike : NameMap Entity :=
  ((NameMap.empty.insert "Books" { source := { object := "Books" } }).insert
    "books" { source := { object := "books" } }).insert
    "lend" { source := { object := "books", kind := .storedProcedure } }

theorem authors_and_books_have_own_objects : ∃ found q rest,
    ((Postgres.introspectors shelfServer).ask .postgres shelfSource (Provider.refs .postgres (shelf apart).entities)
      ⟨[], ()⟩).1.outcome = .found found ∧
    (shelf apart).initialization (Postgres.introspectors shelfServer) ⟨[], ()⟩ = (.ok (), q, rest) ∧
    q.state.objects.names = ["authors", "books"] ∧ q.HasOwn .postgres found := by
  have htells : (shelf apart).TellsApart .postgres := by
    unfold Provider.TellsApart
    decide
  have hsource : (shelf apart).source? = some shelfSource := rfl
  have hown := (Provider.own_objects_iff rfl hsource).2 htells _ _
    (Postgres.answersFor_refs shelfServer shelfSource _) ⟨[], ()⟩
  exact ⟨_, _, _, rfl, rfl, rfl, hown _ _ _ rfl rfl⟩

/-- **Entities that get the objects of others**, from a database that answers with exactly what it was asked for -/
theorem books_of_another_kind : ∃ found q rest,
    (Postgres.introspectors shelfServer).AnswersFor .postgres shelfSource
      (Provider.refs .postgres (shelf alike).entities) ∧
    ((Postgres.introspectors shelfServer).ask .postgres shelfSource (Provider.refs .postgres (shelf alike).entities)
      ⟨[], ()⟩).1.outcome = .found found ∧
    (shelf alike).initialization (Postgres.introspectors shelfServer) ⟨[], ()⟩ = (.ok (), q, rest) ∧
    found.map (·.ref) = [⟨some "public", "Books", .table⟩, ⟨some "public", "books", .table⟩,
      ⟨some "public", "books", .storedProcedure⟩] ∧
    (q.state.objects.get? "books").map (·.ref) = some ⟨some "public", "Books", .table⟩ ∧
    (q.state.objects.get? "lend").map (·.ref) = some ⟨some "public", "Books", .table⟩ ∧
    ¬ q.HasOwn .postgres found := by
  refine ⟨_, _, _, Postgres.answersFor_refs shelfServer shelfSource _, rfl, rfl, rfl, rfl, rfl, fun hown => ?_⟩
  obtain ⟨e, own, he, -, -, -, href⟩ := hown "lend" _ rfl
  obtain ⟨hlend, -⟩ := Provider.mem_entities.1 he
  cases hlend
  exact absurd href (by decide)

end EntityGateway
