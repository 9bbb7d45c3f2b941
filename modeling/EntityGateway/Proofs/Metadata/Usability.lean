/-
Objects that can be used.

What a database answers is not taken as it is. An entity gets the first object that fits its reference, and only if it
can use it: a table or a view needs a key, and key fields that are configured are the key if all of them are columns; a
procedure may take only parameters that the dialect can bind. Apart from the key nothing about the object is changed.
An entity that gets no object has a problem that says why.

- `Usable`, `Unusable`: what is required of an object, and what breaks it, with `checkObject_ok` and
  `checkObject_error`;
- `Exposes`: what a provider makes of the objects that were found, with `exposes_publish`;
- `exposed_objects_are_usable`: every initialization of a new provider.
-/
import EntityGateway.Proofs.Metadata.Accounting
import EntityGateway.Proofs.Metadata.Matching
import EntityGateway.Proofs.Metadata.Relationships
import EntityGateway.Proofs.Unicode.Lowercase

namespace EntityGateway

/-! ## What an entity needs of an object -/

/-- the first of some things that has a property -/
structure IsFirst {α : Type} (P : α → Prop) (l : List α) (x : α) : Prop where
  holds : P x
  first : ∃ before after, l = before ++ x :: after ∧ ∀ y ∈ before, ¬ P y

theorem find?_eq_some_iff_isFirst {α : Type} {P : α → Prop} {accepts : α → Bool} (h : ∀ x, accepts x = true ↔ P x)
    {l : List α} {x : α} : l.find? accepts = some x ↔ IsFirst P l x := by
  rw [List.find?_eq_some_iff_append, h]
  constructor
  · intro ⟨hx, before, after, hl, hbefore⟩
    refine ⟨hx, before, after, hl, ?_⟩
    intro y hy hP
    simpa [(h y).2 hP] using hbefore y hy
  · intro ⟨hx, before, after, hl, hbefore⟩
    refine ⟨hx, before, after, hl, ?_⟩
    intro y hy
    have hnot : ¬ accepts y = true := mt (h y).1 (hbefore y hy)
    simpa using hnot

theorem find?_eq_none_iff_not {α : Type} {P : α → Prop} {accepts : α → Bool} (h : ∀ x, accepts x = true ↔ P x)
    {l : List α} : l.find? accepts = none ↔ ∀ x ∈ l, ¬ P x := by
  simp [← h]

/-- a type of parameters that a dialect can bind: it is none of the others, in whatever case they are written -/
def Dialect.Binds (d : Dialect) (dataType : String) : Prop :=
  ∀ other ∈ d.unsupportedTypes, Unicode.lower dataType ≠ Unicode.lower other

def DatabaseObject.IsRelation (o : DatabaseObject) : Prop := o.kind = .table ∨ o.kind = .view

/-- an object as an entity uses it, made of the one that was found -/
structure Usable (d : Dialect) (keyFields : List String) (own o : DatabaseObject) : Prop where
  /-- apart from the key it is what was found -/
  same : o = { own with primaryKey := o.primaryKey }
  /-- a table or a view has a key -/
  keyed : o.IsRelation → o.primaryKey ≠ []
  /-- key fields are the key, and they are columns -/
  fields : o.IsRelation → keyFields ≠ [] → o.primaryKey = keyFields ∧ ∀ k ∈ keyFields, o.HasColumn k
  /-- any other key is that of the object -/
  kept : ¬ (o.IsRelation ∧ keyFields ≠ []) → o.primaryKey = own.primaryKey
  /-- a procedure takes what can be bound -/
  parameters : o.kind = .storedProcedure → ∀ q ∈ o.parameters, d.Binds q.dataType

/-- why an entity cannot use an object, and the problem that it has then -/
inductive Unusable (source : String) (d : Dialect) (entity : String) (keyFields : List String) (own : DatabaseObject) :
    MetadataException → Prop
  | column (k : String) (hkind : own.IsRelation) (hk : IsFirst (¬ own.HasColumn ·) keyFields k) :
      Unusable source d entity keyFields own (.missingObject source entity (own.qualifiedName ++ "." ++ k))
  | keyless (hkind : own.IsRelation) (hfields : keyFields = []) (hkey : own.primaryKey = []) :
      Unusable source d entity keyFields own (.missingPrimaryKey source entity own.qualifiedName)
  | parameter (q : Parameter) (hkind : own.kind = .storedProcedure)
      (hq : IsFirst (¬ d.Binds ·.dataType) own.parameters q) :
      Unusable source d entity keyFields own
        (.unsupportedProcedure source entity own.qualifiedName (Provider.badParameter q))

section Checks

variable {source entity k : String} {d : Dialect} {keyFields : List String} {own o : DatabaseObject}
  {x : MetadataException}

theorem lower_of_unsupported (d : Dialect) : ∀ other ∈ d.unsupportedTypes, Unicode.lower other = other := by
  have hascii : (d.unsupportedTypes.all fun other =>
      other.toList.all (·.toNat < 128) && other.toList.map Unicode.asciiLower == other.toList) = true := by
    cases d <;> rfl
  intro other hother
  have hother := List.all_eq_true.1 hascii other hother
  simp only [Bool.and_eq_true, List.all_eq_true, decide_eq_true_eq, beq_iff_eq] at hother
  apply String.toList_inj.1
  rw [Unicode.lower_ascii hother.1, hother.2]

theorem supportsParameter_iff {dataType : String} : d.supportsParameter dataType = true ↔ d.Binds dataType := by
  unfold Dialect.supportsParameter Dialect.Binds
  simp only [Bool.not_eq_true', List.contains_eq_mem, decide_eq_false_iff_not]
  constructor
  · intro hnot other hother hsame
    rw [lower_of_unsupported d other hother] at hsame
    exact hnot (hsame ▸ hother)
  · intro hbinds hmem
    exact hbinds _ hmem (lower_of_unsupported d _ hmem).symm

theorem supportsParameter_eq_false_iff {dataType : String} :
    (!d.supportsParameter dataType) = true ↔ ¬ d.Binds dataType := by
  rw [← supportsParameter_iff]
  simp

theorem column?_eq_none_iff {k : String} : (own.column? k).isNone = true ↔ ¬ own.HasColumn k := by
  simp [DatabaseObject.column?, DatabaseObject.HasColumn]

theorem isRelation_or_procedure (o : DatabaseObject) : o.IsRelation ∨ o.kind = .storedProcedure := by
  unfold DatabaseObject.IsRelation
  cases o.kind <;> simp

theorem not_isRelation (h : o.kind = .storedProcedure) : ¬ o.IsRelation := by
  simp [DatabaseObject.IsRelation, h]

theorem checked_procedure (hkind : own.kind = .storedProcedure) :
    (Provider.checkObject source d entity keyFields own = .ok own ∧ Usable d keyFields own own) ∨
      ∃ x, Provider.checkObject source d entity keyFields own = .error x ∧
        Unusable source d entity keyFields own x := by
  cases hfind : own.parameters.find? fun q => !d.supportsParameter q.dataType with
  | none =>
    have hbinds := (find?_eq_none_iff_not fun q : Parameter => supportsParameter_eq_false_iff).1 hfind
    left
    constructor
    · simp only [Provider.checkObject, hkind, hfind]
    · refine ⟨rfl, ?_, ?_, fun _ => rfl, fun _ q hq => not_not.1 (hbinds q hq)⟩
      · intro hrelation
        exact absurd hrelation (not_isRelation hkind)
      · intro hrelation
        exact absurd hrelation (not_isRelation hkind)
  | some q =>
    have hfirst := (find?_eq_some_iff_isFirst fun q : Parameter => supportsParameter_eq_false_iff).1 hfind
    right
    refine ⟨_, ?_, .parameter q hkind hfirst⟩
    simp only [Provider.checkObject, hkind, hfind]

theorem checkObject_relation (hkind : own.IsRelation) :
    Provider.checkObject source d entity keyFields own =
      match keyFields.find? fun k => (own.column? k).isNone with
      | some k => .error (.missingObject source entity (own.qualifiedName ++ "." ++ k))
      | none =>
        let o := if keyFields.isEmpty then own else { own with primaryKey := keyFields }
        if o.primaryKey.isEmpty then .error (.missingPrimaryKey source entity o.qualifiedName) else .ok o := by
  obtain ⟨schema, name, kind, columns, primaryKey, foreignKeys, parameters⟩ := own
  rcases hkind with rfl | rfl <;> rfl

theorem checked_relation (hkind : own.IsRelation) :
    (∃ key, Provider.checkObject source d entity keyFields own = .ok { own with primaryKey := key } ∧
      Usable d keyFields own { own with primaryKey := key }) ∨
      ∃ x, Provider.checkObject source d entity keyFields own = .error x ∧
        Unusable source d entity keyFields own x := by
  have hprocedure : own.kind ≠ .storedProcedure := fun h => not_isRelation h hkind
  cases hfind : keyFields.find? fun k => (own.column? k).isNone with
  | some k =>
    have hfirst := (find?_eq_some_iff_isFirst fun k => column?_eq_none_iff).1 hfind
    right
    refine ⟨_, ?_, .column k hkind hfirst⟩
    rw [checkObject_relation hkind, hfind]
  | none =>
    have hcolumns := (find?_eq_none_iff_not fun k => column?_eq_none_iff).1 hfind
    rw [checkObject_relation hkind, hfind]
    by_cases hfields : keyFields = []
    · by_cases hkey : own.primaryKey = []
      · right
        exact ⟨_, by simp [hfields, hkey], .keyless hkind hfields hkey⟩
      · left
        refine ⟨own.primaryKey, by simp [hfields, hkey], rfl, fun _ => hkey, ?_, fun _ => rfl, ?_⟩
        · intro _ hsome
          exact absurd hfields hsome
        · intro h
          exact absurd h hprocedure
    · left
      refine ⟨keyFields, by simp [hfields], rfl, fun _ => hfields, ?_, ?_, ?_⟩
      · intro _ _
        exact ⟨rfl, fun k hk => not_not.1 (hcolumns k hk)⟩
      · intro hnot
        exact absurd ⟨hkind, hfields⟩ hnot
      · intro h
        exact absurd h hprocedure

/-- the check of an object passes with what the entity can use, or fails with what stands against that -/
theorem checkObject_cases (source : String) (d : Dialect) (entity : String) (keyFields : List String)
    (own : DatabaseObject) :
    (∃ o, Provider.checkObject source d entity keyFields own = .ok o ∧ Usable d keyFields own o) ∨
      ∃ x, Provider.checkObject source d entity keyFields own = .error x ∧
        Unusable source d entity keyFields own x := by
  rcases isRelation_or_procedure own with hkind | hkind
  · refine (checked_relation hkind).imp_left ?_
    intro ⟨key, hcheck, husable⟩
    exact ⟨_, hcheck, husable⟩
  · refine (checked_procedure hkind).imp_left ?_
    intro hchecked
    exact ⟨own, hchecked⟩

theorem Usable.unique {o' : DatabaseObject} (h : Usable d keyFields own o) (h' : Usable d keyFields own o') :
    o = o' := by
  have hkind : o.kind = own.kind := by rw [h.same]
  have hkind' : o'.kind = own.kind := by rw [h'.same]
  have hkey : o.primaryKey = o'.primaryKey := by
    by_cases hfields : own.IsRelation ∧ keyFields ≠ []
    · have hrelation : o.IsRelation := by simpa [DatabaseObject.IsRelation, hkind] using hfields.1
      have hrelation' : o'.IsRelation := by simpa [DatabaseObject.IsRelation, hkind'] using hfields.1
      rw [(h.fields hrelation hfields.2).1, (h'.fields hrelation' hfields.2).1]
    · rw [h.kept (by simpa [DatabaseObject.IsRelation, hkind] using hfields),
        h'.kept (by simpa [DatabaseObject.IsRelation, hkind'] using hfields)]
  rw [h.same, h'.same, hkey]

theorem Unusable.not_usable (h : Unusable source d entity keyFields own x) : ¬ Usable d keyFields own o := by
  intro husable
  have hsame := husable.same
  have hkind : o.kind = own.kind := by rw [hsame]
  cases h with
  | column k hrelation hk =>
    obtain ⟨before, after, hfields, -⟩ := hk.first
    have hmem : k ∈ keyFields := by simp [hfields]
    have hcolumn := (husable.fields (by simpa [DatabaseObject.IsRelation, hkind] using hrelation)
      (List.ne_nil_of_mem hmem)).2 k hmem
    rw [hsame] at hcolumn
    exact hk.holds hcolumn
  | keyless hrelation hfields hkey =>
    apply husable.keyed (by simpa [DatabaseObject.IsRelation, hkind] using hrelation)
    rw [husable.kept (by simp [hfields]), hkey]
  | parameter q hprocedure hq =>
    obtain ⟨before, after, hparameters, -⟩ := hq.first
    apply hq.holds
    apply husable.parameters (hkind.trans hprocedure) q
    rw [hsame]
    simp [hparameters]

theorem checkObject_ok : Provider.checkObject source d entity keyFields own = .ok o ↔ Usable d keyFields own o := by
  rcases checkObject_cases source d entity keyFields own with ⟨o', hcheck, husable⟩ | ⟨x, hcheck, hunusable⟩
  · rw [hcheck, Except.ok.injEq]
    constructor
    · intro h
      exact h ▸ husable
    · intro h
      exact husable.unique h
  · rw [hcheck]
    simpa using hunusable.not_usable

theorem checkObject_error (h : Provider.checkObject source d entity keyFields own = .error x) :
    Unusable source d entity keyFields own x := by
  rcases checkObject_cases source d entity keyFields own with ⟨o, hcheck, -⟩ | ⟨y, hcheck, hunusable⟩
  · cases hcheck.symm.trans h
  · cases hcheck.symm.trans h
    exact hunusable

end Checks

/-! ## What a provider exposes -/

namespace Provider

/-- the first object that fits the reference of an entity -/
def IsOwn (d : Dialect) (found : List DatabaseObject) (e : Entity) (own : DatabaseObject) : Prop :=
  IsFirst ((refOf d e).fits · = true) found own

/-- a provider exposes what its entities can use of the objects that were found, and has a problem with the others -/
structure Exposes (q : Provider) (d : Dialect) (found : List DatabaseObject) : Prop where
  exposed : ∀ entity o, q.state.objects.get? entity = some o ↔
    ∃ e own, (entity, e) ∈ q.entities ∧ IsOwn d found e own ∧ Usable d e.source.keyFields own o
  unexposed : ∀ entity e, (entity, e) ∈ q.entities → q.state.objects.get? entity = none →
    ((∀ o ∈ found, (refOf d e).fits o = false) ∧
      .missingObject q.name entity (refOf d e).qualifiedName ∈ q.state.exceptions) ∨
    ∃ own x, IsOwn d found e own ∧ Unusable q.name d entity e.source.keyFields own x ∧ x ∈ q.state.exceptions

section Exposed

variable {p q : Provider} {d : Dialect} {found : List DatabaseObject} {entity : String} {e : Entity}
  {o : DatabaseObject} {x : MetadataException} {source : String}

theorem entityObject_ok :
    entityObject source d found entity e = .ok o ↔ ∃ own, IsOwn d found e own ∧ Usable d e.source.keyFields own o := by
  unfold entityObject IsOwn
  cases hfind : found.find? (refOf d e).fits with
  | some own =>
    have hown := (find?_eq_some_iff_isFirst fun _ => Iff.rfl).1 hfind
    constructor
    · intro h
      exact ⟨own, hown, checkObject_ok.1 h⟩
    · intro ⟨own', hown', h⟩
      rw [← find?_eq_some_iff_isFirst fun _ => Iff.rfl, hfind] at hown'
      cases hown'
      exact checkObject_ok.2 h
  | none =>
    constructor
    · intro h
      cases h
    · rintro ⟨own, hown, -⟩
      rw [← find?_eq_some_iff_isFirst fun _ => Iff.rfl, hfind] at hown
      cases hown

theorem entityObject_error (h : entityObject source d found entity e = .error x) :
    ((∀ o ∈ found, (refOf d e).fits o = false) ∧ x = .missingObject source entity (refOf d e).qualifiedName) ∨
      ∃ own, IsOwn d found e own ∧ Unusable source d entity e.source.keyFields own x := by
  unfold entityObject at h
  cases hfind : found.find? (refOf d e).fits with
  | some own =>
    rw [hfind] at h
    right
    exact ⟨own, (find?_eq_some_iff_isFirst fun _ => Iff.rfl).1 hfind, checkObject_error h⟩
  | none =>
    rw [hfind] at h
    cases h
    left
    exact ⟨by simpa using hfind, rfl⟩

theorem exposes_publish (hnew : p.state.exceptions = []) :
    (p.publish (entityObject p.name d found)).Exposes d found := by
  constructor
  · intro entity o
    rw [get?_publish]
    simp only [entityObject_ok]
    constructor
    · intro ⟨e, he, own, hown, husable⟩
      exact ⟨e, own, he, hown, husable⟩
    · intro ⟨e, own, he, hown, husable⟩
      exact ⟨e, he, own, hown, husable⟩
  · intro entity e he hnone
    have he' : (entity, e) ∈ p.entities := he
    cases hmade : entityObject p.name d found entity e with
    | ok o =>
      rw [get?_publish.2 ⟨e, he', hmade⟩] at hnone
      cases hnone
    | error x =>
      have hx : x ∈ (p.publish (entityObject p.name d found)).state.exceptions :=
        (mem_problems hnew).2 ⟨entity, e, he', hmade⟩
      rcases entityObject_error hmade with ⟨hnot, rfl⟩ | ⟨own, hown, hunusable⟩
      · exact .inl ⟨hnot, hx⟩
      · exact .inr ⟨own, x, hown, hunusable, hx⟩

end Exposed

section Initialization

variable {ι : Type} {i : Introspectors ι} {p q : Provider} {d : Dialect} {memory rest : ι}
  {result : Except MetadataException Unit}

/-- an initialization that is not answered with objects fails, with a problem of the data source -/
theorem initialization_failed {source : DataSource} (hkind : p.kind = .sql d) (hsource : p.source? = some source)
    (hnot : ∀ found, (i.ask d source (refs d p.entities) memory).1.outcome ≠ .found found) :
    ∃ x problem rest, p.initialization i memory = (.error x, p.forgotten.record problem, rest) ∧
      problem.IsGeneral p.name := by
  unfold initialization
  rw [begin_sql hkind hsource]
  cases houtcome : (i.ask d source (refs d p.entities) memory).1.outcome with
  | found found => exact absurd houtcome (hnot found)
  | failed error =>
    simp only [houtcome]
    exact ⟨_, _, _, rfl, rfl, rfl⟩
  | aborted reason =>
    simp only [houtcome]
    exact ⟨_, _, _, rfl, rfl, rfl⟩

/-- **Exposed objects can be used.** A new provider of a database is asked for its objects, whatever its configuration
and whatever comes of the question. If objects are found, the provider exposes for each entity the first one that fits
the reference of the entity, unchanged apart from the key, and just if the entity can use it; an entity without an
object has the problem that says why. If not, the initialization failed as a whole and nothing is exposed. -/
theorem exposed_objects_are_usable (hkind : p.kind = .sql d) (hstate : p.state = {})
    (hinit : p.initialization i memory = (result, q, rest)) :
    q.name = p.name ∧ q.config = p.config ∧
      ((result = .ok () ∧ q.state.initialized = true ∧ ∃ source found, p.source? = some source ∧
          (i.ask d source (refs d p.entities) memory).1.outcome = .found found ∧ q.Exposes d found) ∨
        ((∃ x, result = .error x) ∧ q.Failed ∧ ∀ source found, p.source? = some source →
          (i.ask d source (refs d p.entities) memory).1.outcome ≠ .found found)) := by
  have hnew := forgotten_of_new hstate
  cases hsource : p.source? with
  | none =>
    unfold initialization at hinit
    rw [begin_unbound hkind hsource, hnew] at hinit
    cases hinit
    refine ⟨rfl, rfl, .inr ⟨⟨_, rfl⟩, failed_record hstate ⟨rfl, rfl⟩, ?_⟩⟩
    intro source found hsome
    cases hsome
  | some source =>
    by_cases hfound : ∃ found, (i.ask d source (refs d p.entities) memory).1.outcome = .found found
    · obtain ⟨found, hfound⟩ := hfound
      rw [initialization_found hkind hsource hfound] at hinit
      cases hinit
      have hexposes : (p.forgotten.publish (entityObject p.name d found)).Exposes d found := exposes_publish rfl
      exact ⟨rfl, rfl, .inl ⟨rfl, rfl, source, found, rfl, hfound, hexposes⟩⟩
    · have hnot := not_exists.1 hfound
      obtain ⟨x, problem, rest', hfailed, hgeneral⟩ := initialization_failed hkind hsource hnot
      rw [hfailed, hnew] at hinit
      cases hinit
      refine ⟨rfl, rfl, .inr ⟨⟨x, rfl⟩, failed_record hstate hgeneral, ?_⟩⟩
      intro source' found hsome
      cases hsome
      exact hnot found

end Initialization

end Provider

/-! ### A shop -/

/-- the entities of a shop: books with a key of their own, ghosts, heaps, a procedure and prices -/
def shopEntities : NameMap Entity :=
  ((((NameMap.empty.insert "books" { source := { object := "books", keyFields := ["isbn"] } }).insert
    "ghosts" { source := { object := "ghosts" } }).insert "heaps" { source := { object := "heaps" } }).insert
    "lend" { source := { object := "lend", kind := .storedProcedure } }).insert
    "prices" { source := { object := "prices", keyFields := ["day"] } }

/-- its books, twice, heaps without a key, a procedure that takes a cursor, and prices without a day -/
def shopObjects : List DatabaseObject :=
  [{ schema := some "public", name := "Books", columns := [⟨"isbn", "text", false, false⟩], primaryKey := ["id"] },
    { schema := some "public", name := "books", kind := .view },
    { schema := some "public", name := "heaps" },
    { schema := some "public", name := "lend", kind := .storedProcedure, parameters := [⟨"which", "RefCursor"⟩] },
    { schema := some "public", name := "prices", primaryKey := ["id"] }]

/-- its database -/
def shopDatabase : Introspectors Unit where
  serves _ := true
  ask _ _ _ memory := (⟨some ⟨0⟩, .found shopObjects⟩, memory)

theorem shop_objects_are_usable : ∃ q rest,
    (shelf shopEntities).initialization shopDatabase () = (.ok (), q, rest) ∧
    q.state.objects.entries.map (fun o => (o.1, o.2.name, o.2.primaryKey)) = [("books", "Books", ["isbn"])] ∧
    q.state.exceptions = [.missingObject "default" "ghosts" "public.ghosts",
      .missingPrimaryKey "default" "heaps" "public.heaps",
      .unsupportedProcedure "default" "lend" "public.lend" "parameter 'which' has type RefCursor",
      .missingObject "default" "prices" "public.prices.day"] ∧
    q.Exposes .postgres shopObjects := by
  obtain ⟨q, rest, hinit, hobjects, hexceptions⟩ : ∃ q rest,
      (shelf shopEntities).initialization shopDatabase () = (.ok (), q, rest) ∧
      q.state.objects.entries.map (fun o => (o.1, o.2.name, o.2.primaryKey)) = [("books", "Books", ["isbn"])] ∧
      q.state.exceptions = [.missingObject "default" "ghosts" "public.ghosts",
        .missingPrimaryKey "default" "heaps" "public.heaps",
        .unsupportedProcedure "default" "lend" "public.lend" "parameter 'which' has type RefCursor",
        .missingObject "default" "prices" "public.prices.day"] := ⟨_, _, rfl, by decide, by decide⟩
  refine ⟨q, rest, hinit, hobjects, hexceptions, ?_⟩
  obtain ⟨-, -, ⟨-, -, source, found, -, hfound, hexposes⟩ | ⟨⟨x, herror⟩, -⟩⟩ :=
    Provider.exposed_objects_are_usable rfl rfl hinit
  · cases hfound
    exact hexposes
  · cases herror

end EntityGateway
