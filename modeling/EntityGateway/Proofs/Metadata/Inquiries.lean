/-
What databases are asked for the metadata of a snapshot.

A set of metadata is made only if every data source of the snapshot is served; the first one that is not, in the order
of names, is the reason why there is no set. In a set that is made each database has one question: it comes with the
data source as the snapshot has it, and asks for the objects of the entities that are bound to it, each once, in the
order in which entities have them first. Document stores are not asked.

- `memory_of_launch`: introspectors remember the questions of a set, and nothing else, when its initializations have
  begun;
- `Inquiry.IsFor`, `areFor_inquiries`: the questions of a set;
- `ofSnapshot_error_iff`: why a set cannot be made.
-/
import EntityGateway.Proofs.Metadata.Matching

namespace EntityGateway

/-! ## Questions -/

/-- a question to a database -/
structure Inquiry where
  dialect : Dialect
  source : DataSource
  refs : List ObjectRef

/-- what is remembered when questions were asked, one after another -/
def Introspectors.remembers (i : Introspectors ι) (memory : ι) (asked : List Inquiry) : ι :=
  asked.foldl (fun memory q => (i.ask q.dialect q.source q.refs memory).2) memory

/-- the question of a provider, if it has one -/
def Provider.inquiry? (p : Provider) : Option Inquiry :=
  match p.begin.2 with
  | .asks dialect source refs => some ⟨dialect, source, refs⟩
  | .over _ => none

def ProviderSet.inquiries (set : ProviderSet) : List Inquiry := set.providers.values.filterMap Provider.inquiry?

section Memory

variable {i : Introspectors ι} {limit : Duration} {now : Nat} {memory : ι}

theorem remembers_append (a b : List Inquiry) :
    i.remembers memory (a ++ b) = i.remembers (i.remembers memory a) b :=
  List.foldl_append

/-- introspectors remember the question of a provider, if it has one -/
theorem memory_of_provider (p : Provider) (memory : ι) :
    (p.launch i limit now memory).2.2 = i.remembers memory p.inquiry?.toList := by
  unfold Provider.launch Provider.inquiry?
  rcases p.begin with ⟨q, _ | _⟩ <;> rfl

theorem memory_launchEach (l : List Provider) (memory : ι) :
    (ProviderSet.launchEach i limit now l memory).2.2 = i.remembers memory (l.filterMap Provider.inquiry?) := by
  induction l generalizing memory with
  | nil => rfl
  | cons p l ih =>
    have hcons : (p :: l).filterMap Provider.inquiry? = p.inquiry?.toList ++ l.filterMap Provider.inquiry? := by
      cases hp : p.inquiry? <;> simp [hp]
    have hmemory : (p.launch i limit now memory).2.2 = i.remembers memory p.inquiry?.toList :=
      memory_of_provider p memory
    rw [hcons, remembers_append, ← hmemory]
    exact ih _

/-- **What introspectors remember** when the initializations of a set have begun are its questions -/
theorem memory_of_launch {set launched : ProviderSet} {tasks : List SourceTask} {asked : ι}
    (h : set.launch i limit now memory = (launched, tasks, asked)) : asked = i.remembers memory set.inquiries := by
  simp only [ProviderSet.launch] at h
  cases h
  exact memory_launchEach set.providers.values memory

end Memory

/-! ## The questions about a configuration -/

def RuntimeConfig.IsBound (c : RuntimeConfig) (entity : String) (e : Entity) (source : String) : Prop :=
  c.entities.get? entity = some e ∧ c.sourceOf e = source

def RuntimeConfig.IsDatabase (c : RuntimeConfig) (name : String) : Prop :=
  ∃ source d, c.dataSources.get? name = some source ∧ source.databaseType.providerKind = some (.sql d)

/-- a question is that of a data source -/
structure Inquiry.IsFor (q : Inquiry) (c : RuntimeConfig) (name : String) : Prop where
  source : c.dataSources.get? name = some q.source
  dialect : q.source.databaseType.providerKind = some (.sql q.dialect)
  once : q.refs.Nodup
  refs : ∀ r, r ∈ q.refs ↔ ∃ entity e, c.IsBound entity e name ∧ Provider.refOf q.dialect e = r
  /-- some entity that has the one comes before all that have the other -/
  order : q.refs.Pairwise fun r r' => ∃ entity e, c.IsBound entity e name ∧ Provider.refOf q.dialect e = r ∧
    ∀ entity' e', c.IsBound entity' e' name → Provider.refOf q.dialect e' = r' → entity < entity'

/-- questions are those of the databases of a configuration, one for each -/
def AreFor (c : RuntimeConfig) (asked : List Inquiry) : Prop :=
  ∃ names : List String, names.Nodup ∧ (∀ name, name ∈ names ↔ c.IsDatabase name) ∧
    List.Forall₂ (fun name q => q.IsFor c name) names asked

section References

variable {d : Dialect} {p : Provider}

theorem refs_concat (l : List (String × Entity)) (e : String × Entity) :
    Provider.refs d (l ++ [e]) =
      if (Provider.refs d l).contains (Provider.refOf d e.2) then Provider.refs d l
      else Provider.refs d l ++ [Provider.refOf d e.2] := by
  simp [Provider.refs]

theorem pairwise_refs {l : List (String × Entity)} (hl : l.Pairwise fun a b => a.1 < b.1) :
    (Provider.refs d l).Pairwise fun r r' =>
      ∃ a ∈ l, Provider.refOf d a.2 = r ∧ ∀ b ∈ l, Provider.refOf d b.2 = r' → a.1 < b.1 := by
  induction l using List.reverseRecOn with
  | nil => exact .nil
  | append_singleton l e ih =>
    obtain ⟨hfront, -, hlast⟩ := List.pairwise_append.1 hl
    have hbefore : ∀ a ∈ l, a.1 < e.1 := fun a ha => hlast a ha e List.mem_cons_self
    have hold : (Provider.refs d l).Pairwise fun r r' => ∃ a ∈ l ++ [e], Provider.refOf d a.2 = r ∧
        ∀ b ∈ l ++ [e], Provider.refOf d b.2 = r' → a.1 < b.1 := by
      refine (ih hfront).imp ?_
      intro r r' ⟨a, ha, href, hafter⟩
      refine ⟨a, List.mem_append_left _ ha, href, ?_⟩
      intro b hb hb'
      rcases List.mem_append.1 hb with hb | hb
      · exact hafter b hb hb'
      · rw [List.mem_singleton.1 hb]
        exact hbefore a ha
    rw [refs_concat]
    split_ifs with hknown
    · exact hold
    · refine List.pairwise_append.2 ⟨hold, List.pairwise_singleton .., ?_⟩
      intro r hr r' hr'
      obtain rfl := List.mem_singleton.1 hr'
      obtain ⟨a, ha, href⟩ := Provider.mem_refs.1 hr
      refine ⟨a, List.mem_append_left _ ha, href, ?_⟩
      intro b hb hsame
      rcases List.mem_append.1 hb with hb | hb
      · exact absurd (List.contains_iff_mem.2 (Provider.mem_refs.2 ⟨b, hb, hsame⟩)) hknown
      · rw [List.mem_singleton.1 hb]
        exact hbefore a ha

theorem mem_entities_iff_isBound {entity : String} {e : Entity} :
    (entity, e) ∈ p.entities ↔ p.config.IsBound entity e p.name := Provider.mem_entities

theorem sorted_entities (p : Provider) : p.entities.Pairwise fun a b => a.1 < b.1 :=
  p.config.entities.sorted.sublist List.filter_sublist

theorem isFor_inquiry {source : DataSource} {q : Inquiry} (hkind : source.databaseType.providerKind = some p.kind)
    (hsource : p.source? = some source) (hq : p.inquiry? = some q) : q.IsFor p.config p.name := by
  cases hp : p.kind with
  | documentStore =>
    unfold Provider.inquiry? Provider.begin at hq
    simp only [hp] at hq
    split at hq
    · rename_i hbegin
      split at hbegin <;> cases hbegin
    · cases hq
  | sql d =>
    unfold Provider.inquiry? at hq
    rw [Provider.begin_sql hp hsource] at hq
    cases hq
    refine ⟨hsource, by rw [hkind, hp], Provider.nodup_refs d _, ?_, ?_⟩
    · intro r
      rw [Provider.mem_refs]
      constructor
      · intro ⟨e, he, href⟩
        exact ⟨e.1, e.2, mem_entities_iff_isBound.1 he, href⟩
      · intro ⟨entity, e, he, href⟩
        exact ⟨(entity, e), mem_entities_iff_isBound.2 he, href⟩
    · refine (pairwise_refs (sorted_entities p)).imp ?_
      intro r r' ⟨a, ha, href, hafter⟩
      refine ⟨a.1, a.2, mem_entities_iff_isBound.1 ha, href, ?_⟩
      intro entity' e' he' href'
      exact hafter (entity', e') (mem_entities_iff_isBound.2 he') href'

end References

/-! ## The questions of a set -/

section Sets

variable {i : Introspectors ι} {s : Snapshot} {made : ProviderSet} {name : String} {source : DataSource}

/-- a data source of this type is served: there is a provider for it, and an introspector if it is a database -/
def Introspectors.Serves (i : Introspectors ι) (t : DatabaseType) : Prop :=
  ∃ kind, t.providerKind = some kind ∧ ∀ d, kind = .sql d → i.serves d = true

/-- the first data source, by name, that is not served -/
structure FirstUnserved (i : Introspectors ι) (c : RuntimeConfig) (name : String) (source : DataSource) : Prop where
  there : c.dataSources.get? name = some source
  unserved : ¬ i.Serves source.databaseType
  first : ∀ other source', c.dataSources.get? other = some source' → other < name → i.Serves source'.databaseType

theorem makeProvider_cases (i : Introspectors ι) (c : RuntimeConfig) (name : String) (source : DataSource) :
    (i.Serves source.databaseType ∧ ∃ kind, source.databaseType.providerKind = some kind ∧
        ProviderSet.makeProvider i c name source = .ok { name, kind, config := c }) ∨
      (¬ i.Serves source.databaseType ∧ ProviderSet.makeProvider i c name source =
        .error (.unsupportedBackend name source.databaseType.name)) := by
  unfold ProviderSet.makeProvider DatabaseType.isServed Introspectors.Serves
  cases hkind : source.databaseType.providerKind with
  | none => simp
  | some kind =>
    cases kind with
    | documentStore => simp
    | sql d => cases hserves : i.serves d <;> simp [hserves]

theorem serves_of_made (hmade : ProviderSet.ofSnapshot i s = .ok made)
    (hsource : s.config.dataSources.get? name = some source) : i.Serves source.databaseType := by
  unfold ProviderSet.ofSnapshot at hmade
  split at hmade
  · rename_i providers htry
    have hmem := (s.config.dataSources.mem_entries_iff name source).2 hsource
    obtain ⟨p, hp⟩ := NameMap.tryMap_ok.1 ⟨providers, htry⟩ _ hmem
    rcases makeProvider_cases i s.config name source with ⟨hserved, -⟩ | ⟨-, hfailed⟩
    · exact hserved
    · cases hfailed.symm.trans hp
  · cases hmade

/-- a set that cannot be made has a first data source that is not served -/
theorem firstUnserved_of_error {e : ConfigError} (h : ProviderSet.ofSnapshot i s = .error e) :
    ∃ name source, FirstUnserved i s.config name source ∧
      e = .rebuildFailed (.unsupportedBackend name source.databaseType.name) := by
  unfold ProviderSet.ofSnapshot at h
  split at h
  · cases h
  · rename_i e' htry
    cases h
    obtain ⟨name, source, hsource, hbad, hbefore⟩ := NameMap.tryMap_error htry
    rcases makeProvider_cases i s.config name source with ⟨-, kind, -, hmade⟩ | ⟨hunserved, hmade⟩
    · cases hmade.symm.trans hbad
    · cases hmade.symm.trans hbad
      refine ⟨name, source, ⟨hsource, hunserved, ?_⟩, rfl⟩
      intro other source' hother hlt
      obtain ⟨p, hp⟩ := hbefore other source' hother hlt
      rcases makeProvider_cases i s.config other source' with ⟨hserved, -⟩ | ⟨-, hfailed⟩
      · exact hserved
      · cases hfailed.symm.trans hp

/-- **A set cannot be made because of the first data source that is not served** -/
theorem ofSnapshot_error_iff {e : ConfigError} : ProviderSet.ofSnapshot i s = .error e ↔
    ∃ name source, FirstUnserved i s.config name source ∧
      e = .rebuildFailed (.unsupportedBackend name source.databaseType.name) := by
  constructor
  · exact firstUnserved_of_error
  · intro ⟨name, source, hfirst, he⟩
    subst he
    cases hset : ProviderSet.ofSnapshot i s with
    | ok made => exact absurd (serves_of_made hset hfirst.there) hfirst.unserved
    | error e =>
      obtain ⟨other, source', hfirst', rfl⟩ := firstUnserved_of_error hset
      have hle : ¬ name < other := fun hlt => hfirst.unserved (hfirst'.first name source hfirst.there hlt)
      have hge : ¬ other < name := fun hlt => hfirst'.unserved (hfirst.first other source' hfirst'.there hlt)
      obtain rfl : name = other := String.le_antisymm (String.not_lt.1 hge) (String.not_lt.1 hle)
      cases hfirst.there.symm.trans hfirst'.there
      rfl

theorem made_of_get? (hmade : ProviderSet.ofSnapshot i s = .ok made) {p : Provider} :
    made.providers.get? name = some p ↔ ∃ source kind, s.config.dataSources.get? name = some source ∧
      source.databaseType.providerKind = some kind ∧ p = { name, kind, config := s.config } := by
  unfold ProviderSet.ofSnapshot at hmade
  split at hmade
  · rename_i providers htry
    cases hmade
    show providers.get? name = some p ↔ _
    rw [NameMap.get?_tryMap htry]
    constructor
    · intro ⟨source, hsource, hp⟩
      rcases makeProvider_cases i s.config name source with ⟨-, kind, hkind, hok⟩ | ⟨-, hfailed⟩
      · cases hok.symm.trans hp
        exact ⟨source, kind, hsource, hkind, rfl⟩
      · cases hfailed.symm.trans hp
    · intro ⟨source, kind, hsource, hkind, hp⟩
      have hmem := (s.config.dataSources.mem_entries_iff name source).2 hsource
      obtain ⟨p', hp'⟩ := NameMap.tryMap_ok.1 ⟨providers, htry⟩ _ hmem
      rcases makeProvider_cases i s.config name source with ⟨-, kind', hkind', hok⟩ | ⟨-, hfailed⟩
      · cases hkind.symm.trans hkind'
        exact ⟨source, hsource, hp ▸ hok⟩
      · cases hfailed.symm.trans hp'
  · cases hmade

theorem forall₂_filterMap {α β : Type} {f : α → Option β} {R : String → β → Prop} {l : List (String × α)}
    (h : ∀ entry ∈ l, ∀ b, f entry.2 = some b → R entry.1 b) :
    List.Forall₂ R ((l.filter fun entry => (f entry.2).isSome).map (·.1)) ((l.map (·.2)).filterMap f) := by
  induction l with
  | nil => exact .nil
  | cons entry l ih =>
    obtain ⟨hentry, hrest⟩ := List.forall_mem_cons.1 h
    cases hb : f entry.2 with
    | none => simpa [hb] using ih hrest
    | some b => simpa [hb] using List.Forall₂.cons (hentry b hb) (ih hrest)

/-- **The questions of a set are those of the databases of its snapshot** -/
theorem areFor_inquiries (hmade : ProviderSet.ofSnapshot i s = .ok made) : AreFor s.config made.inquiries := by
  refine ⟨(made.providers.entries.filter fun entry => entry.2.inquiry?.isSome).map (·.1), ?_, ?_, ?_⟩
  · exact made.providers.nodup_names.sublist (List.filter_sublist.map _)
  · intro name
    simp only [List.mem_map, List.mem_filter]
    constructor
    · rintro ⟨⟨_, p⟩, ⟨hentry, hasks⟩, rfl⟩
      obtain ⟨source, kind, hsource, hkind, rfl⟩ := (made_of_get? hmade).1 ((NameMap.mem_entries_iff _ _ _).1 hentry)
      obtain ⟨q, hq⟩ := Option.isSome_iff_exists.1 hasks
      have hfor := isFor_inquiry (p := { name := _, kind, config := s.config }) hkind hsource hq
      exact ⟨q.source, q.dialect, hfor.source, hfor.dialect⟩
    · intro ⟨source, d, hsource, hkind⟩
      have hp := (made_of_get? hmade).2 ⟨source, .sql d, hsource, hkind, rfl⟩
      refine ⟨(name, _), ⟨(NameMap.mem_entries_iff _ _ _).2 hp, ?_⟩, rfl⟩
      have hbegin := Provider.begin_sql (p := { name, kind := .sql d, config := s.config }) rfl hsource
      simp [Provider.inquiry?, hbegin]
  · refine forall₂_filterMap ?_
    intro entry hentry q hq
    obtain ⟨source, kind, hsource, hkind, hp⟩ := (made_of_get? hmade).1 ((NameMap.mem_entries_iff _ _ _).1 hentry)
    rw [hp] at hq
    exact isFor_inquiry (p := { name := _, kind, config := s.config }) hkind hsource hq

end Sets

end EntityGateway
