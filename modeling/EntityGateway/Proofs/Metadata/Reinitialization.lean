/-
What is left of earlier initializations.

A provider is initialized as often as needed, and what was known before matters in one respect only. The problems and
whether the provider is initialized are those of the last initialization, whatever came before; so are the objects if it
has succeeded. If it has failed the objects of the last success are still there, although the provider is not
initialized. The schema of a document store never changes, and so it is not possible that it succeeds once and fails
later.

- `introspected_cases`: what an initialization makes of a provider, in terms of the objects that it had;
- `after`, `after_eq`: a provider after some initializations, with other problems recorded in between;
- `initialized_again`: one more initialization, compared with that of a new provider.
-/
import EntityGateway.Proofs.Metadata.Isolation

namespace EntityGateway

/-- something that happens to a provider -/
inductive Episode where
  /-- it is initialized, with a limit, and with the answer to its question if it has one -/
  | initialized (limit : Duration) (a : Option Answer)
  /-- a problem is recorded -/
  | recorded (x : MetadataException)

namespace Provider

def afterOne (p : Provider) : Episode → Provider
  | .initialized limit a => p.introspected limit a
  | .recorded x => p.record x

/-- a provider after some episodes, one after another -/
def after (p : Provider) (history : List Episode) : Provider := history.foldl afterOne p

/-- a provider with something else known of its objects -/
def knowing (p : Provider) (s : ProviderState) : Provider := { p with state := s }

section Cases

variable {p : Provider} {s : ProviderState} {limit : Duration} {a : Option Answer}

/-- an initialization puts new objects in the place of what was known -/
def Replaces (p : Provider) (limit : Duration) (a : Option Answer) : Prop :=
  ∃ objects problems, ∀ s, (p.knowing s).introspected limit a = p.knowing ⟨objects, problems, true⟩

/-- an initialization has one problem, and leaves the objects as they are -/
def Retains (p : Provider) (limit : Duration) (a : Option Answer) : Prop :=
  ∃ x, ∀ s, (p.knowing s).introspected limit a = p.knowing ⟨s.objects, [x], false⟩

theorem publish_knowing (p : Provider) (s : ProviderState)
    (make : String → Entity → Except MetadataException DatabaseObject) : (p.knowing s).forgotten.publish make =
      p.knowing ⟨(p.publish make).state.objects, problemsOf (p.entities.map fun e => (e.1, make e.1 e.2)), true⟩ :=
  rfl

theorem record_knowing (p : Provider) (s : ProviderState) (x : MetadataException) :
    (p.knowing s).forgotten.record x = p.knowing ⟨s.objects, [x], false⟩ := rfl

theorem finish_cases {d : Dialect} (hkind : p.kind = .sql d) (ending : Ending) (hasked : ∀ x, ending ≠ .atOnce x) :
    (∃ objects problems, ∀ s, (p.knowing s).forgotten.finish ending = p.knowing ⟨objects, problems, true⟩) ∨
      ∃ x, ∀ s, (p.knowing s).forgotten.finish ending = p.knowing ⟨s.objects, [x], false⟩ := by
  obtain ⟨name, kind, config, state⟩ := p
  subst hkind
  rcases ending with (found | error | reason) | limit | x
  · exact .inl ⟨_, _, fun s => publish_knowing _ s (entityObject name d found)⟩
  · exact .inr ⟨_, fun s => record_knowing _ s (.introspection name error.message)⟩
  · exact .inr ⟨_, fun s => record_knowing _ s (.introspection name ("initialization aborted: " ++ reason))⟩
  · exact .inr ⟨_, fun s => record_knowing _ s (.timeout name limit)⟩
  · exact absurd rfl (hasked x)

/-- the initialization of a document store does not depend on answers -/
theorem introspected_documentStore (hkind : p.kind = .documentStore) :
    (∀ limit a, p.Replaces limit a) ∨ ∀ limit a, p.Retains limit a := by
  obtain ⟨name, kind, config, state⟩ := p
  subst hkind
  let p : Provider := ⟨name, .documentStore, config, state⟩
  cases hschema : p.schemaText with
  | some schema =>
    left
    intro limit a
    let make := modelObject name (p.source?.bind (·.textOption "database")) (ModelSchema.models schema)
    refine ⟨_, _, fun s => Eq.trans ?_ (publish_knowing p s make)⟩
    have hsame : schemaText ⟨name, .documentStore, config, s.reset⟩ = some schema := hschema
    unfold introspected endsWith begin knowing
    simp only [hsame]
    rfl
  | none =>
    right
    intro limit a
    refine ⟨_, fun s => Eq.trans ?_ (record_knowing p s (.missingSchema name))⟩
    have hsame : schemaText ⟨name, .documentStore, config, s.reset⟩ = none := hschema
    unfold introspected endsWith begin knowing
    simp only [hsame]
    rfl

/-- **An initialization puts new objects in the place of the old ones, or leaves these as they are** and has one
problem, whatever was known -/
theorem introspected_cases (p : Provider) (limit : Duration) (a : Option Answer) :
    p.Replaces limit a ∨ p.Retains limit a := by
  cases hkind : p.kind with
  | documentStore => exact (introspected_documentStore hkind).imp (fun h => h limit a) fun h => h limit a
  | sql d =>
    cases hsource : p.source? with
    | none =>
      refine .inr ⟨_, fun s => Eq.trans ?_ (record_knowing p s (.introspection p.name notBound))⟩
      have hbegin := begin_unbound (p := p.knowing s) hkind hsource
      unfold introspected endsWith
      rw [hbegin]
      rfl
    | some source =>
      have hends : ∀ s, (p.knowing s).introspected limit a =
          (p.knowing s).forgotten.finish ((a.map (·.ending limit)).getD (.timedOut limit)) := by
        intro s
        have hbegin := begin_sql (p := p.knowing s) hkind hsource
        unfold introspected endsWith
        rw [hbegin]
      have hasked : ∀ x, (a.map (·.ending limit)).getD (.timedOut limit) ≠ .atOnce x := by
        intro x
        cases a with
        | none => rintro ⟨⟩
        | some a => exact a.ending_ne_atOnce limit x
      unfold Replaces Retains
      simp only [hends]
      exact finish_cases hkind _ hasked

end Cases

/-! ## Histories -/

section Histories

variable {p : Provider}

theorem after_concat (p : Provider) (history : List Episode) (e : Episode) :
    p.after (history ++ [e]) = (p.after history).afterOne e := by
  simp [after]

/-- nothing but what is known of its objects changes with what happens to a provider -/
theorem after_eq (p : Provider) (history : List Episode) : p.after history = p.knowing (p.after history).state := by
  induction history using List.reverseRecOn with
  | nil => rfl
  | append_singleton history e ih =>
    rw [after_concat]
    cases e with
    | recorded x =>
      unfold afterOne
      rw [ih]
      rfl
    | initialized limit a =>
      show (p.after history).introspected limit a = p.knowing ((p.after history).introspected limit a).state
      rw [ih]
      rcases p.introspected_cases limit a with ⟨objects, problems, hends⟩ | ⟨x, hends⟩
      · rw [hends]
        rfl
      · rw [hends]
        rfl

theorem objects_of_retains (h : ∀ limit a, p.Retains limit a) (history : List Episode) :
    (p.after history).state.objects = p.state.objects := by
  induction history using List.reverseRecOn with
  | nil => rfl
  | append_singleton history e ih =>
    rw [after_concat]
    cases e with
    | recorded x => exact ih
    | initialized limit a =>
      obtain ⟨x, hends⟩ := h limit a
      rw [after_eq p history]
      show ((p.knowing _).introspected limit a).state.objects = _
      rw [hends]
      exact ih

/-- **One more initialization** of a provider to which anything has happened has the problems of one of a new provider,
and succeeds if and only if that does. It leaves the provider as it leaves a new one just if it succeeds or no objects
were known before; if it fails the objects are those that were known, and a new provider has none. A document store is
always what a new one is. -/
theorem initialized_again (hnew : p.state = {}) (history : List Episode) (limit : Duration) (a : Option Answer) :
    let again := (p.after history).introspected limit a
    let fresh := p.introspected limit a
    again.state.exceptions = fresh.state.exceptions ∧ again.state.initialized = fresh.state.initialized ∧
    (again = fresh ↔ fresh.state.initialized = true ∨ (p.after history).state.objects = .empty) ∧
    (fresh.state.initialized = false → again.state.objects = (p.after history).state.objects ∧
      fresh.state.objects = .empty) ∧
    (p.kind = .documentStore → again = fresh) := by
  intro again fresh
  have hfresh : fresh = (p.knowing {}).introspected limit a := by rw [← hnew]; rfl
  have hagain : again = (p.knowing (p.after history).state).introspected limit a := by rw [← after_eq]
  rcases p.introspected_cases limit a with ⟨objects, problems, hends⟩ | ⟨x, hends⟩
  · rw [hends] at hfresh hagain
    have hsame : again = fresh := hagain.trans hfresh.symm
    have hdone : fresh.state.initialized = true := by rw [hfresh]; rfl
    refine ⟨by rw [hsame], by rw [hsame], iff_of_true hsame (Or.inl hdone), fun hfailed => ?_, fun _ => hsame⟩
    rw [hdone] at hfailed
    cases hfailed
  · rw [hends] at hfresh hagain
    have hkept : again = fresh ↔ (p.after history).state.objects = .empty := by
      rw [hfresh, hagain]
      exact ⟨congrArg fun q : Provider => q.state.objects, fun hobjects => by rw [hobjects]⟩
    have hfailed : fresh.state.initialized = false := by rw [hfresh]; rfl
    refine ⟨by rw [hfresh, hagain]; rfl, by rw [hfresh, hagain]; rfl, ?_, fun _ => ?_, fun hkind => hkept.2 ?_⟩
    · rw [hkept, hfailed]
      simp
    · rw [hfresh, hagain]
      exact ⟨rfl, rfl⟩
    · rcases introspected_documentStore hkind with h | h
      · -- it succeeds, and so it cannot have had a problem
        obtain ⟨objects, problems, hreplaces⟩ := h limit a
        cases (hreplaces {}).symm.trans (hends {})
      · rw [objects_of_retains h, hnew]

end Histories

end Provider

/-! ### Books that are still there -/

/-- the library of a gateway that has not asked for its books yet -/
def library : Provider := { name := "default", kind := .sql .postgres, config := stockConfig }

def reachable : Answer :=
  ⟨some ⟨0⟩, .found [{ schema := some "public", name := "books", primaryKey := ["id"] }]⟩

/-- the database cannot be reached any more -/
def unreachable : Answer := ⟨some ⟨0⟩, .failed .notConfigured⟩

/-- the books were found once -/
def foundBooks : List Episode := [.initialized (.ofSeconds 15) (some reachable)]

theorem books_are_found_again :
    let history := foundBooks ++ [.initialized (.ofSeconds 15) (some unreachable)]
    let again := (library.after history).introspected (.ofSeconds 15) (some reachable)
    again = library.introspected (.ofSeconds 15) (some reachable) ∧
      again.state.exceptions.map (·.entity?) = [some "ghosts", some "heaps"] := by
  intro history again
  obtain ⟨hproblems, -, hsame, -⟩ := library.initialized_again rfl history (.ofSeconds 15) (some reachable)
  refine ⟨hsame.2 (Or.inl rfl), ?_⟩
  rw [hproblems]
  rfl

/-- **Books of an earlier run are still there** when the database cannot be reached any more, in a provider that is not
initialized -/
theorem books_are_still_there :
    let again := (library.after foundBooks).introspected (.ofSeconds 15) (some unreachable)
    let fresh := library.introspected (.ofSeconds 15) (some unreachable)
    again.state.initialized = false ∧ again.state.exceptions = fresh.state.exceptions ∧
      again.state.objects.names = ["books"] ∧ fresh.state.objects = .empty :=
  ⟨rfl, rfl, rfl, rfl⟩

end EntityGateway
