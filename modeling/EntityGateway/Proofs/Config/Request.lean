/-
What the request for a first configuration comes to.

A request has the text of a configuration and may have overrides, which are merged over it before anything is read, and
another connection, a token and a schema, which are put in afterwards. The connection and the token are those of the
default data source; all other data sources are left alone.

- `Reads`, `Directs`: the text that is read, and what is put in;
- `mergeTexts_eq_ok_iff`: when two texts are merged, and into which text;
- `Makes`: what a request comes to;
- `makes_of_config`, `not_makes_of_error`: it comes to that, or it is in error.
-/
import EntityGateway.Config.Holder

namespace EntityGateway

namespace FirstConfig

/-! ## Texts and data sources -/

/-- the text that a configuration is read from: its own if there are no overrides, and otherwise what the overrides,
unless they are blank, leave of it when they are merged over it -/
inductive Reads (r : FirstConfig) : String → Prop
  | alone (hoverrides : r.overrides = none) : Reads r r.configuration
  | blank (hoverrides : r.overrides = some o) (hblank : Text.isBlank o = true)
      (hbase : Json.parse r.configuration = .ok base) : Reads r base.compact
  | merged (hoverrides : r.overrides = some o) (hblank : Text.isBlank o = false)
      (hbase : Json.parse r.configuration = .ok base) (hchanges : Json.parse o = .ok changes) :
      Reads r (base.merge changes).compact

/-- the default data source as a request wants it reached; empty texts change nothing, and a database of an unknown kind
takes no token -/
def redirected (r : FirstConfig) (d : DataSource) : DataSource :=
  { d with
    connectionString := (RuntimeConfig.given r.connectionString).getD d.connectionString
    accessToken :=
      match d.databaseType with
      | .other _ => d.accessToken
      | _ => (RuntimeConfig.given r.accessToken).or d.accessToken }

/-- a configuration with the connection, the token and the schema of a request: nothing but its default data source is
reached in another way -/
structure Directs (r : FirstConfig) (parsed c : RuntimeConfig) : Prop where
  schema : c.schema = parsed.schema
  default : c.defaultDataSource = parsed.defaultDataSource
  runtime : c.runtime = parsed.runtime
  entities : c.entities = parsed.entities
  redirected : c.defaultSource? = parsed.defaultSource?.map r.redirected
  others : ∀ name, name ≠ parsed.defaultDataSource → c.dataSources.get? name = parsed.dataSources.get? name
  graphqlSchema : c.graphqlSchema = (r.schema.filter fun s => !Text.isBlank s).or parsed.graphqlSchema

/-- what a request comes to: its text is merged first, then read, and then redirected -/
def Makes (env : Environment) (r : FirstConfig) (c : RuntimeConfig) : Prop :=
  ∃ text parsed, r.Reads text ∧ RuntimeConfig.parse env r.replacement text = .ok parsed ∧ r.Directs parsed c

section Makes

variable {env : Environment} {r : FirstConfig} {c : RuntimeConfig}

/-- **When two texts are merged**, and into which text -/
theorem mergeTexts_eq_ok_iff {base overrides text : String} :
    RuntimeConfig.mergeTexts base overrides = .ok text ↔ ∃ b, Json.parse base = .ok b ∧
      ((Text.isBlank overrides = true ∧ text = b.compact) ∨
        (Text.isBlank overrides = false ∧ ∃ o, Json.parse overrides = .ok o ∧ text = (b.merge o).compact)) := by
  unfold RuntimeConfig.mergeTexts RuntimeConfig.readPart
  cases hbase : Json.parse base with
  | error e => simp [bind, Except.bind]
  | ok b =>
    cases hblank : Text.isBlank overrides with
    | true => simp [bind, Except.bind, pure, Except.pure, eq_comm]
    | false => cases hoverrides : Json.parse overrides <;> simp [bind, Except.bind, pure, Except.pure, eq_comm]

theorem reads_of_mergeTexts {o text : String} (ho : r.overrides = some o)
    (h : RuntimeConfig.mergeTexts r.configuration o = .ok text) : r.Reads text := by
  obtain ⟨base, hbase, ⟨hblank, rfl⟩ | ⟨hblank, changes, hchanges, rfl⟩⟩ := mergeTexts_eq_ok_iff.1 h
  · exact .blank ho hblank hbase
  · exact .merged ho hblank hbase hchanges

theorem reads_of_config (h : r.config env = .ok c) : ∃ text, r.Reads text := by
  unfold FirstConfig.config at h
  cases ho : r.overrides with
  | none => exact ⟨_, .alone ho⟩
  | some o =>
    simp only [ho] at h
    cases hmerge : RuntimeConfig.mergeTexts r.configuration o with
    | error e =>
      rw [hmerge] at h
      cases h
    | ok text => exact ⟨text, reads_of_mergeTexts ho hmerge⟩

theorem config_of_reads {text : String} (h : r.Reads text) :
    r.config env = (RuntimeConfig.parse env r.replacement text).map fun parsed =>
      (parsed.withConnection r.connectionString r.accessToken).withGraphQLSchema r.schema := by
  unfold FirstConfig.config
  cases h with
  | alone ho =>
    simp only [ho]
    rfl
  | blank ho hblank hbase =>
    simp only [ho, mergeTexts_eq_ok_iff.2 ⟨_, hbase, .inl ⟨hblank, rfl⟩⟩]
    rfl
  | merged ho hblank hbase hchanges =>
    simp only [ho, mergeTexts_eq_ok_iff.2 ⟨_, hbase, .inr ⟨hblank, _, hchanges, rfl⟩⟩]
    rfl

theorem redirect_eq (d : DataSource) :
    RuntimeConfig.redirect r.connectionString r.accessToken d = r.redirected d := by
  obtain ⟨kind, connection, options, token⟩ := d
  unfold RuntimeConfig.redirect redirected
  cases RuntimeConfig.given r.connectionString <;> cases RuntimeConfig.given r.accessToken <;> cases kind <;> rfl

theorem withGraphQLSchema_eq (c : RuntimeConfig) (schema : Option String) :
    c.withGraphQLSchema schema =
      { c with graphqlSchema := (schema.filter fun s => !Text.isBlank s).or c.graphqlSchema } := by
  cases schema with
  | none => rfl
  | some s => cases hblank : Text.isBlank s <;> simp [RuntimeConfig.withGraphQLSchema, Option.filter, hblank]

theorem directs (r : FirstConfig) (parsed : RuntimeConfig) :
    r.Directs parsed ((parsed.withConnection r.connectionString r.accessToken).withGraphQLSchema r.schema) := by
  have hsources : ∀ name, (parsed.withConnection r.connectionString r.accessToken).dataSources.get? name =
      (parsed.dataSources.get? name).map fun d => if name = parsed.defaultDataSource then r.redirected d else d := by
    intro name
    simp only [RuntimeConfig.withConnection, NameMap.get?_modify, redirect_eq]
  rw [withGraphQLSchema_eq]
  refine ⟨rfl, rfl, rfl, rfl, ?_, fun name hne => ?_, rfl⟩
  · exact (hsources parsed.defaultDataSource).trans (by simp [RuntimeConfig.defaultSource?])
  · exact (hsources name).trans (by simp [hne])

/-- **A request comes to what it makes**, if it comes to anything -/
theorem makes_of_config (h : r.config env = .ok c) : r.Makes env c := by
  obtain ⟨text, hreads⟩ := reads_of_config h
  rw [config_of_reads hreads] at h
  cases hparse : RuntimeConfig.parse env r.replacement text with
  | error e =>
    rw [hparse] at h
    cases h
  | ok parsed =>
    rw [hparse] at h
    cases h
    exact ⟨text, parsed, hreads, hparse, r.directs parsed⟩

theorem not_makes_of_error {e : ConfigError} (h : r.config env = .error e) : ¬ r.Makes env c := by
  rintro ⟨text, parsed, hreads, hparse, -⟩
  rw [config_of_reads hreads, hparse] at h
  cases h

end Makes

end FirstConfig

end EntityGateway
