/-
Edits of a configuration: what an order makes of the configuration that it is carried out on.

A reload puts another configuration in its place, but keeps the GraphQL schema; an entity is added, and nothing else is
changed. Edits are made one after another.

- `edit_of_make`: an order that makes a configuration of another one makes an edit of it;
- `edits_schema`: edits keep the GraphQL schema;
- `edits_entity`: an entity that was added stays until the next reload.
-/
import EntityGateway.Proofs.Served.Traffic

namespace EntityGateway

open Http

/-! ## Proper configurations -/

/-- the GraphQL schema of a configuration is not blank, as it is with all that are read -/
def RuntimeConfig.IsProper (c : RuntimeConfig) : Prop := ∀ s, c.graphqlSchema = some s → Text.isBlank s = false

section Proper

variable {env : Environment} {c : RuntimeConfig}

theorem schema_ofDocument {doc : ConfigDocument} (h : RuntimeConfig.ofDocument doc = .ok c) :
    c.graphqlSchema = none := by
  obtain ⟨sources, -, h⟩ := ok_of_bind h
  obtain ⟨name, -, h⟩ := ok_of_bind h
  cases h
  rfl

/-- a configuration that is parsed comes without a GraphQL schema -/
theorem schema_parse {replacement : Replacement} {text : String}
    (h : RuntimeConfig.parse env replacement text = .ok c) : c.graphqlSchema = none := by
  have htext : ∃ s, RuntimeConfig.ofText s = .ok c := by
    unfold RuntimeConfig.parse at h
    split_ifs at h
    · obtain ⟨s, -, h⟩ := ok_of_bind h
      exact ⟨s, h⟩
    · exact ⟨text, h⟩
  obtain ⟨s, h⟩ := htext
  unfold RuntimeConfig.ofText at h
  split at h
  · cases h
  · exact schema_ofDocument h

theorem schema_withConnection (c : RuntimeConfig) (connection token : Option String) :
    (c.withConnection connection token).graphqlSchema = c.graphqlSchema := rfl

theorem proper_withGraphQLSchema (h : c.graphqlSchema = none) (schema : Option String) :
    (c.withGraphQLSchema schema).IsProper := by
  intro s hs
  unfold RuntimeConfig.withGraphQLSchema at hs
  split at hs
  · split_ifs at hs with hblank
    · rw [h] at hs
      cases hs
    · obtain rfl := Option.some.inj hs
      simpa using hblank
  · rw [h] at hs
    cases hs

theorem proper_first {r : FirstConfig} (h : r.config env = .ok c) : c.IsProper := by
  have hparse : ∃ text, (RuntimeConfig.parse env r.replacement text >>= fun c =>
      .ok ((c.withConnection r.connectionString r.accessToken).withGraphQLSchema r.schema)) = .ok c := by
    unfold FirstConfig.config at h
    split at h
    · obtain ⟨text, -, h⟩ := ok_of_bind h
      exact ⟨text, h⟩
    · exact ⟨r.configuration, h⟩
  obtain ⟨text, h⟩ := hparse
  obtain ⟨parsed, hparse, h⟩ := ok_of_bind h
  cases h
  have hnone := schema_parse hparse
  rw [← schema_withConnection parsed r.connectionString r.accessToken] at hnone
  exact proper_withGraphQLSchema hnone _

theorem proper_ofFile {replacement : Replacement} {folder : Folder} {path : String}
    (h : RuntimeConfig.ofFile env replacement folder path = .ok c) : c.IsProper := by
  obtain ⟨text, -, h⟩ := ok_of_bind h
  intro s hs
  rw [schema_parse h] at hs
  cases hs

end Proper

/-! ## Edits -/

/-- what an order makes of a configuration -/
inductive Edit (settings : Settings) (env : Environment) (c : RuntimeConfig) : Order → RuntimeConfig → Prop
  | reload (post : ReloadPost) (htext : documentText post.configuration = .ok text)
      (hparse : RuntimeConfig.parse env {} text = .ok parsed) :
      Edit settings env c (post.order settings env)
        { parsed.withConnection settings.connectionString none with graphqlSchema := c.graphqlSchema }
  | entity (post : EntityPost) (hname : Text.isBlank post.name = false)
      (hnew : c.entities.contains post.name = false) :
      Edit settings env c post.order { c with entities := c.entities.insert post.name post.entity }

/-- what orders make of a configuration, one after another -/
inductive Edits (settings : Settings) (env : Environment) (c : RuntimeConfig) : List Order → RuntimeConfig → Prop
  | nil : Edits settings env c [] c
  | snoc (hold : Edits settings env c orders d) (hnew : Edit settings env d o d') :
      Edits settings env c (orders ++ [o]) d'

section Edits

variable {settings : Settings} {env : Environment} {c d : RuntimeConfig} {o : Order} {orders : List Order}

theorem ok_of_mapError {α ε ε' : Type} {result : Except ε α} {f : ε → ε'} {a : α} (h : result.mapError f = .ok a) :
    result = .ok a := by
  match result with
  | .ok _ =>
    cases h
    rfl
  | .error _ => cases h

theorem withEntity_ok {name : String} {e : Entity} (h : c.withEntity name e = .ok d) :
    Text.isBlank name = false ∧ c.entities.contains name = false ∧
      d = { c with entities := c.entities.insert name e } := by
  unfold RuntimeConfig.withEntity at h
  split_ifs at h with hblank hcontains
  cases h
  exact ⟨by simpa using hblank, by simpa using hcontains, rfl⟩

theorem withGraphQLSchema_proper (hproper : c.IsProper) (hnone : d.graphqlSchema = none) :
    d.withGraphQLSchema c.graphqlSchema = { d with graphqlSchema := c.graphqlSchema } := by
  unfold RuntimeConfig.withGraphQLSchema
  cases hs : c.graphqlSchema with
  | some s => simp [hproper s hs]
  | none => cases d; simpa using hnone

/-- a change of what is held that an order asks for is an edit -/
theorem edit_of_make (ho : Ordered settings env o) {a : Amendment} (htask : o.task = .amend a)
    {make : RuntimeConfig → Except GatewayError RuntimeConfig} (ha : a.make = .ok make) (hproper : c.IsProper)
    (hmake : make c = .ok d) : Edit settings env c o d := by
  cases ho with
  | first => cases htask
  | reload post =>
    cases htask
    obtain ⟨text, htext, ha⟩ := ok_of_bind ha
    obtain ⟨parsed, hparse, ha⟩ := ok_of_bind ha
    replace hparse := ok_of_mapError hparse
    cases ha
    cases hmake
    have hnone := schema_parse hparse
    rw [← schema_withConnection parsed settings.connectionString none] at hnone
    rw [withGraphQLSchema_proper hproper hnone]
    exact .reload post htext hparse
  | entity post =>
    cases htask
    cases ha
    obtain ⟨hname, hnew, hd⟩ := withEntity_ok (ok_of_mapError hmake)
    exact hd ▸ .entity post hname hnew

theorem edit_schema (h : Edit settings env c o d) : d.graphqlSchema = c.graphqlSchema := by
  cases h <;> rfl

theorem edits_schema (h : Edits settings env c orders d) : d.graphqlSchema = c.graphqlSchema := by
  induction h with
  | nil => rfl
  | snoc _ hnew ih => exact (edit_schema hnew).trans ih

theorem proper_edit (hproper : c.IsProper) (h : Edit settings env c o d) : d.IsProper := by
  intro s hs
  rw [edit_schema h] at hs
  exact hproper s hs

theorem edit_entity {post : EntityPost} (h : Edit settings env c o d) (ho : o = post.order) :
    d.entities.get? post.name = some post.entity := by
  cases h with
  | reload r => cases congrArg Order.success ho
  | entity other hname hnew =>
    have htask : other.change = post.change := by
      have := congrArg Order.task ho
      simpa [EntityPost.order] using this
    have hmade : other.change c = .ok { c with entities := c.entities.insert other.name other.entity } := by
      simp [EntityPost.change, RuntimeConfig.withEntity, hname, hnew, Except.mapError]
    rw [htask] at hmade
    obtain ⟨-, -, hd⟩ := withEntity_ok (ok_of_mapError hmade)
    rw [hd]
    exact NameMap.get?_insert_self _ _ _

/-- an entity that was added is there until the next reload -/
theorem edits_entity {post : EntityPost} (h : Edits settings env c orders d) {before after : List Order}
    (horders : orders = before ++ post.order :: after) (hnone : ∀ r : ReloadPost, r.order settings env ∉ after) :
    d.entities.get? post.name = some post.entity := by
  induction h generalizing after with
  | nil => simp at horders
  | snoc hold hnew ih =>
    rename_i orders d o d'
    rcases List.eq_nil_or_concat after with rfl | ⟨rest, last, rfl⟩
    · -- the last edit is the one that adds the entity
      obtain ⟨rfl, hlast⟩ := List.append_inj' horders rfl
      exact edit_entity hnew (List.singleton_inj.1 hlast)
    · have hsplit : orders ++ [o] = (before ++ post.order :: rest) ++ [last] := by simpa using horders
      obtain ⟨rfl, hlast⟩ := List.append_inj' hsplit rfl
      obtain rfl := List.singleton_inj.1 hlast
      have hheld := ih rfl fun r hr => hnone r (by simp [hr])
      cases hnew with
      | reload r => exact absurd (by simp) (hnone r)
      | entity other hname hfresh =>
        have hne : post.name ≠ other.name := by
          rintro heq
          rw [← heq] at hfresh
          simp [NameMap.contains, hheld] at hfresh
        exact (NameMap.get?_insert_of_ne _ hne _).trans hheld

end Edits

end EntityGateway
