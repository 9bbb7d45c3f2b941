/-
What the permissions of an entity grant.

A block of permissions lists names of actions for a role. A name stands for the action that it is in lower case, and a
star for all actions that make sense on the entity. What a role may do is what its blocks list between them; known
callers without a block of their own may do what anonymous ones may.

- `get?_declared`: the blocks of one role add up;
- `allows_ofConfig`: the map of permissions allows what the blocks grant, and nothing else;
- `expand_of_checked`: what the check of permissions lets pass makes sense on the entity, and grants something;
- `blocks_decide_permissions`: the whole of it, for the services after the map was rebuilt.
-/
import EntityGateway.Proofs.Served.Criteria
import EntityGateway.Proofs.Unicode.Lowercase

namespace EntityGateway

/-! ## What blocks grant -/

namespace Permissions

/-- a name stands for an action: its own in any case, or a star for execution of a procedure and for every other action
on a table or view -/
def Stands (kind : ObjectKind) (name : String) (a : EntityAction) : Prop :=
  Unicode.lower name = a.name ∨ name = "*" ∧ (a = .execute ↔ kind = .storedProcedure)

/-- some block of a role lists a name that stands for an action -/
def Listed (e : Entity) (role : String) (a : EntityAction) : Prop :=
  ∃ p ∈ e.permissions, p.role = role ∧ ∃ x ∈ p.actions, Stands e.source.kind x.name a

/-- a role may perform an action: by a block of its own, or as a known caller whom no block is about -/
def Grants (e : Entity) (role : String) (a : EntityAction) : Prop :=
  Listed e role a ∨
    role = authenticated ∧ (∀ p ∈ e.permissions, p.role ≠ authenticated) ∧ Listed e anonymous a

/-! ## Names of actions -/

theorem mem_ofLower? {s : String} {a : EntityAction} : a ∈ (EntityAction.ofLower? s).toList ↔ s = a.name := by
  rw [Option.mem_toList, EntityAction.ofLower?]
  constructor
  · intro h
    have hname := List.find?_some h
    rw [beq_iff_eq] at hname
    exact hname.symm
  · rintro rfl
    cases a <;> decide

theorem mem_expand {kind : ObjectKind} {name : String} {a : EntityAction} :
    a ∈ expand kind (Unicode.lower name) ↔ Stands kind name a := by
  unfold expand Stands
  by_cases hstar : Unicode.lower name = "*"
  · have hnone : "*" ≠ a.name := by cases a <;> decide
    rw [if_pos hstar, hstar, Unicode.lower_eq_star.1 hstar]
    simp only [hnone, true_and, false_or]
    cases kind <;> cases a <;> decide
  · have hname : name ≠ "*" := fun h => hstar (Unicode.lower_eq_star.2 h)
    rw [if_neg hstar, mem_ofLower?]
    simp [hname]

theorem mem_granted {kind : ObjectKind} {p : Permission} {a : EntityAction} :
    a ∈ granted kind p ↔ ∃ x ∈ p.actions, Stands kind x.name a := by
  simp only [granted, List.mem_flatMap, mem_expand]

/-! ## The roles of an entity -/

theorem get?_foldl_granted (kind : ObjectKind) (role : String) (l : List Permission)
    (m : NameMap (List EntityAction)) :
    (l.foldl (fun roles p => roles.insert p.role ((roles.get? p.role).getD [] ++ granted kind p)) m).get? role =
      if role ∈ l.map (·.role) then
        some ((m.get? role).getD [] ++ (l.filter (·.role = role)).flatMap (granted kind))
      else m.get? role := by
  induction l generalizing m with
  | nil => rfl
  | cons p l ih =>
    rw [List.foldl_cons, ih, NameMap.get?_insert]
    by_cases hrole : role = p.role
    · subst hrole
      simp only [if_true, Option.getD_some, List.append_assoc, List.map_cons, List.mem_cons, true_or, decide_true,
        List.filter_cons_of_pos, List.flatMap_cons]
      split_ifs with hrest
      · rfl
      · -- no block of this role is left
        have hnone : l.filter (·.role = p.role) = [] := by
          refine List.filter_eq_nil_iff.2 fun q hq hname => hrest ?_
          exact List.mem_map.2 ⟨q, hq, by simpa using hname⟩
        rw [hnone, List.flatMap_nil, List.append_nil]
    · have hne : ¬ p.role = role := fun h => hrole h.symm
      simp [hrole, hne]

/-- **The blocks of one role add up** -/
theorem get?_declared (e : Entity) (role : String) :
    (declared e).get? role =
      if role ∈ e.permissions.map (·.role) then
        some ((e.permissions.filter (·.role = role)).flatMap (granted e.source.kind))
      else none := by
  rw [declared, get?_foldl_granted, NameMap.get?_empty]
  rfl

theorem mem_declared {e : Entity} {role : String} {a : EntityAction} :
    a ∈ ((declared e).get? role).getD [] ↔ Listed e role a := by
  rw [get?_declared]
  constructor
  · intro h
    split_ifs at h
    · obtain ⟨p, hp, ha⟩ := List.mem_flatMap.1 h
      rw [List.mem_filter, decide_eq_true_eq] at hp
      exact ⟨p, hp.1, hp.2, mem_granted.1 ha⟩
    · cases h
  · rintro ⟨p, hp, rfl, ha⟩
    rw [if_pos (List.mem_map_of_mem hp), Option.getD_some]
    exact List.mem_flatMap.2 ⟨p, List.mem_filter.2 ⟨hp, by simp⟩, mem_granted.2 ha⟩

theorem get?_declared_eq_none {e : Entity} {role : String} :
    (declared e).get? role = none ↔ ∀ p ∈ e.permissions, p.role ≠ role := by
  rw [get?_declared]
  split_ifs with h <;> simpa using h

/-- what a role has in the end is what its blocks grant, or those about anonymous callers -/
theorem mem_roles {e : Entity} {role : String} {a : EntityAction} :
    a ∈ ((roles e).get? role).getD [] ↔ Grants e role a := by
  simp only [roles, Grants]
  split
  · rename_i actions hknown hanonymous
    rw [NameMap.get?_insert, ← get?_declared_eq_none, ← mem_declared, ← mem_declared, hanonymous]
    split_ifs with hrole
    · simp [hrole, hknown]
    · simp [hrole]
  · rename_i hothers
    rw [mem_declared]
    refine ⟨Or.inl, ?_⟩
    rintro (h | ⟨rfl, hnone, hlisted⟩)
    · exact h
    · -- anonymous callers have a block, and known ones have none: that is the other case
      obtain ⟨p, hp, hrole, -⟩ := hlisted
      obtain ⟨actions, hactions⟩ : ∃ actions, (declared e).get? anonymous = some actions := by
        refine Option.ne_none_iff_exists'.1 fun h => ?_
        exact get?_declared_eq_none.1 h p hp hrole
      exact absurd hactions (hothers actions (get?_declared_eq_none.2 hnone))

/-- a block that grants nothing is a block of its role all the same -/
example : (roles { source := { object := "books" }, permissions :=
    [⟨"anonymous", [.named "read"]⟩, ⟨"authenticated", [.named "browse"]⟩] }).get? "authenticated" = some [] := rfl

end Permissions

/-! ## The map of permissions -/

open Permissions

/-- **The map allows what the blocks grant**, and nothing else -/
theorem PermissionMap.allows_ofConfig {c : RuntimeConfig} {entity role : String} {a : EntityAction} :
    (PermissionMap.ofConfig c).allows entity role a = true ↔
      ∃ e, c.entities.get? entity = some e ∧ Grants e role a := by
  unfold PermissionMap.allows PermissionMap.ofConfig
  rw [NameMap.get?_map]
  cases hentity : c.entities.get? entity with
  | none => simp
  | some e =>
    simp only [Option.map_some, Option.bind_some, Option.some.injEq, exists_eq_left', ← mem_roles]
    cases (roles e).get? role <;> simp

/-! ## Permissions that were checked -/

/-- a name that is known and makes sense grants something, and only what makes sense -/
theorem Permissions.expand_of_checked {kind : ObjectKind} {action : String}
    (hknown : action ∈ RuntimeConfig.knownActions) (hsuits : RuntimeConfig.actionSuits kind action = true) :
    expand kind action ≠ [] ∧ ∀ a ∈ expand kind action, a = .execute ↔ kind = .storedProcedure := by
  simp only [RuntimeConfig.knownActions, List.mem_cons, List.not_mem_nil, or_false] at hknown
  rcases hknown with rfl | rfl | rfl | rfl | rfl | rfl <;> cases kind <;> revert hsuits <;> decide

/-- a block that is checked lists a name, and each name that it lists grants something that makes sense -/
theorem checkPermission_ok {name : String} {kind : ObjectKind} {p : Permission}
    (h : RuntimeConfig.checkPermission name kind p = .ok ()) :
    (∃ a, a ∈ granted kind p) ∧ ∀ a ∈ granted kind p, a = .execute ↔ kind = .storedProcedure := by
  unfold RuntimeConfig.checkPermission at h
  obtain ⟨_, -, h⟩ := ok_of_bind h
  obtain ⟨_, hsome, h⟩ := ok_of_bind h
  obtain ⟨_, hactions, -⟩ := ok_of_bind h
  have hchecked : ∀ x ∈ p.actions, expand kind (Unicode.lower x.name) ≠ [] ∧
      ∀ a ∈ expand kind (Unicode.lower x.name), a = .execute ↔ kind = .storedProcedure := by
    intro x hx
    have haction := forM_ok.1 hactions _ (List.mem_map_of_mem hx)
    obtain ⟨_, hknown, hsuits⟩ := ok_of_bind haction
    exact expand_of_checked (List.contains_iff_mem.1 (ensure_ok.1 hknown)) (ensure_ok.1 hsuits)
  obtain ⟨x, hx⟩ : ∃ x, x ∈ p.actions := by
    refine List.exists_mem_of_ne_nil _ fun hnone => ?_
    simp [hnone, RuntimeConfig.ensure] at hsome
  obtain ⟨a, ha⟩ := List.exists_mem_of_ne_nil _ (hchecked x hx).1
  refine ⟨⟨a, List.mem_flatMap.2 ⟨x, hx, ha⟩⟩, fun a ha => ?_⟩
  obtain ⟨y, hy, hexpand⟩ := List.mem_flatMap.1 ha
  exact (hchecked y hy).2 a hexpand

theorem checkPermissions_ok {c : RuntimeConfig} (h : c.checkPermissions = .ok ()) {entity : String} {e : Entity}
    (he : c.entities.get? entity = some e) {p : Permission} (hp : p ∈ e.permissions) :
    RuntimeConfig.checkPermission entity e.source.kind p = .ok () := by
  unfold RuntimeConfig.checkPermissions at h
  have hentity := forM_ok.1 h _ ((NameMap.mem_entries_iff _ _ _).2 he)
  obtain ⟨_, -, hblocks⟩ := ok_of_bind hentity
  exact forM_ok.1 hblocks p hp

theorem suits_of_listed {c : RuntimeConfig} (h : c.checkPermissions = .ok ()) {entity : String} {e : Entity}
    (he : c.entities.get? entity = some e) {role : String} {a : EntityAction} (hlisted : Listed e role a) :
    a = .execute ↔ e.source.kind = .storedProcedure := by
  obtain ⟨p, hp, -, hlists⟩ := hlisted
  exact (checkPermission_ok (checkPermissions_ok h he hp)).2 a (mem_granted.2 hlists)

/-- **The blocks of an entity decide who may do what**: once the services have rebuilt their permissions, a role may
perform an action on an entity if and only if its blocks grant it. If the permissions were checked, every role that
has a block may do something, and only what makes sense on the entity -/
theorem blocks_decide_permissions [Pattern.Engine] (v : Services) (s : Snapshot) :
    let rebuilt := (Services.dependents.call (.rebuildPermissions s) v).2.permissions
    (∀ entity role a, rebuilt.allows entity role a = true ↔
      ∃ e, s.config.entities.get? entity = some e ∧ Grants e role a) ∧
    (s.config.checkPermissions = .ok () → ∀ entity e, s.config.entities.get? entity = some e →
      (∀ p ∈ e.permissions, ∃ a, rebuilt.allows entity p.role a = true) ∧
      ∀ role a, rebuilt.allows entity role a = true → (a = .execute ↔ e.source.kind = .storedProcedure)) := by
  intro rebuilt
  have hallows : ∀ entity role a, rebuilt.allows entity role a = true ↔
      ∃ e, s.config.entities.get? entity = some e ∧ Grants e role a := fun _ _ _ => PermissionMap.allows_ofConfig
  refine ⟨hallows, fun hchecked entity e he => ⟨fun p hp => ?_, fun role a hallowed => ?_⟩⟩
  · obtain ⟨a, ha⟩ := (checkPermission_ok (checkPermissions_ok hchecked he hp)).1
    exact ⟨a, (hallows entity p.role a).2 ⟨e, he, Or.inl ⟨p, hp, rfl, mem_granted.1 ha⟩⟩⟩
  · obtain ⟨e', he', hgrants⟩ := (hallows entity role a).1 hallowed
    obtain rfl : e' = e := Option.some.inj (he'.symm.trans he)
    rcases hgrants with hlisted | ⟨-, -, hlisted⟩
    · exact suits_of_listed hchecked he hlisted
    · exact suits_of_listed hchecked he hlisted

/-! ### A library -/

open scoped Simulation

/-- books that everyone may read and editors may change -/
def libraryBooks : Entity :=
  { source := { object := "books" },
    permissions := [⟨"anonymous", [.named "READ"]⟩, ⟨"editor", [.named "create"]⟩, ⟨"editor", [.named "Update"]⟩] }

/-- a procedure for known callers -/
def libraryLoan : Entity :=
  { source := { object := "lend", kind := .storedProcedure }, permissions := [⟨"authenticated", [.named "*"]⟩] }

/-- both of them in a configuration -/
def libraryConfig : RuntimeConfig :=
  { World.plainConfig with entities := (NameMap.empty.insert "books" libraryBooks).insert "lend" libraryLoan }

theorem library_blocks_decide :
    let rebuilt := (Services.dependents.call (.rebuildPermissions ⟨0, libraryConfig⟩) {}).2.permissions
    rebuilt.allows "books" "authenticated" .read = true ∧ rebuilt.allows "books" "editor" .update = true ∧
      (∃ a, rebuilt.allows "lend" "authenticated" a = true) ∧
      ∀ role a, rebuilt.allows "lend" role a = true → a = .execute := by
  obtain ⟨hallows, hchecked⟩ := blocks_decide_permissions {} ⟨0, libraryConfig⟩
  obtain ⟨hroles, hsuits⟩ := hchecked rfl "lend" libraryLoan rfl
  have hread : Listed libraryBooks anonymous .read :=
    ⟨⟨"anonymous", [.named "READ"]⟩, by simp [libraryBooks], rfl, .named "READ", List.mem_singleton_self _, .inl rfl⟩
  have hupdate : Listed libraryBooks "editor" .update :=
    ⟨⟨"editor", [.named "Update"]⟩, by simp [libraryBooks], rfl, .named "Update", List.mem_singleton_self _, .inl rfl⟩
  refine ⟨(hallows _ _ _).2 ⟨libraryBooks, rfl, .inr ⟨rfl, by decide, hread⟩⟩,
    (hallows _ _ _).2 ⟨libraryBooks, rfl, .inl hupdate⟩, hroles _ List.mem_cons_self, fun role a ha => ?_⟩
  exact (hsuits role a ha).2 rfl

end EntityGateway
