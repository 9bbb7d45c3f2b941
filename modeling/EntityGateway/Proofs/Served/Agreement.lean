/-
What it means that the services agree with a snapshot.

The services agree with a snapshot and a set of metadata built from it if each holds what it would derive from them.

- `answer_done`: a call that succeeds makes one service agree, and takes nothing from the others;
- `answer_of_compiles`: no call fails about a snapshot that the services agreed with before.
-/
import EntityGateway.Proofs.Orchestration.Building
import EntityGateway.Proofs.Served.Traffic

namespace EntityGateway

theorem config_of_held {h : ConfigHolder} {s : Snapshot} (hheld : h.held = some s) : h.config = .ok s.config := by
  simp [ConfigHolder.config, hheld]

theorem types_of_held {h : ConfigHolder} {s : Snapshot} {set : ProviderSet} (hheld : h.held = some s) :
    TypeCatalog.ofHolder h set = TypeCatalog.ofConfig s.config set := by
  simp [TypeCatalog.ofHolder, config_of_held hheld]
  rfl

theorem ok_of_map {α β ε : Type} {result : Except ε α} {f : α → β} {b : β} (h : result.map f = .ok b) :
    ∃ a, result = .ok a ∧ f a = b := by
  match result with
  | .ok a =>
    cases h
    exact ⟨a, rfl, rfl⟩
  | .error _ => cases h

/-! ## Services -/

variable [Pattern.Engine]

/-- a service has what it would derive from a snapshot and a set of metadata -/
def Wire.Done (s : Snapshot) (set : ProviderSet) (v : Services) : Wire → Prop
  | .rebind .authorization => True
  | .permissions => v.permissions = .ofConfig s.config
  | .rebind .validator => ∃ rules, RuleBook.ofConfig s.config = .ok rules ∧ v.rules = some rules
  | .rebind .schema => TypeCatalog.ofConfig s.config set = .ok v.types

/-- the set in use is built from a snapshot, and all services have what they would derive from both -/
structure Coherent (s : Snapshot) (set : ProviderSet) (v : Services) : Prop where
  built : set.BuiltFrom s
  permissions : v.permissions = .ofConfig s.config
  rules : ∃ rules, RuleBook.ofConfig s.config = .ok rules ∧ v.rules = some rules
  types : TypeCatalog.ofConfig s.config set = .ok v.types

/-- a snapshot and a set from which all services can derive what they need -/
structure Compiles (s : Snapshot) (set : ProviderSet) : Prop where
  rules : ∃ rules, RuleBook.ofConfig s.config = .ok rules
  types : ∃ types, TypeCatalog.ofConfig s.config set = .ok types

section Services

variable {s : Snapshot} {set : ProviderSet} {v v' : Services} {h : ConfigHolder} {wire : Wire}

theorem coherent_of_done (hbuilt : set.BuiltFrom s) (hdone : ∀ x ∈ Wire.all, x.Done s set v) : Coherent s set v :=
  ⟨hbuilt, hdone .permissions (by decide), hdone (.rebind .validator) (by decide), hdone (.rebind .schema) (by decide)⟩

theorem Coherent.compiles (hc : Coherent s set v) : Compiles s set := by
  obtain ⟨rules, hrules, -⟩ := hc.rules
  exact ⟨⟨rules, hrules⟩, ⟨v.types, hc.types⟩⟩

theorem rules_of_held (hheld : h.held = some s) : RuleBook.ofHolder h = RuleBook.ofConfig s.config := by
  simp [RuleBook.ofHolder, config_of_held hheld]
  rfl

theorem answer_ok (hheld : h.held = some s) (hanswer : v.answer (wire.call h set s) = .ok v') :
    wire.Done s set v' ∧ ∀ x : Wire, x.Done s set v → x.Done s set v' := by
  cases wire with
  | permissions =>
    cases hanswer
    refine ⟨rfl, fun x hx => ?_⟩
    cases x with
    | permissions => rfl
    | rebind who => cases who <;> exact hx
  | rebind who =>
    cases who with
    | authorization =>
      obtain ⟨c, -, rfl⟩ := ok_of_map hanswer
      exact ⟨trivial, fun x hx => hx⟩
    | validator =>
      obtain ⟨rules, hrules, rfl⟩ := ok_of_map hanswer
      rw [rules_of_held hheld] at hrules
      refine ⟨⟨rules, hrules, rfl⟩, fun x hx => ?_⟩
      cases x with
      | permissions => exact hx
      | rebind who =>
        cases who with
        | validator => exact ⟨rules, hrules, rfl⟩
        | _ => exact hx
    | schema =>
      obtain ⟨types, htypes, rfl⟩ := ok_of_map hanswer
      rw [types_of_held hheld] at htypes
      refine ⟨htypes, fun x hx => ?_⟩
      cases x with
      | permissions => exact hx
      | rebind who =>
        cases who with
        | schema => exact htypes
        | _ => exact hx

/-- **A call that succeeds** makes one service agree, and takes nothing from the others -/
theorem answer_done (hheld : h.held = some s) (hanswer : v.answer (wire.call h set s) = .ok v') {done : List Wire}
    (hdone : ∀ x ∈ done, x.Done s set v) : ∀ x ∈ done ++ [wire], x.Done s set v' := by
  obtain ⟨hnew, hold⟩ := answer_ok hheld hanswer
  intro x hx
  rcases List.mem_append.1 hx with hx | hx
  · exact hold x (hdone x hx)
  · obtain rfl := List.mem_singleton.1 hx
    exact hnew

/-- **No call fails** about a snapshot that can be compiled -/
theorem answer_of_compiles (hheld : h.held = some s) (hcompiles : Compiles s set) :
    ∃ v', v.answer (wire.call h set s) = .ok v' := by
  obtain ⟨⟨rules, hrules⟩, ⟨types, htypes⟩⟩ := hcompiles
  cases wire with
  | permissions => exact ⟨_, rfl⟩
  | rebind who =>
    cases who with
    | authorization => simp [Wire.call, Services.answer, config_of_held hheld, Except.map]
    | validator => simp [Wire.call, Services.answer, rules_of_held hheld, hrules, Except.map]
    | schema => simp [Wire.call, Services.answer, types_of_held hheld, htypes, Except.map]

end Services

end EntityGateway
