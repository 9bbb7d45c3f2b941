/-
Records and patches.

A record is valid if every rule of its entity is met by its field, and a part of a record if every field that is there
meets its rule. A null meets every rule but that a field is required, and of a part nothing is required. So a patch may
empty a required field, and that is the only way in which a valid patch can break a valid record. This is so whatever
the patterns and formats of the rules are, and whoever reads them.

- `validate_ok`, `validatePart_ok`: both verdicts as conditions on each field;
- `patched_record_valid_iff`: a valid record stays valid under a valid patch that empties no required field;
- `emptied_address_breaks_member`: a valid record, a valid patch and a record that is not valid.
-/
import EntityGateway.Proofs.Served.Criteria
import EntityGateway.Simulation.Formats

namespace EntityGateway

/-! ## Fields -/

namespace CompiledRule

theorem problemUnless_eq_none {condition : Bool} {p : FieldProblem} :
    problemUnless condition p = none ↔ condition = true := by
  cases condition <;> simp [problemUnless]

/-- a field of a record is as its rule wants it if it is there when it is required, and its value meets the rule -/
theorem recordProblem?_eq_none [Format.Readers] {r : CompiledRule} {v : Option Json} :
    r.recordProblem? v = none ↔
      (r.rule.required = some true → isPresent v = true) ∧ ∀ value, v = some value → r.problem? value = none := by
  unfold recordProblem?
  rw [Option.orElse_eq_none, problemUnless_eq_none]
  simp [imp_iff_not_or]

end CompiledRule

/-! ## Verdicts -/

namespace RuleBook

variable {b : RuleBook} {entity : String} {body : Body}

theorem verdict_ok {l : List (String × FieldProblem)} : verdict l = .ok () ↔ l = [] := by
  cases l <;> simp [verdict]

theorem rulesOf_ok {rules : NameMap CompiledRule} : b.rulesOf entity = .ok rules ↔ b.get? entity = some rules := by
  unfold rulesOf
  cases b.get? entity <;> simp

theorem verdict_of_rules {problems : NameMap CompiledRule → List (String × FieldProblem)} :
    (b.rulesOf entity >>= fun rules => verdict (problems rules)) = .ok () ↔
      ∃ rules, b.get? entity = some rules ∧ problems rules = [] := by
  cases hrules : b.rulesOf entity with
  | error e =>
    have hnone : ¬ ∃ rules, b.get? entity = some rules := by
      rintro ⟨rules, hsome⟩
      cases hrules.symm.trans (rulesOf_ok.2 hsome)
    simp_all [bind, Except.bind]
  | ok rules =>
    rw [rulesOf_ok] at hrules
    simp [bind, Except.bind, hrules, verdict_ok]

/-- **A record is valid** if every field with a rule is as the rule wants it -/
theorem validate_ok [Format.Readers] : b.validate entity body = .ok () ↔ ∃ rules, b.get? entity = some rules ∧
    ∀ field r, rules.get? field = some r → r.recordProblem? (body.get? field) = none := by
  unfold validate
  rw [verdict_of_rules]
  simp [recordProblems, ← NameMap.mem_entries_iff]

/-- **A part of a record is valid** if every field that is there meets its rule, if it has one -/
theorem validatePart_ok [Format.Readers] : b.validatePart entity body = .ok () ↔ ∃ rules, b.get? entity = some rules ∧
    ∀ field r v, rules.get? field = some r → body.get? field = some v → r.problem? v = none := by
  unfold validatePart
  rw [verdict_of_rules]
  refine exists_congr fun rules => and_congr_right fun _ => ?_
  simp only [partProblems, List.filterMap_eq_nil_iff, Prod.forall, NameMap.mem_entries_iff, Option.map_eq_none_iff,
    Option.bind_eq_none_iff]
  exact ⟨fun h field r v hr hv => h field v hv r hr, fun h field v hv r hr => h field r v hr hv⟩

theorem rules_of_ofConfig [Pattern.Engine] {c : RuntimeConfig} {e : Entity} {rules : NameMap CompiledRule}
    (hbound : ofConfig c = .ok b) (he : c.entities.get? entity = some e) (hrules : b.get? entity = some rules)
    (field : String) (rule : FieldRule) :
    e.validation.get? field = some rule ↔ ∃ r, rules.get? field = some r ∧ r.rule = rule := by
  obtain ⟨e', he', hcompiled⟩ := (NameMap.get?_tryMap hbound entity rules).1 hrules
  obtain rfl : e' = e := Option.some.inj (he'.symm.trans he)
  have hrule : ∀ {rule r}, compileRule entity field rule = .ok r → r.rule = rule := by
    intro rule r h
    unfold compileRule at h
    split at h
    · cases h
      rfl
    · split at h
      · cases h
        rfl
      · cases h
  constructor
  · intro h
    obtain ⟨r, hr⟩ := NameMap.tryMap_ok.1 ⟨rules, hcompiled⟩ (field, rule) ((NameMap.mem_entries_iff _ _ _).2 h)
    exact ⟨r, (NameMap.get?_tryMap hcompiled field r).2 ⟨rule, h, hr⟩, hrule hr⟩
  · rintro ⟨r, hr, rfl⟩
    obtain ⟨rule, h, hcompile⟩ := (NameMap.get?_tryMap hcompiled field r).1 hr
    rw [hrule hcompile]
    exact h

end RuleBook

/-! ## Patches -/

/-- the fields of a record with those of a patch put over them -/
def Body.patched (record patch : Body) : Body :=
  patch.entries.foldl (fun body member => body.insert member.1 member.2) record

theorem get?_patched (record patch : Body) (field : String) :
    (record.patched patch).get? field = (patch.get? field).or (record.get? field) :=
  NameMap.get?_inserts _ patch.nodup_names record field

/-- a patch empties a field of an entity that is required -/
def Empties (patch : Body) (e : Entity) : Prop :=
  ∃ field rule, e.validation.get? field = some rule ∧ rule.required = some true ∧ patch.get? field = some .null

section Patched

variable [Pattern.Engine] [Format.Readers] {c : RuntimeConfig} {b : RuleBook} {entity : String} {e : Entity}
  {record patch : Body}

/-- **A valid record stays valid under a valid patch** if and only if the patch empties no required field -/
theorem patched_record_valid_iff (hbound : RuleBook.ofConfig c = .ok b) (he : c.entities.get? entity = some e)
    (hrecord : b.validate entity record = .ok ()) (hpatch : b.validatePart entity patch = .ok ()) :
    b.validate entity (record.patched patch) = .ok () ↔ ¬ Empties patch e := by
  rw [RuleBook.validate_ok] at hrecord ⊢
  rw [RuleBook.validatePart_ok] at hpatch
  obtain ⟨rules, hrules, hrecord⟩ := hrecord
  obtain ⟨rules', hrules', hpatch⟩ := hpatch
  obtain rfl : rules = rules' := Option.some.inj (hrules.symm.trans hrules')
  have hrule := RuleBook.rules_of_ofConfig hbound he hrules
  constructor
  · rintro ⟨rules', hrules', hvalid⟩ ⟨field, rule, hfield, hrequired, hnull⟩
    obtain rfl : rules = rules' := Option.some.inj (hrules.symm.trans hrules')
    obtain ⟨r, hr, rfl⟩ := (hrule field rule).1 hfield
    have hpresent := (CompiledRule.recordProblem?_eq_none.1 (hvalid field r hr)).1 hrequired
    rw [get?_patched, hnull] at hpresent
    cases hpresent
  · intro hkeeps
    refine ⟨rules, hrules, fun field r hr => ?_⟩
    rw [get?_patched]
    cases hfield : patch.get? field with
    | none => exact hrecord field r hr
    | some v =>
      -- the patch decides about this field
      refine CompiledRule.recordProblem?_eq_none.2 ⟨fun hrequired => ?_, fun value hvalue => ?_⟩
      · cases v with
        | null => exact absurd ⟨field, r.rule, (hrule field r.rule).2 ⟨r, hr, rfl⟩, hrequired, hfield⟩ hkeeps
        | _ => rfl
      · cases hvalue
        exact hpatch field r v hr hfield

end Patched

/-! ### Members of a club -/

open scoped Simulation

/-- a configuration with members, who have to have an address and may have a nickname -/
def clubConfig : RuntimeConfig :=
  { World.plainConfig with
    entities := NameMap.empty.insert "members"
      { source := { object := "members" },
        validation := (NameMap.empty.insert "address" { required := some true, format := some "email" }).insert
          "nickname" { maxLength := some 8 } } }

def clubMember : Body := (NameMap.empty.insert "address" (.string "a@b.c")).insert "nickname" (.string "ann")

theorem changed_address_keeps_member : ∃ b, RuleBook.ofConfig clubConfig = .ok b ∧
    b.validate "members" (clubMember.patched (NameMap.empty.insert "address" (.string "d@e.f"))) = .ok () := by
  refine ⟨_, rfl, (patched_record_valid_iff (c := clubConfig) rfl rfl rfl rfl).2 ?_⟩
  rintro ⟨field, rule, -, -, hnull⟩
  rw [NameMap.get?_insert] at hnull
  split_ifs at hnull <;> cases hnull

/-- **A patch that empties a required field** is valid and breaks a valid record -/
theorem emptied_address_breaks_member : ∃ b, RuleBook.ofConfig clubConfig = .ok b ∧
    b.validate "members" clubMember = .ok () ∧
    b.validatePart "members" (NameMap.empty.insert "address" .null) = .ok () ∧
    b.validate "members" (clubMember.patched (NameMap.empty.insert "address" .null)) =
      .error (.validation "address is required") :=
  ⟨_, rfl, rfl, rfl, rfl⟩

end EntityGateway
