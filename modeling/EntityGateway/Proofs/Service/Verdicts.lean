/-
What the rules of an entity ask of a record.

A rule says whether its field must be there, and what its value must be if it is there and is not null: formats, lengths
and patterns concern texts, bounds concern numbers, and a list of allowed values concerns every value. A record is valid
if it meets all rules of its entity, and a part of a record if what is there does. One field is looked at after another
up to the first problem; which one comes first makes no difference to whether there is one. Which texts match a pattern,
are UUIDs or are timestamps is left open: all of this is so with any engine for patterns and any readers of formats.

- `FieldRule.Meets`: what a rule asks of a value, and `problem?_eq_none`, that nothing else is looked at;
- `validate_iff`, `validatePart_iff`: both verdicts as conditions on the configuration and the record;
- `checkEach_perm`: the fields may be looked at in any order;
- `validation_is_the_conjunction_of_the_rules`: the whole of it.
-/
import EntityGateway.Proofs.Service.Patches

namespace EntityGateway

/-! ## What a rule asks of a value -/

/-- a text is in a format; formats are known in any case, and those that are not known ask nothing -/
structure InFormat [Format.Readers] (format s : String) : Prop where
  email : Unicode.lower format = "email" → '@' ∈ s.toList ∧ 3 ≤ s.utf8ByteSize
  uuid : Unicode.lower format = "uuid" → Format.Readers.isUuid s = true
  timestamp : Unicode.lower format = "date-time" → Format.Readers.isTimestamp s = true

/-- a value that is not null is as a rule wants it -/
structure FieldRule.Meets [Pattern.Engine] [Format.Readers] (rule : FieldRule) (v : Json) : Prop where
  format : ∀ format s, rule.format = some format → v = .string s → InFormat format s
  maxLength : ∀ most s, rule.maxLength = some most → v = .string s → s.length ≤ most
  minLength : ∀ least s, rule.minLength = some least → v = .string s → least ≤ s.length
  pattern : ∀ source s, rule.pattern = some source → v = .string s → Pattern.Matches source s
  allowed : ∀ values, rule.allowed = some values → ∃ a ∈ values, CompiledRule.equalValues v a = true
  minimum : ∀ least n, rule.minimum = some least → v = .number n → least.units ≤ n.toReal.units
  maximum : ∀ most n, rule.maximum = some most → v = .number n → n.toReal.units ≤ most.units

namespace FieldRule

variable {rule : FieldRule}

/-- a value is on the list of allowed ones, if there is one -/
def Allows (rule : FieldRule) (v : Json) : Prop :=
  ∀ values, rule.allowed = some values → ∃ a ∈ values, CompiledRule.equalValues v a = true

variable [Pattern.Engine] [Format.Readers]

theorem meets_string {s : String} : rule.Meets (.string s) ↔
    ((∀ format, rule.format = some format → InFormat format s) ∧
      (∀ most, rule.maxLength = some most → s.length ≤ most) ∧
      (∀ least, rule.minLength = some least → least ≤ s.length) ∧
      ∀ source, rule.pattern = some source → Pattern.Matches source s) ∧
    rule.Allows (.string s) := by
  constructor
  · intro h
    exact ⟨⟨fun _ hf => h.format _ _ hf rfl, fun _ hm => h.maxLength _ _ hm rfl, fun _ hl => h.minLength _ _ hl rfl,
      fun _ hp => h.pattern _ _ hp rfl⟩, h.allowed⟩
  · rintro ⟨⟨hformat, hmost, hleast, hpattern⟩, hallowed⟩
    refine ⟨?_, ?_, ?_, ?_, hallowed, ?_, ?_⟩
    · rintro format _ hf ⟨⟩
      exact hformat format hf
    · rintro most _ hm ⟨⟩
      exact hmost most hm
    · rintro least _ hl ⟨⟩
      exact hleast least hl
    · rintro source _ hp ⟨⟩
      exact hpattern source hp
    · rintro _ _ _ ⟨⟩
    · rintro _ _ _ ⟨⟩

theorem meets_number {n : Number} : rule.Meets (.number n) ↔
    rule.Allows (.number n) ∧ (∀ least, rule.minimum = some least → least.units ≤ n.toReal.units) ∧
      ∀ most, rule.maximum = some most → n.toReal.units ≤ most.units := by
  constructor
  · intro h
    exact ⟨h.allowed, fun _ hl => h.minimum _ _ hl rfl, fun _ hm => h.maximum _ _ hm rfl⟩
  · rintro ⟨hallowed, hleast, hmost⟩
    refine ⟨?_, ?_, ?_, ?_, hallowed, ?_, ?_⟩
    · rintro _ _ _ ⟨⟩
    · rintro _ _ _ ⟨⟩
    · rintro _ _ _ ⟨⟩
    · rintro _ _ _ ⟨⟩
    · rintro least _ hl ⟨⟩
      exact hleast least hl
    · rintro most _ hm ⟨⟩
      exact hmost most hm

/-- only the list of allowed values concerns what is neither a text nor a number -/
theorem meets_other {v : Json} (hstring : ∀ s, v ≠ .string s) (hnumber : ∀ n, v ≠ .number n) :
    rule.Meets v ↔ rule.Allows v :=
  ⟨Meets.allowed, fun h => ⟨fun _ s _ hv => absurd hv (hstring s), fun _ s _ hv => absurd hv (hstring s),
    fun _ s _ hv => absurd hv (hstring s), fun _ s _ hv => absurd hv (hstring s), h,
    fun _ n _ hv => absurd hv (hnumber n), fun _ n _ hv => absurd hv (hnumber n)⟩⟩

end FieldRule

/-! ## What is looked at -/

namespace CompiledRule

variable {r : CompiledRule} {rule : FieldRule} {entity field : String} {v : Json}

theorem isEmail_iff {s : String} : isEmail s = true ↔ '@' ∈ s.toList ∧ 3 ≤ s.utf8ByteSize := by
  simp [isEmail, Text.contains]

theorem allowedProblem?_eq_none : r.allowedProblem? v = none ↔ r.rule.Allows v := by
  simp [allowedProblem?, FieldRule.Allows, Option.bind_eq_none_iff, problemUnless_eq_none]

theorem boundProblem?_eq_none {n : Number} : r.boundProblem? n = none ↔
    (∀ least, r.rule.minimum = some least → least.units ≤ n.toReal.units) ∧
      ∀ most, r.rule.maximum = some most → n.toReal.units ≤ most.units := by
  simp [boundProblem?, Option.bind_eq_none_iff, problemUnless_eq_none, Decimal.Binary64.le]

theorem compileRule_ok [Pattern.Engine] (h : RuleBook.compileRule entity field rule = .ok r) :
    r.rule = rule ∧ (rule.pattern = none → r.pattern = none) ∧
      ∀ source, rule.pattern = some source →
        ∃ fits, Pattern.Engine.compile source = .ok fits ∧ r.pattern = some fits := by
  unfold RuleBook.compileRule at h
  split at h
  · rename_i hpattern
    cases h
    exact ⟨rfl, fun _ => rfl, by simp [hpattern]⟩
  · rename_i source hpattern
    split at h
    · rename_i fits hcompile
      cases h
      exact ⟨rfl, by simp [hpattern], by simp [hpattern, hcompile]⟩
    · cases h

variable [Format.Readers]

theorem formatProblem?_eq_none {format s : String} : formatProblem? format s = none ↔ InFormat format s := by
  unfold formatProblem?
  split
  · rename_i hformat
    rw [problemUnless_eq_none, isEmail_iff]
    exact ⟨fun h => ⟨fun _ => h, by simp [hformat], by simp [hformat]⟩, fun h => h.email hformat⟩
  · rename_i hformat
    rw [problemUnless_eq_none]
    exact ⟨fun h => ⟨by simp [hformat], fun _ => h, by simp [hformat]⟩, fun h => h.uuid hformat⟩
  · rename_i hformat
    rw [problemUnless_eq_none]
    exact ⟨fun h => ⟨by simp [hformat], by simp [hformat], fun _ => h⟩, fun h => h.timestamp hformat⟩
  · rename_i hemail huuid htimestamp
    exact iff_of_true rfl ⟨fun h => absurd h hemail, fun h => absurd h huuid, fun h => absurd h htimestamp⟩

theorem textProblem?_eq_none {s : String} : r.textProblem? s = none ↔
    (∀ format, r.rule.format = some format → InFormat format s) ∧
      (∀ most, r.rule.maxLength = some most → s.length ≤ most) ∧
      (∀ least, r.rule.minLength = some least → least ≤ s.length) ∧
      ∀ fits, r.pattern = some fits → fits s = true := by
  simp [textProblem?, Option.bind_eq_none_iff, formatProblem?_eq_none, problemUnless_eq_none]

theorem problem?_number {m : Number} : r.problem? (.number m) = none ↔ r.rule.Allows (.number m) ∧
    (∀ least, r.rule.minimum = some least → least.units ≤ m.toReal.units) ∧
      ∀ most, r.rule.maximum = some most → m.toReal.units ≤ most.units := by
  rw [problem?, Option.orElse_eq_none, allowedProblem?_eq_none, boundProblem?_eq_none]

/-- **A value has no problem** if it is null, or as its rule wants it -/
theorem problem?_eq_none [Pattern.Engine] (hr : RuleBook.compileRule entity field rule = .ok r) :
    r.problem? v = none ↔ v ≠ .null → rule.Meets v := by
  obtain ⟨rfl, hnone, hsome⟩ := compileRule_ok hr
  cases v with
  | null => exact iff_of_true rfl fun h => absurd rfl h
  | string s =>
    have hmatches : (∀ fits, r.pattern = some fits → fits s = true) ↔
        ∀ source, r.rule.pattern = some source → Pattern.Matches source s := by
      cases hsource : r.rule.pattern with
      | none => simp [hnone hsource]
      | some source =>
        obtain ⟨fits, hcompile, hfits⟩ := hsome source hsource
        simp [hfits, Pattern.Matches, hcompile]
    unfold problem?
    rw [Option.orElse_eq_none, textProblem?_eq_none, allowedProblem?_eq_none, hmatches, ← FieldRule.meets_string]
    simp
  | number n =>
    rw [problem?_number, ← FieldRule.meets_number]
    simp
  | boolean | array | object =>
    unfold problem?
    rw [allowedProblem?_eq_none, ← FieldRule.meets_other (by simp) (by simp)]
    simp

end CompiledRule

/-! ## Records -/

/-- a field is there, and is not null -/
def Body.Has (body : Body) (field : String) : Prop := ∃ v, body.get? field = some v ∧ v ≠ .null

namespace Entity

variable [Pattern.Engine] [Format.Readers]

/-- a record is as the rules of an entity want it -/
def Accepts (e : Entity) (body : Body) : Prop :=
  ∀ field rule, e.validation.get? field = some rule →
    (rule.required = some true → body.Has field) ∧ ∀ v, body.get? field = some v → v ≠ .null → rule.Meets v

/-- what there is of a record is as the rules of an entity want it -/
def AcceptsPart (e : Entity) (body : Body) : Prop :=
  ∀ field v, body.get? field = some v → v ≠ .null → ∀ rule, e.validation.get? field = some rule → rule.Meets v

/-- all required fields of an entity are there -/
def IsFilled (e : Entity) (body : Body) : Prop :=
  ∀ field rule, e.validation.get? field = some rule → rule.required = some true → body.Has field

theorem accepts_iff {e : Entity} {body : Body} : e.Accepts body ↔ e.AcceptsPart body ∧ e.IsFilled body := by
  constructor
  · intro h
    exact ⟨fun field v hv hnull rule hrule => (h field rule hrule).2 v hv hnull,
      fun field rule hrule => (h field rule hrule).1⟩
  · rintro ⟨hpart, hfilled⟩ field rule hrule
    exact ⟨hfilled field rule hrule, fun v hv hnull => hpart field v hv hnull rule hrule⟩

end Entity

namespace RuleBook

variable {b : RuleBook} {c : RuntimeConfig} {entity : String} {e : Entity} {rules : NameMap CompiledRule} {body : Body}

theorem isPresent_iff {field : String} : CompiledRule.isPresent (body.get? field) = true ↔ body.Has field := by
  unfold Body.Has
  cases body.get? field with
  | none => simp [CompiledRule.isPresent]
  | some v => cases v <;> simp [CompiledRule.isPresent]

section Bound

variable [Pattern.Engine]

theorem exists_rules (hbound : ofConfig c = .ok b) (he : c.entities.get? entity = some e) :
    ∃ rules, b.get? entity = some rules ∧ e.validation.tryMap (compileRule entity) = .ok rules := by
  obtain ⟨rules, hrules⟩ := NameMap.tryMap_ok.1 ⟨b, hbound⟩ (entity, e) ((NameMap.mem_entries_iff _ _ _).2 he)
  exact ⟨rules, (NameMap.get?_tryMap hbound entity rules).2 ⟨e, he, hrules⟩, hrules⟩

theorem forall_compiled (hcompiled : e.validation.tryMap (compileRule entity) = .ok rules)
    {P : String → CompiledRule → Prop} {Q : String → FieldRule → Prop}
    (hsame : ∀ field rule r, compileRule entity field rule = .ok r → (P field r ↔ Q field rule)) :
    (∀ field r, rules.get? field = some r → P field r) ↔
      ∀ field rule, e.validation.get? field = some rule → Q field rule := by
  constructor
  · intro h field rule hrule
    obtain ⟨r, hr⟩ := NameMap.tryMap_ok.1 ⟨rules, hcompiled⟩ (field, rule) ((NameMap.mem_entries_iff _ _ _).2 hrule)
    exact (hsame field rule r hr).1 (h field r ((NameMap.get?_tryMap hcompiled field r).2 ⟨rule, hrule, hr⟩))
  · intro h field r hr
    obtain ⟨rule, hrule, hcompile⟩ := (NameMap.get?_tryMap hcompiled field r).1 hr
    exact (hsame field rule r hcompile).2 (h field rule hrule)

theorem exists_entity_iff (hbound : ofConfig c = .ok b) {P : NameMap CompiledRule → Prop} {Q : Entity → Prop}
    (hsame : ∀ e rules, e.validation.tryMap (compileRule entity) = .ok rules → (P rules ↔ Q e)) :
    (∃ rules, b.get? entity = some rules ∧ P rules) ↔ ∃ e, c.entities.get? entity = some e ∧ Q e := by
  constructor
  · rintro ⟨rules, hrules, h⟩
    obtain ⟨e, he, hcompiled⟩ := (NameMap.get?_tryMap hbound entity rules).1 hrules
    exact ⟨e, he, (hsame e rules hcompiled).1 h⟩
  · rintro ⟨e, he, h⟩
    obtain ⟨rules, hrules, hcompiled⟩ := exists_rules hbound he
    exact ⟨rules, hrules, (hsame e rules hcompiled).2 h⟩

variable [Format.Readers]

/-- **A record is valid** if its entity is there and it is as the rules want it -/
theorem validate_iff (hbound : ofConfig c = .ok b) :
    b.validate entity body = .ok () ↔ ∃ e, c.entities.get? entity = some e ∧ e.Accepts body := by
  rw [validate_ok]
  refine exists_entity_iff hbound fun e rules hcompiled => ?_
  refine forall_compiled hcompiled fun field rule r hr => ?_
  rw [CompiledRule.recordProblem?_eq_none, (CompiledRule.compileRule_ok hr).1, isPresent_iff]
  exact and_congr_right fun _ => forall_congr' fun v => imp_congr_right fun _ => CompiledRule.problem?_eq_none hr

/-- **A part of a record is valid** if its entity is there and the part is as the rules want it -/
theorem validatePart_iff (hbound : ofConfig c = .ok b) :
    b.validatePart entity body = .ok () ↔ ∃ e, c.entities.get? entity = some e ∧ e.AcceptsPart body := by
  rw [validatePart_ok]
  refine exists_entity_iff hbound fun e rules hcompiled => ?_
  have hmeets := forall_compiled hcompiled (P := fun field r => ∀ v, body.get? field = some v → r.problem? v = none)
    (Q := fun field rule => ∀ v, body.get? field = some v → v ≠ .null → rule.Meets v)
    fun field rule r hr => forall_congr' fun v => imp_congr_right fun _ => CompiledRule.problem?_eq_none hr
  constructor
  · intro h field v hv hnull rule hrule
    exact hmeets.1 (fun field r hr v hv => h field r v hr hv) field rule hrule v hv hnull
  · intro h field r v hr hv
    exact hmeets.2 (fun field rule hrule v hv hnull => h field v hv hnull rule hrule) field r hr v hv

end Bound

/-! ## One field after another -/

/-- fields looked at one after another, up to the first problem -/
def checkEach {α : Type} (problem? : String → α → Option FieldProblem) : List (String × α) → Except GatewayError Unit
  | [] => .ok ()
  | (field, a) :: rest =>
    match problem? field a with
    | some p => .error (p.error field)
    | none => checkEach problem? rest

/-- the fields of a record that have rules, looked at in an order -/
def checkRecord [Format.Readers] (body : Body) (order : List (String × CompiledRule)) : Except GatewayError Unit :=
  checkEach (fun field r => r.recordProblem? (body.get? field)) order

/-- the fields of a part of a record, looked at in an order -/
def checkPart [Format.Readers] (rules : NameMap CompiledRule) (order : List (String × Json)) :
    Except GatewayError Unit :=
  checkEach (fun field v => (rules.get? field).bind (·.problem? v)) order

section Order

variable {α : Type} {problem? : String → α → Option FieldProblem} {l order : List (String × α)}

theorem checkEach_eq :
    checkEach problem? l = verdict (l.filterMap fun x => (problem? x.1 x.2).map fun p => (x.1, p)) := by
  induction l with
  | nil => rfl
  | cons x rest ih =>
    obtain ⟨field, a⟩ := x
    unfold checkEach
    cases hproblem : problem? field a with
    | none => simpa [hproblem] using ih
    | some p => simp [hproblem, verdict]

theorem checkEach_ok : checkEach problem? l = .ok () ↔ ∀ x ∈ l, problem? x.1 x.2 = none := by
  rw [checkEach_eq, verdict_ok]
  simp [List.filterMap_eq_nil_iff]

/-- **Fields may be looked at in any order**: whether there is a problem does not depend on it -/
theorem checkEach_perm (horder : order.Perm l) : checkEach problem? order = .ok () ↔ checkEach problem? l = .ok () := by
  rw [checkEach_ok, checkEach_ok]
  exact forall_congr' fun x => imp_congr_left horder.mem_iff

end Order

theorem validate_eq [Format.Readers] (hrules : b.get? entity = some rules) :
    b.validate entity body = checkRecord body rules.entries := by
  unfold validate checkRecord
  rw [rulesOf_ok.2 hrules, checkEach_eq]
  rfl

theorem validatePart_eq [Format.Readers] (hrules : b.get? entity = some rules) :
    b.validatePart entity body = checkPart rules body.entries := by
  unfold validatePart checkPart
  rw [rulesOf_ok.2 hrules, checkEach_eq]
  rfl

end RuleBook

section Verdicts

variable [Pattern.Engine] [Format.Readers] {c : RuntimeConfig} {b : RuleBook}

/-- **Validation is the conjunction of the rules.** A record is valid just if its entity is there, every required field
is there and not null, and everything that is there and not null is as its rule wants it; a part of a record is valid
just if its entity is there and everything in it that is not null and has a rule is as this rule wants it. So a record
is valid just if it is valid as a part and nothing that is required is missing. The rules of a record, and the fields of
a part, may be looked at in any order. -/
theorem validation_is_the_conjunction_of_the_rules (hbound : RuleBook.ofConfig c = .ok b) (entity : String)
    (body : Body) :
    (b.validate entity body = .ok () ↔ ∃ e, c.entities.get? entity = some e ∧ e.Accepts body) ∧
    (b.validatePart entity body = .ok () ↔ ∃ e, c.entities.get? entity = some e ∧ e.AcceptsPart body) ∧
    (b.validate entity body = .ok () ↔ b.validatePart entity body = .ok () ∧
      ∀ e, c.entities.get? entity = some e → e.IsFilled body) ∧
    ∀ rules, b.get? entity = some rules →
      (∀ order : List (String × CompiledRule), order.Perm rules.entries →
        (RuleBook.checkRecord body order = .ok () ↔ b.validate entity body = .ok ())) ∧
      ∀ order : List (String × Json), order.Perm body.entries →
        (RuleBook.checkPart rules order = .ok () ↔ b.validatePart entity body = .ok ()) := by
  refine ⟨RuleBook.validate_iff hbound, RuleBook.validatePart_iff hbound, ?_, fun rules hrules => ⟨?_, ?_⟩⟩
  · rw [RuleBook.validate_iff hbound, RuleBook.validatePart_iff hbound]
    constructor
    · rintro ⟨e, he, haccepts⟩
      obtain ⟨hpart, hfilled⟩ := Entity.accepts_iff.1 haccepts
      refine ⟨⟨e, he, hpart⟩, fun e' he' => ?_⟩
      cases he.symm.trans he'
      exact hfilled
    · rintro ⟨⟨e, he, hpart⟩, hfilled⟩
      exact ⟨e, he, Entity.accepts_iff.2 ⟨hpart, hfilled e he⟩⟩
  · intro order horder
    rw [RuleBook.validate_eq hrules]
    exact RuleBook.checkEach_perm horder
  · intro order horder
    rw [RuleBook.validatePart_eq hrules]
    exact RuleBook.checkEach_perm horder

end Verdicts

/-! ### Parcels -/

open scoped Simulation

/-- parcels have to have a code of two letters and a weight, and may have a size and a time -/
def parcelConfig : RuntimeConfig :=
  { World.plainConfig with
    entities := NameMap.empty.insert "parcels"
      { source := { object := "parcels" },
        validation := (((NameMap.empty.insert "code"
          { required := some true, minLength := some 2, maxLength := some 2, pattern := some "^[a-z]+$" }).insert
          "weight" { required := some true, minimum := some Decimal.Binary64.zero }).insert
          "size" { allowed := some [.string "S", .number (.integer 1)] }).insert
          "sent" { format := some "Date-Time" } } }

/-- a parcel, whose time is not known -/
def smallParcel : Body :=
  ((NameMap.empty.insert "code" (.string "ab")).insert "weight" (.number (.integer 3))).insert "sent" .null

theorem isOk_iff {verdict : Except GatewayError Unit} : verdict.isOk = true ↔ verdict = .ok () := by
  cases verdict <;> simp [Except.isOk, Except.toBool]

theorem parcels_are_judged_by_all_rules : ∃ b e, RuleBook.ofConfig parcelConfig = .ok b ∧
    parcelConfig.entities.get? "parcels" = some e ∧ e.Accepts smallParcel ∧
    ¬ e.Accepts (smallParcel.insert "code" (.string "a1")) ∧
    ¬ e.AcceptsPart (NameMap.empty.insert "size" (.number (.integer 2))) ∧
    e.AcceptsPart (NameMap.empty.insert "size" (.string "S")) := by
  have hverdicts : (RuleBook.ofConfig parcelConfig).toOption.map (fun b =>
      ((b.validate "parcels" smallParcel).isOk,
        (b.validate "parcels" (smallParcel.insert "code" (.string "a1"))).isOk,
        (b.validatePart "parcels" (NameMap.empty.insert "size" (.number (.integer 2)))).isOk,
        (b.validatePart "parcels" (NameMap.empty.insert "size" (.string "S"))).isOk)) =
      some (true, false, false, true) := by decide +kernel
  obtain ⟨b, hb, hverdicts⟩ := Option.map_eq_some_iff.1 hverdicts
  simp only [Prod.mk.injEq, ← Bool.not_eq_true, isOk_iff] at hverdicts
  obtain ⟨hsmall, hcode, hsize, hletter⟩ := hverdicts
  have hbound : RuleBook.ofConfig parcelConfig = .ok b := by
    cases hrules : RuleBook.ofConfig parcelConfig with
    | error e => simp [hrules, Except.toOption] at hb
    | ok rules =>
      rw [hrules] at hb
      exact congrArg Except.ok (Option.some.inj hb)
  have hentity : ∃ e, parcelConfig.entities.get? "parcels" = some e := ⟨_, rfl⟩
  obtain ⟨e, he⟩ := hentity
  refine ⟨b, e, hbound, he, ?_, fun h => ?_, fun h => ?_, ?_⟩
  · obtain ⟨e', he', h⟩ := (validation_is_the_conjunction_of_the_rules hbound "parcels" _).1.1 hsmall
    cases he.symm.trans he'
    exact h
  · exact hcode ((validation_is_the_conjunction_of_the_rules hbound "parcels" _).1.2 ⟨e, he, h⟩)
  · exact hsize ((validation_is_the_conjunction_of_the_rules hbound "parcels" _).2.1.2 ⟨e, he, h⟩)
  · obtain ⟨e', he', h⟩ := (validation_is_the_conjunction_of_the_rules hbound "parcels" _).2.1.1 hletter
    cases he.symm.trans he'
    exact h

end EntityGateway
