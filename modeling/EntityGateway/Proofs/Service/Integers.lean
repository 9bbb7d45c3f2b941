/-
What a rule asks of an integer.

Bounds are 64-bit floats, and so is every number that is compared: two numbers are equal if they have one nearest float,
and a number is within bounds if its nearest float is. An integer that is as a rule wants it has no problem, therefore,
and one that is not may have none either, if it takes the place of another one. That happens from 2^53 on only, and only
if there is an integer that is no float.

- `problem?_integer`: what is looked at are nearest floats;
- `integer_constraints_are_rounded`: the verdict about an integer, and where it is exact;
- `neighbours_are_mistaken`: integers that are taken for others.
-/
import EntityGateway.Proofs.Decimal.Nearest
import EntityGateway.Proofs.Service.Verdicts

namespace EntityGateway

open Decimal (Binary64)

/-! ## Integers and their nearest floats -/

namespace Number

/-- an integer that is kept as one -/
def Kept (n : Int) : Prop := minInteger ≤ n ∧ n ≤ maxInteger

theorem isNearest_toReal {n : Int} (h : Kept n) : (Number.integer n).toReal.IsNearest (n * Binary64.unitsPerOne) := by
  have hmin : minInteger = -9223372036854775808 := rfl
  have hmax : (maxInteger : Int) = 18446744073709551615 := rfl
  have h64 : Nat.pow 2 64 = 18446744073709551616 := rfl
  obtain ⟨hlow, hhigh⟩ := h
  obtain ⟨x, hx, hnearest⟩ := Binary64.isNearest_ofInt (i := n) (by omega)
  rwa [toReal, hx, Option.getD_some]

end Number

/-! ## Rules for integers -/

/-- a rule whose allowed values are integers and whose bounds are floats -/
structure FieldRule.OfIntegers (rule : FieldRule) : Prop where
  allowed : ∀ values, rule.allowed = some values → ∀ v ∈ values, ∃ a, v = .number (.integer a) ∧ Number.Kept a
  minimum : ∀ least, rule.minimum = some least → least.Canonical
  maximum : ∀ most, rule.maximum = some most → most.Canonical

/-- an integer is as a rule wants it: it is one of the allowed integers, and within the bounds -/
structure FieldRule.Admits (rule : FieldRule) (n : Int) : Prop where
  allowed : ∀ values, rule.allowed = some values → .number (.integer n) ∈ values
  minimum : ∀ least, rule.minimum = some least → least.units ≤ n * Binary64.unitsPerOne
  maximum : ∀ most, rule.maximum = some most → n * Binary64.unitsPerOne ≤ most.units

/-- the nearest float of an integer is as a rule wants it: it is that of one of the allowed integers too, and within the
bounds -/
def FieldRule.AdmitsNearest (rule : FieldRule) (n : Int) : Prop :=
  ∃ x : Binary64, x.IsNearest (n * Binary64.unitsPerOne) ∧
    (∀ values, rule.allowed = some values → ∃ a y, .number (.integer a) ∈ values ∧
      Binary64.IsNearest y (a * Binary64.unitsPerOne) ∧ x.units = y.units) ∧
    (∀ least, rule.minimum = some least → least.units ≤ x.units) ∧
    ∀ most, rule.maximum = some most → x.units ≤ most.units

namespace CompiledRule

variable {r : CompiledRule} {n : Int}

theorem equalValues_number {m m' : Number} :
    equalValues (.number m) (.number m') = true ↔ m.toReal.units = m'.toReal.units := by
  simp [equalValues, Binary64.same]

/-- **Nearest floats are what is looked at** -/
theorem problem?_integer [Format.Readers] (hr : r.rule.OfIntegers) (hn : Number.Kept n) :
    r.problem? (.number (.integer n)) = none ↔ r.rule.AdmitsNearest n := by
  have hnear := Number.isNearest_toReal hn
  rw [problem?_number]
  constructor
  · rintro ⟨hallowed, hbounds⟩
    refine ⟨_, hnear, fun values hvalues => ?_, hbounds⟩
    obtain ⟨v, hv, hequal⟩ := hallowed values hvalues
    obtain ⟨a, rfl, ha⟩ := hr.allowed values hvalues v hv
    exact ⟨a, _, hv, Number.isNearest_toReal ha, equalValues_number.1 hequal⟩
  · rintro ⟨x, hx, hallowed, hbounds⟩
    rw [hnear.unique hx]
    refine ⟨fun values hvalues => ?_, hbounds⟩
    obtain ⟨a, y, hv, hy, hequal⟩ := hallowed values hvalues
    obtain ⟨a', heq, ha⟩ := hr.allowed values hvalues _ hv
    cases heq
    refine ⟨_, hv, equalValues_number.2 ?_⟩
    rw [hnear.unique hx, (Number.isNearest_toReal ha).unique hy, hequal]

end CompiledRule

/-! ## Where rules are exact -/

namespace FieldRule

variable {rule : FieldRule} {n : Int}

/-- an integer that is as a rule wants it has a nearest float that is, too: bounds are floats and keep their place -/
theorem Admits.nearest (h : rule.Admits n) (hrule : rule.OfIntegers) (hn : Number.Kept n) : rule.AdmitsNearest n := by
  have hnear := Number.isNearest_toReal hn
  exact ⟨_, hnear, fun values hvalues => ⟨n, _, h.allowed values hvalues, hnear, rfl⟩,
    fun least hleast => hnear.ge_of_le (hrule.minimum least hleast) (h.minimum least hleast),
    fun most hmost => hnear.le_of_ge (hrule.maximum most hmost) (h.maximum most hmost)⟩

/-- an integer that is a float, and has its nearest float to itself among the allowed ones, is admitted as it is -/
theorem AdmitsNearest.exact (h : rule.AdmitsNearest n) (hfloat : Binary64.IsFloat (n * Binary64.unitsPerOne))
    (hown : ∀ values a y, rule.allowed = some values → .number (.integer a) ∈ values →
      Binary64.IsNearest y (a * Binary64.unitsPerOne) → y.units = n * Binary64.unitsPerOne → a = n) :
    rule.Admits n := by
  obtain ⟨x, hx, hallowed, hleast, hmost⟩ := h
  obtain ⟨z, hz, hunits⟩ := hfloat
  have hexact : x.units = n * Binary64.unitsPerOne := hx.eq_of_float hz hunits
  refine ⟨fun values hvalues => ?_, fun least h => hexact ▸ hleast least h, fun most h => hexact ▸ hmost most h⟩
  obtain ⟨a, y, hv, hy, hequal⟩ := hallowed values hvalues
  exact hown values a y hvalues hv hy (hequal.symm.trans hexact) ▸ hv

end FieldRule

/-- **What a rule asks of an integer**

An integer has no problem just if its nearest float is as its rule wants it, so one that is as the rule wants it has
none. Below 2^53, and wherever an integer and all that are allowed are floats, no other has none. -/
theorem integer_constraints_are_rounded [Format.Readers] {r : CompiledRule} (hr : r.rule.OfIntegers) {n : Int}
    (hn : Number.Kept n) :
    (r.problem? (.number (.integer n)) = none ↔ r.rule.AdmitsNearest n) ∧
    (r.rule.Admits n → r.problem? (.number (.integer n)) = none) ∧
    (n.natAbs < Nat.pow 2 53 → (r.problem? (.number (.integer n)) = none ↔ r.rule.Admits n)) ∧
    (Binary64.IsFloat (n * Binary64.unitsPerOne) →
      (∀ values a, r.rule.allowed = some values → .number (.integer a) ∈ values →
        Binary64.IsFloat (a * Binary64.unitsPerOne)) →
      (r.problem? (.number (.integer n)) = none ↔ r.rule.Admits n)) := by
  rw [CompiledRule.problem?_integer hr hn]
  refine ⟨Iff.rfl, fun h => h.nearest hr hn, fun hsmall => ⟨fun h => h.exact ?_ ?_, fun h => h.nearest hr hn⟩,
    fun hfloat hfloats => ⟨fun h => h.exact hfloat ?_, fun h => h.nearest hr hn⟩⟩
  · exact Binary64.isFloat_of_natAbs_le hsmall.le
  · intro values a y hvalues hv hy hequal
    exact Binary64.eq_of_isNearest hequal hsmall hy
  · intro values a y hvalues hv hy hequal
    obtain ⟨z, hz, hunits⟩ := hfloats values a hvalues hv
    have hexact := (hy.eq_of_float hz hunits).symm.trans hequal
    exact Int.eq_of_mul_eq_mul_right (Int.ofNat_lt.2 Binary64.unitsPerOne_pos).ne' hexact

/-! ### Serial numbers -/

open scoped Simulation

/-- one serial number is allowed, which is no float -/
def serialRule : CompiledRule := ⟨{ allowed := some [.number (.integer 9007199254740993)] }, none⟩

/-- serial numbers from 9007199254740996 on, which is a float -/
def laterRule : CompiledRule := ⟨{ minimum := some ⟨false, 4503599627370498, 1075⟩ }, none⟩

theorem serialRule_ofIntegers : serialRule.rule.OfIntegers := by
  refine ⟨fun values hvalues v hv => ?_, nofun, nofun⟩
  cases hvalues
  exact ⟨_, List.mem_singleton.1 hv, by decide, by decide⟩

theorem laterRule_ofIntegers : laterRule.rule.OfIntegers := by
  refine ⟨nofun, fun least hleast => ?_, nofun⟩
  cases hleast
  exact ⟨by decide, by decide, .inr (by decide)⟩

theorem serials_are_judged : serialRule.problem? (.number (.integer 9007199254740993)) = none ∧
    serialRule.problem? (.number (.integer 3)) ≠ none ∧ laterRule.problem? (.number (.integer 3)) ≠ none := by
  have hserial : serialRule.rule.Admits 9007199254740993 := by
    refine ⟨fun values hvalues => ?_, nofun, nofun⟩
    cases hvalues
    exact List.mem_singleton_self _
  refine ⟨(integer_constraints_are_rounded serialRule_ofIntegers ⟨by decide, by decide⟩).2.1 hserial, ?_, ?_⟩
  · rw [Ne, (integer_constraints_are_rounded serialRule_ofIntegers ⟨by decide, by decide⟩).2.2.1 (by decide)]
    intro h
    exact absurd (h.allowed _ rfl) (by simp)
  · rw [Ne, (integer_constraints_are_rounded laterRule_ofIntegers ⟨by decide, by decide⟩).2.2.1 (by decide)]
    intro h
    exact absurd (h.minimum _ rfl) (by decide +kernel)

/-- **Integers that are taken for others**: one that is not allowed, and one below the bound -/
theorem neighbours_are_mistaken :
    (serialRule.rule.OfIntegers ∧ Number.Kept 9007199254740992 ∧
      serialRule.problem? (.number (.integer 9007199254740992)) = none ∧ ¬ serialRule.rule.Admits 9007199254740992) ∧
    (laterRule.rule.OfIntegers ∧ Number.Kept 9007199254740995 ∧
      laterRule.rule.minimum.map (·.units) = some (9007199254740996 * Binary64.unitsPerOne) ∧
      laterRule.problem? (.number (.integer 9007199254740995)) = none ∧ ¬ laterRule.rule.Admits 9007199254740995) := by
  refine ⟨⟨serialRule_ofIntegers, ⟨by decide, by decide⟩, ?_, fun h => ?_⟩,
    laterRule_ofIntegers, ⟨by decide, by decide⟩, by decide +kernel, ?_, fun h => ?_⟩
  · exact Option.isNone_iff_eq_none.1 (by decide +kernel)
  · exact absurd (h.allowed _ rfl) (by simp)
  · exact Option.isNone_iff_eq_none.1 (by decide +kernel)
  · exact absurd (h.minimum _ rfl) (by decide +kernel)

end EntityGateway
