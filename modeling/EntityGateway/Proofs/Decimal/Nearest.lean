/-
The nearest 64-bit float.

A float is nearest to a number if no other is nearer, and if its mantissa is even when another is as near. A number has
one nearest float, and rounding finds it: the multiple of a power of two that is nearest to the number is nearest among
all floats, since those that are no multiples are further down. Floats keep their place under rounding, so a bound that
is a float is not overstepped by it.

- `nearest_le`, `nearest_even`: the nearest multiple;
- `isNearest_round`: what rounding finds is nearest;
- `IsNearest.unique`: and nothing else is;
- `IsNearest.ge_of_le`, `IsNearest.eq_of_float`: rounding keeps order with floats, and floats themselves.
-/
import EntityGateway.Decimal.Binary64
import Mathlib.Tactic.Ring

namespace EntityGateway.Decimal

/-! ## The nearest multiple -/

section Multiple

variable {num den : Nat}

/-- rounding goes down by half a step at most, or up, and from the middle to what is even -/
theorem nearest_cases (num den : Nat) :
    (nearest num den = num / den ∧ 2 * (num % den) ≤ den ∧ (2 * (num % den) = den → num / den % 2 = 0)) ∨
      (nearest num den = num / den + 1 ∧ den ≤ 2 * (num % den) ∧ (2 * (num % den) = den → num / den % 2 = 1)) := by
  unfold nearest
  dsimp only
  split <;> omega

theorem div_le_nearest (num den : Nat) : num / den ≤ nearest num den ∧ nearest num den ≤ num / den + 1 := by
  rcases nearest_cases num den with ⟨heq, -, -⟩ | ⟨heq, -, -⟩ <;> omega

theorem mul_step (den : Nat) {i j : Nat} (h : i < j) : i * den + den ≤ j * den := by
  rw [← Nat.succ_mul]
  exact Nat.mul_le_mul_right den h

theorem nearest_le (num : Nat) (hden : 0 < den) (k : Nat) :
    ((num : Int) - (nearest num den * den : Nat)).natAbs ≤ ((num : Int) - (k * den : Nat)).natAbs := by
  have hnum : num = num / den * den + num % den := (Nat.div_add_mod' num den).symm
  have hrest : num % den < den := Nat.mod_lt num hden
  have hside : k * den ≤ num / den * den ∨ num / den * den + den ≤ k * den :=
    (Nat.lt_or_ge (num / den) k).symm.imp (Nat.mul_le_mul_right den) (mul_step den)
  rcases nearest_cases num den with ⟨heq, hhalf, -⟩ | ⟨heq, hhalf, -⟩
  · rw [heq]
    omega
  · rw [heq, Nat.succ_mul]
    omega

/-- another multiple is as near only if the number is in the middle, and then it is rounded to what is even -/
theorem nearest_even (hden : 0 < den) {k : Nat} (hk : k ≠ nearest num den)
    (htie : ((num : Int) - (nearest num den * den : Nat)).natAbs = ((num : Int) - (k * den : Nat)).natAbs) :
    nearest num den % 2 = 0 := by
  have hnum : num = num / den * den + num % den := (Nat.div_add_mod' num den).symm
  have hrest : num % den < den := Nat.mod_lt num hden
  have hstep : (num / den + 1) * den = num / den * den + den := Nat.succ_mul _ _
  rcases nearest_cases num den with ⟨heq, hhalf, heven⟩ | ⟨heq, hhalf, hodd⟩
  · rw [heq] at hk htie ⊢
    rcases Nat.lt_or_gt_of_ne hk with h | h
    · have hfar := mul_step den h
      omega
    · have hnext := mul_step den h
      omega
  · rw [heq] at hk htie ⊢
    rcases Nat.lt_or_gt_of_ne hk with h | h
    · have hbelow : k * den ≤ num / den * den := Nat.mul_le_mul_right den (Nat.le_of_lt_succ h)
      omega
    · have hfar := mul_step den h
      omega

end Multiple

/-! ## Floats -/

namespace Binary64

/-- a float that is as near to a number of units as any, and has an even mantissa if another is as near -/
structure IsNearest (x : Binary64) (t : Int) : Prop where
  canonical : x.Canonical
  least : ∀ y : Binary64, y.Canonical → (t - x.units).natAbs ≤ (t - y.units).natAbs
  even : ∀ y : Binary64, y.Canonical → y.units ≠ x.units → (t - x.units).natAbs = (t - y.units).natAbs →
    x.mantissa % 2 = 0

section Float

variable {x y : Binary64} {t : Int} {num scale : Nat}

theorem two_pow_pos (n : Nat) : 0 < Nat.pow 2 n := Nat.two_pow_pos n

theorem two_pow_le {m n : Nat} (h : m ≤ n) : Nat.pow 2 m ≤ Nat.pow 2 n := Nat.pow_le_pow_right (by decide) h

theorem two_pow_add (m n : Nat) : Nat.pow 2 (m + n) = Nat.pow 2 m * Nat.pow 2 n := Nat.pow_add 2 m n

theorem canonical_zero : zero.Canonical := ⟨two_pow_pos 53, Nat.zero_le _, .inl rfl⟩

@[simp] theorem units_zero : zero.units = 0 := by simp [zero, units, magnitude]

theorem units_eq : x.units = x.magnitude ∨ x.units = -(x.magnitude : Int) := by
  unfold units
  split
  · exact .inr rfl
  · exact .inl rfl

@[simp] theorem units_neg : x.neg.units = -x.units := by
  unfold units neg magnitude
  cases x.negative <;> simp

theorem Canonical.neg (h : x.Canonical) : x.neg.Canonical := h

theorem exists_canonical {m : Nat} (hm : m < Nat.pow 2 53) (hscale : scale ≤ maxScale) (negative : Bool) :
    ∃ x : Binary64, x.Canonical ∧ x.negative = negative ∧ x.magnitude = m * Nat.pow 2 scale := by
  -- a mantissa that is too small is doubled, and the scale taken down, until it is not or the scale is zero
  induction scale generalizing m with
  | zero => exact ⟨⟨negative, m, 0⟩, ⟨hm, hscale, .inl rfl⟩, rfl, rfl⟩
  | succ scale ih =>
    by_cases hfull : Nat.pow 2 52 ≤ m
    · exact ⟨⟨negative, m, scale + 1⟩, ⟨hm, hscale, .inr hfull⟩, rfl, rfl⟩
    · have hdouble : 2 * m < Nat.pow 2 53 := by
        have hpow : Nat.pow 2 53 = 2 * Nat.pow 2 52 := by decide
        omega
      obtain ⟨x, hx, hsign, hmagnitude⟩ := ih hdouble (Nat.le_of_succ_le hscale)
      refine ⟨x, hx, hsign, ?_⟩
      rw [hmagnitude, two_pow_add scale 1]
      have hone : Nat.pow 2 1 = 2 := rfl
      rw [hone]
      ring

theorem mantissas_le {s s' : Nat} (h : s < s') : Nat.pow 2 53 * Nat.pow 2 s ≤ Nat.pow 2 52 * Nat.pow 2 s' := by
  rw [← two_pow_add, ← two_pow_add]
  exact two_pow_le (by omega)

/-- a float is a multiple of a power of two, or further down than the mantissas that belong to it -/
theorem Canonical.grid (hy : y.Canonical) (scale : Nat) :
    (∃ k, y.magnitude = k * Nat.pow 2 scale) ∨ (0 < scale ∧ y.magnitude < Nat.pow 2 52 * Nat.pow 2 scale) := by
  obtain ⟨hmantissa, -, -⟩ := hy
  rcases Nat.lt_or_ge y.scale scale with h | h
  · refine .inr ⟨Nat.zero_lt_of_lt h, ?_⟩
    calc y.magnitude < Nat.pow 2 53 * Nat.pow 2 y.scale := Nat.mul_lt_mul_of_pos_right hmantissa (two_pow_pos _)
      _ ≤ Nat.pow 2 52 * Nat.pow 2 scale := mantissas_le h
  · refine .inl ⟨y.mantissa * Nat.pow 2 (y.scale - scale), ?_⟩
    rw [magnitude, Nat.mul_assoc, ← two_pow_add, Nat.sub_add_cancel h]

/-! ### Rounding -/

/-- at its scale a number has 53 bits, or fewer if it is small -/
theorem scaleFor_spec (num : Nat) : num < Nat.pow 2 53 * Nat.pow 2 (scaleFor num) ∧
    (scaleFor num = 0 ∨ Nat.pow 2 52 * Nat.pow 2 (scaleFor num) ≤ num) := by
  rw [← two_pow_add, ← two_pow_add]
  have hlt : num < Nat.pow 2 (num.log2 + 1) := Nat.lt_log2_self
  unfold scaleFor
  refine ⟨hlt.trans_le (two_pow_le (by omega)), ?_⟩
  by_cases h : num.log2 ≤ 52
  · exact .inl (by omega)
  · have hnum : num ≠ 0 := by
      rintro rfl
      simp at h
    have hle : Nat.pow 2 num.log2 ≤ num := Nat.log2_self_le hnum
    have hexponent : 52 + (num.log2 - 52) = num.log2 := by omega
    rw [hexponent]
    exact .inr hle

theorem round_eq_some (negative : Bool) (hnum : num.log2 < 2097) : ∃ x, round negative num 1 = some x ∧
    x.Canonical ∧ x.negative = negative ∧
    x.magnitude = nearest num (Nat.pow 2 (scaleFor num)) * Nat.pow 2 (scaleFor num) ∧
    (nearest num (Nat.pow 2 (scaleFor num)) % 2 = 0 → x.mantissa % 2 = 0) := by
  have hscale : scaleFor num < maxScale := by
    unfold scaleFor maxScale
    omega
  obtain ⟨hlt, hle⟩ := scaleFor_spec num
  have hpos := two_pow_pos (scaleFor num)
  obtain ⟨hlow, hhigh⟩ := div_le_nearest num (Nat.pow 2 (scaleFor num))
  have hquotient : num / Nat.pow 2 (scaleFor num) < Nat.pow 2 53 := (Nat.div_lt_iff_lt_mul hpos).2 hlt
  unfold round
  simp only [Nat.div_one, Nat.one_mul]
  -- the mantissa 2^53 is one too large, and written with half of it and the next scale
  by_cases hm : nearest num (Nat.pow 2 (scaleFor num)) = Nat.pow 2 53
  · rw [if_pos hm]
    have hhalf : Nat.pow 2 52 < Nat.pow 2 53 ∧ Nat.pow 2 52 % 2 = 0 := by decide
    refine ⟨⟨negative, Nat.pow 2 52, scaleFor num + 1⟩, if_pos hscale, ⟨hhalf.1, hscale, .inr le_rfl⟩, rfl, ?_,
      fun _ => hhalf.2⟩
    have hexponent : 52 + (scaleFor num + 1) = 53 + scaleFor num := by omega
    rw [hm, ← two_pow_add, ← hexponent, two_pow_add]
    rfl
  · rw [if_neg hm]
    refine ⟨⟨negative, nearest num (Nat.pow 2 (scaleFor num)), scaleFor num⟩, if_pos hscale.le,
      ⟨lt_of_le_of_ne (hhigh.trans hquotient) hm, hscale.le, ?_⟩, rfl, rfl, id⟩
    exact hle.imp id fun h => ((Nat.le_div_iff_mul_le hpos).2 h).trans hlow

/-- **No float has a nearer size** than the one that is found by rounding -/
theorem magnitude_round {negative : Bool} (hnum : num.log2 < 2097) (hx : round negative num 1 = some x)
    (hy : y.Canonical) : ((num : Int) - x.magnitude).natAbs ≤ ((num : Int) - y.magnitude).natAbs ∧
    (y.magnitude ≠ x.magnitude → ((num : Int) - x.magnitude).natAbs = ((num : Int) - y.magnitude).natAbs →
      x.mantissa % 2 = 0) := by
  obtain ⟨x', hx', -, -, hmagnitude, heven⟩ := round_eq_some negative hnum
  obtain rfl : x = x' := Option.some.inj (hx.symm.trans hx')
  have hpos := two_pow_pos (scaleFor num)
  rcases hy.grid (scaleFor num) with ⟨k, hk⟩ | ⟨hscale, hbelow⟩
  · rw [hk, hmagnitude]
    refine ⟨nearest_le num hpos k, fun hne htie => heven (nearest_even hpos ?_ htie)⟩
    rintro rfl
    exact hne rfl
  · -- all mantissas that belong to the scale are nearer to the number than what is further down
    have hfull := (scaleFor_spec num).2.resolve_left hscale.ne'
    have hnear := nearest_le num hpos (Nat.pow 2 52)
    rw [← hmagnitude] at hnear
    omega

/-- how far apart a number and a float are, told from their signs and sizes -/
theorem natAbs_sub_units (negative : Bool) (num : Nat) (y : Binary64) :
    ((if negative then -(num : Int) else num) - y.units).natAbs =
      if y.negative = negative then ((num : Int) - y.magnitude).natAbs else num + y.magnitude := by
  unfold units
  cases negative <;> cases y.negative <;> simp <;> omega

/-- **Rounding finds the nearest float** -/
theorem isNearest_round (negative : Bool) (hnum : num.log2 < 2097) : ∃ x, round negative num 1 = some x ∧
    x.IsNearest (if negative then -(num : Int) else num) := by
  obtain ⟨x, hx, hcanonical, hsign, -, -⟩ := round_eq_some negative hnum
  have hzero : ((num : Int) - x.magnitude).natAbs ≤ num := by
    simpa [zero, magnitude] using (magnitude_round hnum hx canonical_zero).1
  refine ⟨x, hx, hcanonical, fun y hy => ?_, fun y hy hne htie => ?_⟩
  · rw [natAbs_sub_units, natAbs_sub_units, if_pos hsign]
    have hle := (magnitude_round hnum hx hy).1
    split <;> omega
  · rw [natAbs_sub_units, natAbs_sub_units, if_pos hsign] at htie
    obtain ⟨hle, heven⟩ := magnitude_round hnum hx hy
    by_cases hy' : y.negative = negative
    · rw [if_pos hy'] at htie
      refine heven (fun h => hne ?_) htie
      rw [units, units, hy', hsign, h]
    · -- a float of the other sign is as near only if one of the two is zero, and then it might as well have this sign
      rw [if_neg hy'] at htie
      have hzeros : y.magnitude ≠ x.magnitude ∨ (x.magnitude = 0 ∧ y.magnitude = 0) := by omega
      refine heven (hzeros.resolve_right fun h => hne ?_) (by omega)
      simp [units, h]

/-! ### One nearest float -/

theorem Canonical.exists_between (hx : x.Canonical) (hy : y.Canonical) (hevenx : x.mantissa % 2 = 0)
    (heveny : y.mantissa % 2 = 0) (h : x.magnitude < y.magnitude) (negative : Bool) : ∃ z : Binary64, z.Canonical ∧
    z.negative = negative ∧ x.magnitude < z.magnitude ∧ z.magnitude < y.magnitude := by
  have hpos := two_pow_pos x.scale
  have hlast : Nat.pow 2 53 % 2 = 0 := by decide
  have hnext : x.mantissa + 1 < Nat.pow 2 53 := by
    have hlt := hx.1
    omega
  have habove : (x.mantissa + 1) * Nat.pow 2 x.scale < y.magnitude := by
    rcases Nat.lt_trichotomy x.scale y.scale with hscale | hscale | hscale
    · have hfull := hy.2.2.resolve_left (Nat.ne_zero_of_lt hscale)
      calc
        (x.mantissa + 1) * Nat.pow 2 x.scale < Nat.pow 2 53 * Nat.pow 2 x.scale :=
          Nat.mul_lt_mul_of_pos_right hnext hpos
        _ ≤ Nat.pow 2 52 * Nat.pow 2 y.scale := mantissas_le hscale
        _ ≤ y.magnitude := Nat.mul_le_mul_right _ hfull
    · unfold magnitude at h ⊢
      rw [← hscale] at h ⊢
      have hlt : x.mantissa < y.mantissa := Nat.lt_of_mul_lt_mul_right h
      exact Nat.mul_lt_mul_of_pos_right (by omega) hpos
    · -- the size with the smaller scale would be the smaller one
      have hfull := hx.2.2.resolve_left (Nat.ne_zero_of_lt hscale)
      refine absurd h (Nat.not_lt.2 ?_)
      calc y.magnitude ≤ Nat.pow 2 53 * Nat.pow 2 y.scale := Nat.mul_le_mul_right _ hy.1.le
        _ ≤ Nat.pow 2 52 * Nat.pow 2 x.scale := mantissas_le hscale
        _ ≤ x.magnitude := Nat.mul_le_mul_right _ hfull
  refine ⟨⟨negative, x.mantissa + 1, x.scale⟩, ⟨hnext, hx.2.1, hx.2.2.imp id fun h => h.trans (Nat.le_succ _)⟩, rfl, ?_,
    habove⟩
  exact Nat.mul_lt_mul_of_pos_right (Nat.lt_succ_self _) hpos

theorem Canonical.exists_above (hx : x.Canonical) (hy : y.Canonical) (hevenx : x.mantissa % 2 = 0)
    (heveny : y.mantissa % 2 = 0) (hpos : 0 ≤ x.units) (h : x.units < y.units) :
    ∃ z : Binary64, z.Canonical ∧ x.units < z.units ∧ z.units < y.units := by
  have hunitsx : x.units = x.magnitude := by
    rcases units_eq (x := x) with hx' | hx' <;> omega
  have hunitsy : y.units = y.magnitude := by
    rcases units_eq (x := y) with hy' | hy' <;> omega
  rw [hunitsx, hunitsy] at h ⊢
  obtain ⟨z, hz, hsign, hlow, hhigh⟩ := hx.exists_between hy hevenx heveny (Int.ofNat_lt.1 h) false
  have hunitsz : z.units = z.magnitude := by simp [units, hsign]
  exact ⟨z, hz, hunitsz ▸ Int.ofNat_lt.2 hlow, hunitsz ▸ Int.ofNat_lt.2 hhigh⟩

/-- between two floats with even mantissas there is another one -/
theorem Canonical.exists_units_between (hx : x.Canonical) (hy : y.Canonical) (hevenx : x.mantissa % 2 = 0)
    (heveny : y.mantissa % 2 = 0) (h : x.units < y.units) :
    ∃ z : Binary64, z.Canonical ∧ x.units < z.units ∧ z.units < y.units := by
  by_cases hup : 0 ≤ x.units
  · exact hx.exists_above hy hevenx heveny hup h
  by_cases hdown : y.units ≤ 0
  · obtain ⟨z, hz, hlow, hhigh⟩ := hy.neg.exists_above hx.neg heveny hevenx
      (by rw [units_neg]; omega) (by rw [units_neg, units_neg]; omega)
    rw [units_neg] at hlow hhigh
    exact ⟨z.neg, hz.neg, by rw [units_neg]; omega, by rw [units_neg]; omega⟩
  · exact ⟨zero, canonical_zero, by rw [units_zero]; omega, by rw [units_zero]; omega⟩

theorem IsNearest.not_lt (hx : x.IsNearest t) (hy : y.IsNearest t) : ¬ x.units < y.units := by
  intro hlt
  have hle := hx.least y hy.canonical
  have hge := hy.least x hx.canonical
  have htie : (t - x.units).natAbs = (t - y.units).natAbs := Nat.le_antisymm hle hge
  have hevenx := hx.even y hy.canonical hlt.ne' htie
  have heveny := hy.even x hx.canonical hlt.ne htie.symm
  -- the number is in the middle, and what is between the two is nearer to it
  obtain ⟨z, hz, hlow, hhigh⟩ := hx.canonical.exists_units_between hy.canonical hevenx heveny hlt
  have hnear := hx.least z hz
  omega

/-- **A number has one nearest float** -/
theorem IsNearest.unique (hx : x.IsNearest t) (hy : y.IsNearest t) : x.units = y.units :=
  le_antisymm (Int.not_lt.1 (hy.not_lt hx)) (Int.not_lt.1 (hx.not_lt hy))

/-! ### Numbers and floats in order -/

theorem IsNearest.ge_of_le (hx : x.IsNearest t) (hy : y.Canonical) (h : y.units ≤ t) : y.units ≤ x.units := by
  have hnear := hx.least y hy
  omega

theorem IsNearest.le_of_ge (hx : x.IsNearest t) (hy : y.Canonical) (h : t ≤ y.units) : x.units ≤ y.units := by
  have hnear := hx.least y hy
  omega

theorem IsNearest.eq_of_float (hx : x.IsNearest t) (hy : y.Canonical) (h : y.units = t) : x.units = t :=
  le_antisymm (h ▸ hx.le_of_ge hy h.ge) (h ▸ hx.ge_of_le hy h.le)

/-! ### Integers -/

/-- a number of units is the value of a float -/
def IsFloat (t : Int) : Prop := ∃ x : Binary64, x.Canonical ∧ x.units = t

-- the exponent is a variable here, so that nobody computes the power
theorem unitsPerOne_eq {n : Nat} (h : 1074 = n) : unitsPerOne = Nat.pow 2 n := by
  unfold unitsPerOne
  rw [h]

theorem two_pow_units (s : Nat) : Nat.pow 2 (s + 1074) = Nat.pow 2 s * unitsPerOne := by
  generalize h : 1074 = n
  rw [unitsPerOne_eq h, two_pow_add]

theorem unitsPerOne_pos : 0 < unitsPerOne := by
  rw [unitsPerOne_eq rfl]
  apply two_pow_pos

theorem signed_units (i : Int) :
    (if i < 0 then -((i.natAbs * unitsPerOne : Nat) : Int) else (i.natAbs * unitsPerOne : Nat)) = i * unitsPerOne := by
  rw [Int.natCast_mul]
  split
  · have habs : (i.natAbs : Int) = -i := by omega
    rw [habs, Int.neg_mul, Int.neg_neg]
  · have habs : (i.natAbs : Int) = i := by omega
    rw [habs]

/-- an integer with 53 bits, but for zeros at its end, is a float -/
theorem isFloat_integer {i : Int} {m s : Nat} (hi : i.natAbs = m * Nat.pow 2 s) (hm : m < Nat.pow 2 53)
    (hs : s + 1074 ≤ maxScale) : IsFloat (i * unitsPerOne) := by
  obtain ⟨x, hx, hsign, hmagnitude⟩ := exists_canonical hm hs (decide (i < 0))
  have hsize : x.magnitude = i.natAbs * unitsPerOne := by
    rw [hmagnitude, two_pow_units, hi, Nat.mul_assoc]
  refine ⟨x, hx, ?_⟩
  rw [units, hsign, hsize, ← signed_units]
  simp only [decide_eq_true_eq]

theorem isFloat_of_natAbs_le {i : Int} (h : i.natAbs ≤ Nat.pow 2 53) : IsFloat (i * unitsPerOne) := by
  rcases h.lt_or_eq with h | h
  · exact isFloat_integer (s := 0) (Nat.mul_one _).symm h (by decide)
  · exact isFloat_integer (s := 53) (h.trans (Nat.one_mul _).symm) (by decide) (by decide)

theorem log2_units_lt {a k : Nat} (hk : 0 < k) (h : a < Nat.pow 2 k) : (a * unitsPerOne).log2 < k + 1074 := by
  by_cases h0 : a * unitsPerOne = 0
  · rw [h0, Nat.log2_zero]
    omega
  · refine (Nat.log2_lt h0).2 ?_
    calc a * unitsPerOne < Nat.pow 2 k * unitsPerOne := Nat.mul_lt_mul_of_pos_right h unitsPerOne_pos
      _ = Nat.pow 2 (k + 1074) := (two_pow_units k).symm

/-- **An integer of 64 bits is rounded to its nearest float** -/
theorem isNearest_ofInt {i : Int} (h : i.natAbs ≤ Nat.pow 2 64) :
    ∃ x, ofInt i = some x ∧ x.IsNearest (i * unitsPerOne) := by
  have hlog : (i.natAbs * unitsPerOne).log2 < 65 + 1074 := log2_units_lt (by decide) (h.trans_lt (by decide))
  obtain ⟨x, hx, hnearest⟩ := isNearest_round (decide (i < 0)) (hlog.trans (by decide))
  refine ⟨x, hx, ?_⟩
  rw [← signed_units]
  simpa only [decide_eq_true_eq] using hnearest

/-- a float that is an integer below 2^53 is nearest to no other integer -/
theorem eq_of_isNearest {i j : Int} {x : Binary64} (hi : x.units = i * unitsPerOne)
    (hsmall : i.natAbs < Nat.pow 2 53) (hj : x.IsNearest (j * unitsPerOne)) : j = i := by
  have hpos : (0 : Int) < unitsPerOne := Int.ofNat_lt.2 unitsPerOne_pos
  -- an integer beyond 2^53 has its nearest float there too
  have hside : ∀ k : Int, k.natAbs ≤ Nat.pow 2 53 → (k ≤ j → k ≤ i) ∧ (j ≤ k → i ≤ k) := by
    intro k hk
    obtain ⟨y, hy, hunits⟩ := isFloat_of_natAbs_le hk
    constructor
    · intro hle
      have hge := hj.ge_of_le hy (hunits ▸ Int.mul_le_mul_of_nonneg_right hle hpos.le)
      rw [hunits, hi] at hge
      exact Int.le_of_mul_le_mul_right hge hpos
    · intro hge
      have hle := hj.le_of_ge hy (hunits ▸ Int.mul_le_mul_of_nonneg_right hge hpos.le)
      rw [hunits, hi] at hle
      exact Int.le_of_mul_le_mul_right hle hpos
  have h53 : Nat.pow 2 53 = 9007199254740992 := rfl
  rw [h53] at hsmall hside
  by_cases hj' : j.natAbs ≤ 9007199254740992
  · exact le_antisymm ((hside j hj').1 le_rfl) ((hside j hj').2 le_rfl)
  · have hup := hside 9007199254740992 (by decide)
    have hdown := hside (-9007199254740992) (by decide)
    omega

end Float

end Binary64

end EntityGateway.Decimal
