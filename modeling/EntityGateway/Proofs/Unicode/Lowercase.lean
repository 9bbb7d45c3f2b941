/-
Lower case and characters without case.

Lower case loses no character, and what it moves stays above the signs of ASCII. So the name that is a star in lower
case is the star. Of the characters beyond ASCII only the sign of kelvin comes to one of ASCII.

- `lowerFrom_cons_ne_nil`: no character is lost;
- `lower_eq_star`: nothing but a star is a star in lower case;
- `lower_ascii`: in ASCII, lower case changes each character for itself;
- `eq_kelvin_of_shiftBy`: what comes down to ASCII.
-/
import EntityGateway.Unicode.Lowercase
import Mathlib.Tactic

namespace EntityGateway.Unicode

/-! ## ASCII and beyond -/

theorem lowerChar_ascii {c : Char} (h : c.toNat < 128) : lowerChar c = [asciiLower c] := by
  simp [lowerChar, asciiLower, h]

theorem lowerFrom_ascii (before : List Char) {cs : List Char} (h : ∀ c ∈ cs, c.toNat < 128) :
    lowerFrom before cs = cs.map asciiLower := by
  induction cs generalizing before with
  | nil => rfl
  | cons c cs ih =>
    obtain ⟨hc, hcs⟩ := List.forall_mem_cons.1 h
    have hsigma : c ≠ 'Σ' := by
      rintro rfl
      exact absurd hc (by decide)
    rw [lowerFrom, if_neg hsigma, lowerChar_ascii hc, ih _ hcs]
    rfl

theorem lower_ascii {s : String} (h : ∀ c ∈ s.toList, c.toNat < 128) :
    (lower s).toList = s.toList.map asciiLower := by
  rw [lower, String.toList_ofList, lowerFrom_ascii _ h]

/-- beyond ASCII, every run of capital letters is moved to places beyond ASCII but for the sign of kelvin -/
theorem le_of_shift : ∀ s ∈ lowercaseShifts.toList,
    s.last < 128 ∨ (128 : Int) ≤ s.first + s.offset ∨ s.first = 0x212A ∧ s.last = 0x212A := by
  decide +kernel

theorem eq_kelvin_of_shiftBy {code : Nat} (hcode : 128 ≤ code) (h : shiftBy lowercaseShifts code < 128) :
    code = 0x212A := by
  unfold shiftBy at h
  split at h
  · rename_i s hfind
    have hcovers := Array.find?_some hfind
    have hmem := Array.mem_toList_iff.2 (Array.mem_of_find?_eq_some hfind)
    simp only [Shift.covers, Bool.and_eq_true, decide_eq_true_eq] at hcovers
    unfold Shift.apply at h
    have := le_of_shift s hmem
    omega
  · omega

/-! ## Stars -/

/-- what stands for an invalid code point is no other character -/
theorem eq_of_ofNat_eq {n : Nat} {c : Char} (hc : c ≠ '\x00') (h : Char.ofNat n = c) : n = c.toNat := by
  by_cases hvalid : n.isValidChar
  · have hcode : (Char.ofNat n).toNat = c.toNat := congrArg Char.toNat h
    rwa [Char.ofNat, dif_pos hvalid] at hcode
  · rw [Char.ofNat, dif_neg hvalid] at h
    exact absurd h.symm hc

theorem shiftBy_ne_star {code : Nat} (h : 128 ≤ code) : shiftBy lowercaseShifts code ≠ 42 := by
  intro hstar
  obtain rfl := eq_kelvin_of_shiftBy h (hstar ▸ by decide)
  exact absurd hstar (by decide +kernel)

theorem eq_star_of_lowerChar {c : Char} (h : lowerChar c = ['*']) : c = '*' := by
  unfold lowerChar at h
  split_ifs at h with hascii hupper hdotted
  · -- a capital letter is moved to a small one
    have hcode : c.toNat + 32 = 42 := eq_of_ofNat_eq (by decide) (List.cons.inj h).1
    have hletter : 'A' ≤ c := by
      rw [Bool.and_eq_true, decide_eq_true_eq] at hupper
      exact hupper.1
    have hle : 65 ≤ c.toNat := Char.le_def.1 hletter
    omega
  · exact (List.cons.inj h).1
  · cases (List.cons.inj h).2
  · have hcode := eq_of_ofNat_eq (by decide) (List.cons.inj h).1
    exact absurd hcode (shiftBy_ne_star (Nat.le_of_not_lt hascii))

theorem lowerChar_ne_nil (c : Char) : lowerChar c ≠ [] := by
  unfold lowerChar
  split_ifs <;> simp

theorem lowerFrom_cons_ne_nil (before : List Char) (c : Char) (cs : List Char) : lowerFrom before (c :: cs) ≠ [] := by
  unfold lowerFrom
  split_ifs <;> simp [lowerChar_ne_nil]

/-- **Nothing but a star is a star in lower case** -/
theorem lower_eq_star {s : String} : lower s = "*" ↔ s = "*" := by
  refine ⟨fun h => ?_, fun h => by subst h; rfl⟩
  have hchars : lowerFrom [] s.toList = ['*'] := by
    simpa [lower] using congrArg String.toList h
  suffices hlist : s.toList = ['*'] from String.toList_inj.1 hlist
  generalize s.toList = cs at hchars ⊢
  match cs with
  | [] => cases hchars
  | [c] =>
    simp only [lowerFrom, List.append_nil] at hchars
    split_ifs at hchars
    · simp at hchars
    · simp at hchars
    · rw [eq_star_of_lowerChar hchars]
  | c :: d :: rest =>
    -- what the second character comes to is behind what the first one does
    rw [lowerFrom, List.append_eq_singleton_iff] at hchars
    rcases hchars with ⟨hfirst, -⟩ | ⟨-, hrest⟩
    · split_ifs at hfirst
      exact absurd hfirst (lowerChar_ne_nil c)
    · exact absurd hrest (lowerFrom_cons_ne_nil [c] d rest)

end EntityGateway.Unicode
