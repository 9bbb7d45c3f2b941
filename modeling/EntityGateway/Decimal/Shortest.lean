/-
The fewest decimal digits that read back as the same 64-bit float.

Every real number nearer to the float than to its neighbours reads back as it; the two ends of that interval do when
the mantissa is even. For one, two, … digits the float's two neighbours on the decimal grid are tried; the first grid
with a hit wins, and of two hits the nearer one.
-/
import EntityGateway.Decimal.Binary64

namespace EntityGateway.Decimal

/-- digits · 10^power -/
structure Digits where
  digits : Nat
  power : Int
deriving DecidableEq, Repr

namespace Binary64

/-- whether the size of a number is at least a power of ten -/
def reaches (x : Binary64) (power : Int) : Bool :=
  if power < 0 then unitsPerOne ≤ x.magnitude * Nat.pow 10 power.natAbs
  else Nat.pow 10 power.natAbs * unitsPerOne ≤ x.magnitude

/-- the power of ten of the first digit of a number that is not zero -/
def leadingPower (x : Binary64) : Int :=
  let low := ((x.magnitude.log2 : Int) - 1074) * 30103 / 100000 - 1
  low + ([1, 2, 3].filter fun i => x.reaches (low + i)).length

/-- whether a decimal reads back as the number -/
def readsBack (x : Binary64) (candidate : Nat) (power : Int) : Bool :=
  let up := Nat.pow 10 (-power).toNat
  let point := 4 * candidate * (unitsPerOne * Nat.pow 10 power.toNat)
  let centre := 4 * x.magnitude * up
  let above := 2 * Nat.pow 2 x.scale * up
  let below := if x.mantissa = Nat.pow 2 52 ∧ 0 < x.scale then Nat.pow 2 x.scale * up else above
  if x.mantissa % 2 = 0 then centre - below ≤ point && point ≤ centre + above
  else centre - below < point && point < centre + above

/-- the decimal with this grid that reads back, the nearer one if there are two -/
def onGrid? (x : Binary64) (power : Int) : Option Nat :=
  let num := x.magnitude * Nat.pow 10 (-power).toNat
  let den := unitsPerOne * Nat.pow 10 power.toNat
  let q := num / den
  let lower := x.readsBack q power
  let upper := x.readsBack (q + 1) power
  match lower, upper with
  | true, true => some (nearest num den)
  | true, false => some q
  | false, true => some (q + 1)
  | false, false => none

def stripZeros (digits : Nat) (power : Int) : Digits :=
  if h : digits ≠ 0 ∧ digits % 10 = 0 then stripZeros (digits / 10) (power + 1) else ⟨digits, power⟩
termination_by digits
decreasing_by omega

/-- the fewest digits that read back, of the size of the number -/
def shortest (x : Binary64) : Digits :=
  if x.isZero then ⟨0, 0⟩
  else
    let lead := x.leadingPower
    let hit := (List.range 17).findSome? fun (i : Nat) =>
      let power := lead - (i : Int)
      (x.onGrid? power).map fun d => stripZeros d power
    hit.getD (stripZeros (x.magnitude * Nat.pow 5 1074) (-1074))

end Binary64

end EntityGateway.Decimal
