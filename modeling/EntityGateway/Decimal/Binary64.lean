/-
Finite 64-bit floating-point numbers as exact values.

A number is a sign, a mantissa below 2^53 and a scale; its value is mantissa · 2^scale in units of 2^-1074, the
smallest positive number. Every operation computes the exact result and rounds it once, to the nearest number, a tie
to the even mantissa. A result beyond the largest number is no number.

Powers are `Nat.pow`, not `^`: the instance behind `^` is another one where an algebra library is in scope.
-/

namespace EntityGateway.Decimal

/-- a finite 64-bit float -/
structure Binary64 where
  negative : Bool
  mantissa : Nat
  scale : Nat
deriving DecidableEq, Repr

/-- the quotient to the nearest integer, a tie to the even one -/
def nearest (num den : Nat) : Nat :=
  let q := num / den
  let r := num % den
  if den < 2 * r ∨ (2 * r = den ∧ q % 2 = 1) then q + 1 else q

namespace Binary64

def unitsPerOne : Nat := Nat.pow 2 1074

def maxScale : Nat := 2045

/-- mantissas and scales in the one form that a value has -/
def Canonical (x : Binary64) : Prop :=
  x.mantissa < Nat.pow 2 53 ∧ x.scale ≤ maxScale ∧ (x.scale = 0 ∨ Nat.pow 2 52 ≤ x.mantissa)

def zero : Binary64 := ⟨false, 0, 0⟩

def magnitude (x : Binary64) : Nat := x.mantissa * Nat.pow 2 x.scale

def units (x : Binary64) : Int := if x.negative then -(x.magnitude : Int) else x.magnitude

/-- whether the value is zero, whatever its sign -/
def isZero (x : Binary64) : Bool := x.mantissa == 0

def neg (x : Binary64) : Binary64 := { x with negative := !x.negative }

/-- order of the values; both zeros are equal -/
def le (x y : Binary64) : Bool := decide (x.units ≤ y.units)

/-- strict order of the values -/
def lt (x y : Binary64) : Bool := decide (x.units < y.units)

/-- equality of the values; both zeros are equal -/
def same (x y : Binary64) : Bool := decide (x.units = y.units)

/-- the scale at which a size has 53 bits -/
def scaleFor (size : Nat) : Nat := size.log2 - 52

/-- the nearest number to num/den units -/
def round (negative : Bool) (num den : Nat) : Option Binary64 :=
  let scale := scaleFor (num / den)
  let m := nearest num (den * Nat.pow 2 scale)
  let (m, scale) := if m = Nat.pow 2 53 then (Nat.pow 2 52, scale + 1) else (m, scale)
  if scale ≤ maxScale then some ⟨negative, m, scale⟩ else none

/-- the nearest number to an integer -/
def ofInt (i : Int) : Option Binary64 := round (decide (i < 0)) (i.natAbs * unitsPerOne) 1

def mul (x y : Binary64) : Option Binary64 :=
  round (x.negative != y.negative) (x.magnitude * y.magnitude) unitsPerOne

/-- the rounded quotient by a number that is not zero -/
def div (x y : Binary64) : Option Binary64 :=
  round (x.negative != y.negative) (x.magnitude * unitsPerOne) y.magnitude

/-- the largest power of ten that a float comes near to -/
def maxPower : Nat := 308

def powerOfTen (k : Nat) : Option Binary64 := round false (Nat.pow 10 k * unitsPerOne) 1

/-- repeated division by one number, until the quotient is zero -/
def divideRepeatedly (divisor : Binary64) : Nat → Binary64 → Option Binary64
  | 0, x => some x
  | n + 1, x => if x.isZero then some x else (x.div divisor).bind (divideRepeatedly divisor n)

/-- a number divided by a power of ten, in rounded steps of at most 10^308 -/
def dividePower (x : Binary64) (k : Nat) : Option Binary64 :=
  let steps := (k - 1) / maxPower
  ((powerOfTen maxPower).bind fun big => divideRepeatedly big steps x).bind fun y =>
    (powerOfTen (k - steps * maxPower)).bind y.div

/-- The number written with these digits and this power of ten: the digits are rounded first and the product or
quotient with the power again. Too large a number is none. -/
def ofDecimal (negative : Bool) (digits : Nat) (exponent : Int) : Option Binary64 :=
  match ofInt digits with
  | none => none
  | some x =>
    let scaled :=
      if exponent < 0 then dividePower x exponent.natAbs
      else if exponent.natAbs ≤ maxPower then (powerOfTen exponent.natAbs).bind x.mul
      else if x.isZero then some x
      else none
    scaled.map fun y => { y with negative }

end Binary64

end EntityGateway.Decimal
