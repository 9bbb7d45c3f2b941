/-
How a decimal is laid out: where the point goes, and when an exponent is written.
-/
import EntityGateway.Decimal.Shortest

namespace EntityGateway.Decimal

/-- a layout of decimal numbers -/
structure Layout where
  /-- digits before the point up to which no exponent is written -/
  mostWhole : Option Nat
  /-- zeros after the point from which an exponent is written -/
  mostZeros : Option Nat
  /-- whether a whole number keeps a point and a zero -/
  keepPoint : Bool

/-- no exponent, and no point in a whole number -/
def Layout.plain : Layout := ⟨none, none, false⟩

/-- whether a bound, if there is one, holds -/
def within (n : Nat) : Option Nat → Bool
  | none => true
  | some bound => n ≤ bound

def zeros (n : Nat) : String := String.ofList (List.replicate n '0')

/-- digits with a power of ten -/
def Layout.writeDigits (f : Layout) (d : Digits) : String :=
  let text := toString d.digits
  let count := text.length
  let point : Int := count + d.power
  if 0 ≤ d.power ∧ within point.toNat f.mostWhole then
    text ++ zeros d.power.toNat ++ (if f.keepPoint then ".0" else "")
  else if 0 < point ∧ within point.toNat f.mostWhole then
    String.ofList (text.toList.take point.toNat) ++ "." ++ String.ofList (text.toList.drop point.toNat)
  else if point ≤ 0 ∧ within (-point).toNat f.mostZeros then
    "0." ++ zeros (-point).toNat ++ text
  else
    let whole := String.ofList (text.toList.take 1)
    let rest := String.ofList (text.toList.drop 1)
    let exponent := point - 1
    whole ++ (if count = 1 then "" else "." ++ rest) ++ "e" ++ (if exponent < 0 then "-" else "+") ++
      toString exponent.natAbs

/-- the shortest text of a number -/
def Layout.write (f : Layout) (x : Binary64) : String :=
  (if x.negative then "-" else "") ++ f.writeDigits x.shortest

end EntityGateway.Decimal
