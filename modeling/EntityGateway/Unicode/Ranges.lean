/-
Sets of code points given as tables of inclusive ranges.
-/

namespace EntityGateway.Unicode

/-- whether a code point lies in one of the ranges -/
def inRanges (table : Array (Nat × Nat)) (code : Nat) : Bool :=
  table.any fun range => range.1 ≤ code && code ≤ range.2

/-- a run of code points that are all moved by the same amount: every `stride`-th code point from `first` to `last` -/
structure Shift where
  first : Nat
  last : Nat
  stride : Nat
  offset : Int

/-- whether the run moves a code point -/
def Shift.covers (s : Shift) (code : Nat) : Bool :=
  s.first ≤ code && code ≤ s.last && (code - s.first) % s.stride == 0

/-- the code point after the run has moved it -/
def Shift.apply (s : Shift) (code : Nat) : Nat := ((code : Int) + s.offset).toNat

/-- the code point under the run that covers it; a code point outside all runs stays -/
def shiftBy (table : Array Shift) (code : Nat) : Nat :=
  match table.find? (·.covers code) with
  | some s => s.apply code
  | none => code

end EntityGateway.Unicode
