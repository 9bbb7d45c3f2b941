/-
Durations and their text.

A duration is written in the largest unit of which it holds at least one, with as many decimal places as it needs.
-/

namespace EntityGateway

/-- a span of time in nanoseconds -/
structure Duration where
  nanoseconds : Nat
deriving DecidableEq, Repr

namespace Duration

def ofMillis (n : Nat) : Duration := ⟨n * 1000000⟩

def ofSeconds (n : Nat) : Duration := ⟨n * 1000000000⟩

/-- the decimal places of a remainder, without zeros at the end -/
def places (width remainder : Nat) : String :=
  let digits := (toString remainder).toList
  let padded := List.replicate (width - digits.length) '0' ++ digits
  String.ofList (padded.reverse.dropWhile (· = '0')).reverse

/-- a count of a unit of 10^width nanoseconds -/
def inUnit (width : Nat) (name : String) (nanoseconds : Nat) : String :=
  let whole := toString (nanoseconds / Nat.pow 10 width)
  let rest := nanoseconds % Nat.pow 10 width
  if rest = 0 then whole ++ name else whole ++ "." ++ places width rest ++ name

/-- text such as 30s, 1.5s, 200ms or 100ns -/
def text (d : Duration) : String :=
  if Nat.pow 10 9 ≤ d.nanoseconds then inUnit 9 "s" d.nanoseconds
  else if Nat.pow 10 6 ≤ d.nanoseconds then inUnit 6 "ms" d.nanoseconds
  else if Nat.pow 10 3 ≤ d.nanoseconds then inUnit 3 "µs" d.nanoseconds
  else inUnit 0 "ns" d.nanoseconds

end Duration

end EntityGateway
