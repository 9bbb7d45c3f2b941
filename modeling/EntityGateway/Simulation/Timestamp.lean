/-
Timestamps as RFC 3339 writes them: a date, a time of day that may be a leap second, and an offset.
-/
namespace EntityGateway.Simulation.Timestamp

/-- a reader of the front of a text: what it reads, and the rest -/
abbrev Scan (α : Type) := List Char → Option (α × List Char)

/-- exactly so many digits, read as a number after an earlier part -/
def digitsAfter : Nat → Nat → Scan Nat
  | value, 0, cs => some (value, cs)
  | value, n + 1, c :: cs => if c.isDigit then digitsAfter (value * 10 + (c.toNat - 48)) n cs else none
  | _, _ + 1, [] => none

/-- a number of exactly so many digits that is not above a bound -/
def number (digits most : Nat) : Scan Nat := fun cs =>
  match digitsAfter 0 digits cs with
  | some (n, rest) => if n ≤ most then some (n, rest) else none
  | none => none

def oneOf (allowed : List Char) : Scan Unit
  | c :: cs => if allowed.contains c then some ((), cs) else none
  | [] => none

/-- whether a year has 29 days in February -/
def isLeapYear (year : Nat) : Bool := year % 4 == 0 && (year % 100 != 0 || year % 400 == 0)

def daysOfMonths (year : Nat) : List Nat :=
  [31, if isLeapYear year then 29 else 28, 31, 30, 31, 30, 31, 31, 30, 31, 30, 31]

/-- whether there is a day in the calendar -/
def isDate (year month day : Nat) : Bool :=
  1 ≤ month && 1 ≤ day && (daysOfMonths year)[month - 1]?.any (day ≤ ·)

def date : Scan Unit := fun cs => do
  let (year, cs) ← number 4 9999 cs
  let (_, cs) ← oneOf ['-'] cs
  let (month, cs) ← number 2 12 cs
  let (_, cs) ← oneOf ['-'] cs
  let (day, cs) ← number 2 31 cs
  if isDate year month day then some ((), cs) else none

/-- a point and the digits after it, if there is a point -/
def fraction : Scan Unit
  | '.' :: c :: cs => if c.isDigit then some ((), cs.dropWhile Char.isDigit) else none
  | '.' :: [] => none
  | cs => some ((), cs)

/-- a time of day, up to a leap second -/
def timeOfDay : Scan Unit := fun cs => do
  let (_, cs) ← number 2 23 cs
  let (_, cs) ← oneOf [':'] cs
  let (_, cs) ← number 2 59 cs
  let (_, cs) ← oneOf [':'] cs
  let (_, cs) ← number 2 60 cs
  fraction cs

/-- an offset: none, or a sign with hours and minutes; the minus sign may be the typographic one -/
def offset : Scan Unit := fun cs =>
  match oneOf ['Z', 'z'] cs with
  | some r => some r
  | none => do
    let (_, cs) ← oneOf ['+', '-', '\u2212'] cs
    let (_, cs) ← number 2 23 cs
    let (_, cs) ← oneOf [':'] cs
    let (_, cs) ← number 2 59 cs
    some ((), cs)

def timestamp : Scan Unit := fun cs => do
  let (_, cs) ← date cs
  let (_, cs) ← oneOf ['T', 't', ' '] cs
  let (_, cs) ← timeOfDay cs
  offset cs

/-- whether a text is a timestamp and nothing else -/
def isTimestamp (s : String) : Bool := timestamp s.toList == some ((), [])

end EntityGateway.Simulation.Timestamp
