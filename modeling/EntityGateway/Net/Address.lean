/-
Socket addresses: four numbers with dots or eight groups with colons, and a port.

A run of zero groups may be written as two colons, and the last two groups as four numbers with dots. Written out, the
longest run of at least two zero groups is shortened, the first of several.
-/
import EntityGateway.Text.Quoted

namespace EntityGateway.Net

/-- a socket address -/
inductive Address where
  | v4 (octets : List Nat) (port : Nat)
  | v6 (groups : List Nat) (scope port : Nat)
deriving DecidableEq, Repr

/-! ## Reading -/

abbrev Reader (α : Type) := List Char → Option (α × List Char)

/-- the value of a digit in a base of at most sixteen -/
def digit? (base : Nat) (c : Char) : Option Nat :=
  let v :=
    if '0' ≤ c && c ≤ '9' then c.toNat - 48
    else if 'a' ≤ c && c ≤ 'f' then c.toNat - 87
    else if 'A' ≤ c && c ≤ 'F' then c.toNat - 55
    else base
  if v < base then some v else none

/-- a number of at most so many digits below a limit -/
def number (base : Nat) (most : Option Nat) (zeroFirst : Bool) (limit : Nat) : Reader Nat := fun cs =>
  let digits := (cs.takeWhile fun c => (digit? base c).isSome).filterMap (digit? base)
  let value := digits.foldl (fun n d => n * base + d) 0
  let fits :=
    match most with
    | some n => digits.length ≤ n
    | none => true
  let plain := zeroFirst || digits.length ≤ 1 || digits.head? != some 0
  if !digits.isEmpty && fits && plain && value < limit then some (value, cs.drop digits.length) else none

def char (c : Char) : Reader Unit
  | d :: rest => if c = d then some ((), rest) else none
  | [] => none

/-- something after a separator, which the first one has not -/
def separated (sep : Char) (first : Bool) (read : Reader α) : Reader α := fun cs =>
  if first then read cs else (char sep cs).bind fun (_, rest) => read rest

def octet : Reader Nat := number 10 (some 3) false 256

/-- four numbers with dots -/
def octets : Reader (List Nat) := fun cs => do
  let (a, cs) ← octet cs
  let (b, cs) ← separated '.' false octet cs
  let (c, cs) ← separated '.' false octet cs
  let (d, cs) ← separated '.' false octet cs
  return ([a, b, c, d], cs)

/-- two groups for the four numbers of an address -/
def groupsOf : List Nat → List Nat
  | [a, b, c, d] => [a * 256 + b, c * 256 + d]
  | _ => []

/-- groups with colons, at most so many, and whether they end in an address with dots -/
def groups : Nat → Bool → List Char → List Nat × Bool × List Char
  | 0, _, cs => ([], false, cs)
  | left + 1, first, cs =>
    match if 0 < left then separated ':' first octets cs else none with
    | some (four, rest) => (groupsOf four, true, rest)
    | none =>
      match separated ':' first (number 16 (some 4) true 65536) cs with
      | none => ([], false, cs)
      | some (g, rest) =>
        let (gs, dotted, rest) := groups left false rest
        (g :: gs, dotted, rest)

/-- eight groups, of which a run of zeros may be left out -/
def eightGroups : Reader (List Nat) := fun cs =>
  let (front, dotted, rest) := groups 8 true cs
  if front.length = 8 then some (front, rest)
  else if dotted then none
  else do
    let (_, rest) ← char ':' rest
    let (_, rest) ← char ':' rest
    let (back, _, rest) := groups (7 - front.length) true rest
    return (front ++ List.replicate (8 - front.length - back.length) 0 ++ back, rest)

def port : Reader Nat := number 10 none true 65536

def readV4 : Reader Address := fun cs => do
  let (four, cs) ← octets cs
  let (_, cs) ← char ':' cs
  let (p, cs) ← port cs
  return (.v4 four p, cs)

/-- the scope of an address; zero if there is none -/
def scope : Reader Nat
  | '%' :: cs => number 10 none true UInt32.size cs
  | cs => some (0, cs)

/-- an address with colons in brackets and its port -/
def readV6 : Reader Address := fun cs => do
  let (_, cs) ← char '[' cs
  let (eight, cs) ← eightGroups cs
  let (s, cs) ← scope cs
  let (_, cs) ← char ']' cs
  let (_, cs) ← char ':' cs
  let (p, cs) ← port cs
  return (.v6 eight s p, cs)

def Address.ofText? (s : String) : Option Address :=
  match readV4 s.toList with
  | some (a, []) => some a
  | _ =>
    match readV6 s.toList with
    | some (a, []) => some a
    | _ => none

/-! ## Writing -/

/-- items with a separator between them -/
def joined (sep : String) (l : List String) : String := sep.intercalate l

def octetsText (four : List Nat) : String := joined "." (four.map toString)

def groupsText (gs : List Nat) : String := joined ":" (gs.map Text.hex)

/-- the longest run of zeros, as start and length; the first of several -/
def longestZeros (gs : List Nat) : Nat × Nat :=
  let runs := (List.range gs.length).map fun i => (i, ((gs.drop i).takeWhile (· = 0)).length)
  runs.foldl (fun best run => if best.2 < run.2 then run else best) (0, 0)

/-- eight groups with their longest run of zeros left out -/
def eightText (gs : List Nat) : String :=
  match gs with
  | [0, 0, 0, 0, 0, 0xFFFF, a, b] => "::ffff:" ++ octetsText [a / 256, a % 256, b / 256, b % 256]
  | gs =>
    let (start, length) := longestZeros gs
    if 1 < length then groupsText (gs.take start) ++ "::" ++ groupsText (gs.drop (start + length)) else groupsText gs

def Address.text : Address → String
  | .v4 four p => octetsText four ++ ":" ++ toString p
  | .v6 gs s p =>
    "[" ++ eightText gs ++ (if s = 0 then "" else "%" ++ toString s) ++ "]:" ++ toString p

end EntityGateway.Net
