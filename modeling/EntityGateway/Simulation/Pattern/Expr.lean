/-
Regular expressions and where they match.

A set of places in a text is a number: its bit i stands for the place before character i. `Expr.reach` takes the
places where a match may begin to the places where it can end. A repetition is followed no longer than the text has
places, because every further round that does not stand still moves on.
-/
import EntityGateway.Simulation.Pattern.CharSet

namespace EntityGateway.Simulation.Pattern

/-- a condition on a place in a text -/
inductive Look where
  | textStart
  | textEnd
  /-- after a line feed or at the start; with carriage returns as ends of lines or without -/
  | lineStart (carriage : Bool)
  | lineEnd (carriage : Bool)
  | boundary (ascii : Bool)
  | noBoundary (ascii : Bool)
  | wordStart (ascii : Bool)
  | wordEnd (ascii : Bool)
  | wordStartHalf (ascii : Bool)
  | wordEndHalf (ascii : Bool)
deriving Repr

/-- a regular expression -/
inductive Expr where
  | empty
  | char (set : CharSet)
  | look (condition : Look)
  | seq (a b : Expr)
  | alt (a b : Expr)
  | times (a : Expr) (least : Nat) (most : Option Nat)
deriving Repr

namespace Look

def inWord (ascii : Bool) : Option Char → Bool
  | none => false
  | some c => if ascii then Unicode.isAsciiWord c else Unicode.isWord c

/-- whether the condition holds between two characters -/
def holds (l : Look) (before after : Option Char) : Bool :=
  match l with
  | .textStart => before.isNone
  | .textEnd => after.isNone
  | .lineStart false => before.isNone || before == some '\n'
  | .lineStart true => before.isNone || before == some '\n' || (before == some '\r' && after != some '\n')
  | .lineEnd false => after.isNone || after == some '\n'
  | .lineEnd true => after.isNone || after == some '\r' || (after == some '\n' && before != some '\r')
  | .boundary a => inWord a before != inWord a after
  | .noBoundary a => inWord a before == inWord a after
  | .wordStart a => !inWord a before && inWord a after
  | .wordEnd a => inWord a before && !inWord a after
  | .wordStartHalf a => !inWord a before
  | .wordEndHalf a => !inWord a after

end Look

/-- the places before the characters of a set -/
def placesOf (p : Char → Bool) (text : Array Char) : Nat :=
  (List.range text.size).foldl (fun places i => if (text[i]?).any p then places ||| (1 <<< i) else places) 0

def placesWhere (l : Look) (text : Array Char) : Nat :=
  (List.range (text.size + 1)).foldl (fun places i =>
    let before := if i = 0 then none else text[i - 1]?
    if l.holds before text[i]? then places ||| (1 <<< i) else places) 0

/-- a step taken so many times, but no further than to where it stands still -/
def iterate (step : Nat → Nat) : Nat → Nat → Nat
  | 0, places => places
  | n + 1, places =>
    let next := step places
    if next = places then places else iterate step n next

/-- everything met on the way of up to so many steps -/
def gather (step : Nat → Nat) : Nat → Nat → Nat
  | 0, places => places
  | n + 1, places =>
    let next := places ||| step places
    if next = places then places else gather step n next

/-- the places where a match from one of the places can end -/
def Expr.reach (text : Array Char) : Expr → Nat → Nat
  | .empty, places => places
  | .char set, places => (places &&& placesOf (fun c => set.has c.toNat) text) <<< 1
  | .look l, places => places &&& placesWhere l text
  | .seq a b, places => b.reach text (a.reach text places)
  | .alt a b, places => a.reach text places ||| b.reach text places
  | .times a least most, places =>
    let bound := text.size + 2
    let started := iterate (a.reach text) (min least bound) places
    match most with
    | none => gather (a.reach text) bound started
    | some most => gather (a.reach text) (min (most - least) bound) started

/-- whether the expression matches somewhere in a text -/
def Expr.isMatch (e : Expr) (s : String) : Bool :=
  let text := s.toList.toArray
  e.reach text (1 <<< (text.size + 1) - 1) != 0

/-- the bytes that an expression takes when it is compiled, about -/
def Expr.size : Expr → Nat
  | .empty => 32
  | .char set => if set.isAscii then 32 else 400 + 64 * set.ranges
  | .look _ => 32
  | .seq a b => a.size + b.size
  | .alt a b => a.size + b.size + 64
  | .times a least none => a.size * (max least 1) + 64
  | .times a least (some most) => a.size * (max least most) + 32 * (most - least)

/-- the bytes that an expression may take -/
def maxSize : Nat := 10 * 1024 * 1024

end EntityGateway.Simulation.Pattern
