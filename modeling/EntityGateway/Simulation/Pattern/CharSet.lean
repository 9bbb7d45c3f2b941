/-
Sets of characters, as patterns write them.
-/
import EntityGateway.Unicode.Lowercase

namespace EntityGateway.Simulation.Pattern

/-- a set of characters -/
inductive CharSet where
  | nothing
  | range (first last : Nat)
  | word
  | digit
  | blank
  | either (a b : CharSet)
  | both (a b : CharSet)
  | except (a b : CharSet)
  | oneOf (a b : CharSet)
  | not (a : CharSet)
  /-- a set and everything that differs from a member only in case -/
  | anyCase (a : CharSet)
deriving Repr

namespace CharSet

def single (c : Char) : CharSet := .range c.toNat c.toNat

def ofRanges (l : List (Nat × Nat)) : CharSet := l.foldr (fun r s => .either (.range r.1 r.2) s) .nothing

/-- whether a code point is in a set -/
def has : CharSet → Nat → Bool
  | .nothing, _ => false
  | .range first last, n => first ≤ n && n ≤ last
  | .word, n => Unicode.isWord (Char.ofNat n)
  | .digit, n => Unicode.isDigit (Char.ofNat n)
  | .blank, n => Unicode.isBlank (Char.ofNat n)
  | .either a b, n => a.has n || b.has n
  | .both a b, n => a.has n && b.has n
  | .except a b, n => a.has n && !b.has n
  | .oneOf a b, n => a.has n != b.has n
  | .not a, n => !a.has n
  | .anyCase a, n => (n :: Unicode.caseOrbit n).any a.has

/-- the number of ranges that a set comes to, about -/
def ranges : CharSet → Nat
  | .nothing => 0
  | .range _ _ => 1
  | .word => 771
  | .digit => 64
  | .blank => 10
  | .either a b | .both a b | .except a b | .oneOf a b => a.ranges + b.ranges
  | .not a => a.ranges + 1
  | .anyCase a => a.ranges + 1

/-- whether every member is in ASCII, as far as the form of the set shows -/
def isAscii : CharSet → Bool
  | .nothing => true
  | .range _ last => last < 128
  | .word | .digit | .blank | .not _ => false
  | .either a b | .oneOf a b => a.isAscii && b.isAscii
  | .both a b => a.isAscii || b.isAscii
  | .except a _ => a.isAscii
  | .anyCase a => a.isAscii

/-- the names of sets of ASCII characters -/
def named : List (String × List (Nat × Nat)) :=
  [("alnum", [(0x30, 0x39), (0x41, 0x5A), (0x61, 0x7A)]), ("alpha", [(0x41, 0x5A), (0x61, 0x7A)]),
    ("ascii", [(0x00, 0x7F)]), ("blank", [(0x09, 0x09), (0x20, 0x20)]), ("cntrl", [(0x00, 0x1F), (0x7F, 0x7F)]),
    ("digit", [(0x30, 0x39)]), ("graph", [(0x21, 0x7E)]), ("lower", [(0x61, 0x7A)]), ("print", [(0x20, 0x7E)]),
    ("punct", [(0x21, 0x2F), (0x3A, 0x40), (0x5B, 0x60), (0x7B, 0x7E)]), ("space", [(0x09, 0x0D), (0x20, 0x20)]),
    ("upper", [(0x41, 0x5A)]), ("word", [(0x30, 0x39), (0x41, 0x5A), (0x5F, 0x5F), (0x61, 0x7A)]),
    ("xdigit", [(0x30, 0x39), (0x41, 0x46), (0x61, 0x66)])]

def ascii? (name : String) : Option CharSet := (named.find? (·.1 == name)).map fun s => ofRanges s.2

end CharSet

end EntityGateway.Simulation.Pattern
