/-
JSON values.

The members of an object are kept in the order of their names, each name once; `insertEntry` and `ofMembers` keep it so.
A number is an integer or a 64-bit float, and the two are different values even where they are numerically equal.
-/
import EntityGateway.NameMap
import EntityGateway.Decimal.Layout

namespace EntityGateway

/-- a JSON number -/
inductive Number where
  | integer (value : Int)
  | real (value : Decimal.Binary64)
deriving DecidableEq, Repr

/-- a JSON value -/
inductive Json where
  | null
  | boolean (value : Bool)
  | number (value : Number)
  | string (value : String)
  | array (items : List Json)
  | object (members : List (String × Json))
deriving Repr, Inhabited

namespace Number

def maxInteger : Nat := UInt64.size - 1

def minInteger : Int := -(Int64.size / 2 : Nat)

def toReal : Number → Decimal.Binary64
  | .integer i => (Decimal.Binary64.ofInt i).getD Decimal.Binary64.zero
  | .real x => x

/-- equality of kind and value; the two float zeros are equal -/
def same : Number → Number → Bool
  | .integer i, .integer j => i == j
  | .real x, .real y => x.same y
  | _, _ => false

/-- an exponent below 10^-5 and from 10^16 on, and always a point -/
def layout : Decimal.Layout := ⟨some 16, some 4, true⟩

def text : Number → String
  | .integer i => toString i
  | .real x => layout.write x

end Number

namespace Json

def ofNat (n : Nat) : Json := .number (.integer n)

def ofText? : Option String → Json
  | none => .null
  | some s => .string s

def ofTexts (l : List String) : Json := .array (l.map .string)

/-- an object from its members; of two with one name the later counts -/
def ofMembers (members : List (String × Json)) : Json :=
  .object (members.foldl (fun sorted m => insertEntry m.1 m.2 sorted) [])

def lookup (name : String) (members : List (String × Json)) : Option Json :=
  (members.find? (·.1 == name)).map (·.2)

/-- the member of a name, if the value is an object -/
def get? (name : String) : Json → Option Json
  | .object members => lookup name members
  | _ => none

def text? : Json → Option String
  | .string s => some s
  | _ => none

mutual

/-- equality of values, floats by value -/
def same : Json → Json → Bool
  | .null, .null => true
  | .boolean a, .boolean b => a == b
  | .number a, .number b => a.same b
  | .string a, .string b => a == b
  | .array a, .array b => sameItems a b
  | .object a, .object b => sameMembers a b
  | _, _ => false

def sameItems : List Json → List Json → Bool
  | [], [] => true
  | a :: as, b :: bs => same a b && sameItems as bs
  | _, _ => false

def sameMembers : List (String × Json) → List (String × Json) → Bool
  | [], [] => true
  | (m, a) :: as, (n, b) :: bs => m == n && same a b && sameMembers as bs
  | _, _ => false

end

/-- names in order, each once, at every depth -/
inductive WellFormed : Json → Prop
  | null : WellFormed .null
  | boolean (b : Bool) : WellFormed (.boolean b)
  | number (n : Number) : WellFormed (.number n)
  | string (s : String) : WellFormed (.string s)
  | array {items : List Json} : (∀ item ∈ items, WellFormed item) → WellFormed (.array items)
  | object {members : List (String × Json)} : members.Pairwise (fun m n => m.1 < n.1) →
      (∀ m ∈ members, WellFormed m.2) → WellFormed (.object members)

end Json

end EntityGateway
