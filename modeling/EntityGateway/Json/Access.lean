/-
Lenient access to the members of JSON values: what is missing or of another kind has a value all the same.
-/
import EntityGateway.Json.Value

namespace EntityGateway.Json

def obj (members : List (String × Json)) : Json := ofMembers members

def member (v : Json) (name : String) : Option Json :=
  match v.get? name with
  | some .null => none
  | m => m

/-- the member of a name, null if there is none -/
def part (v : Json) (name : String) : Json := (v.get? name).getD .null

def str? (v : Json) (name : String) : Option String := (v.member name).bind text?

/-- a member that is a text, empty if it is missing -/
def str (v : Json) (name : String) : String := (v.str? name).getD ""

/-- a member that is a truth value, false if it is missing -/
def flag (v : Json) (name : String) : Bool :=
  match v.get? name with
  | some (.boolean b) => b
  | _ => false

def nat? : Json → Option Nat
  | .number (.integer i) => some i.toNat
  | _ => none

def nat (v : Json) (name : String) (otherwise : Nat) : Nat := ((v.member name).bind nat?).getD otherwise

/-- the items of an array, none of anything else -/
def items : Json → List Json
  | .array l => l
  | _ => []

/-- the members of an object, none of anything else -/
def members : Json → List (String × Json)
  | .object l => l
  | _ => []

def list (v : Json) (name : String) : List Json := (v.part name).items

/-- the texts among the items of a member -/
def texts (v : Json) (name : String) : List String := (v.list name).filterMap text?

/-- the whole numbers among the items of a member -/
def nats (v : Json) (name : String) : List Nat := (v.list name).filterMap nat?

end EntityGateway.Json
