/-
A JSON text as it is written.

A node keeps what a value forgets: the order of members, repeated names, and the place where the text stops being
JSON. So a reader of documents can report the first fault in the order of the text, whatever its kind.

Two faults are only faults of a value that is used, not of one that is passed over: a number beyond the floats, and
half of a surrogate pair in a string. Such a number or string is kept with its fault.
-/
import EntityGateway.Json.Value

namespace EntityGateway.Json

/-- why a text is not JSON -/
inductive Defect where
  /-- the text ends too early -/
  | ended
  /-- a character is wrong -/
  | malformed
deriving DecidableEq, Repr

/-- a string as it is written: its characters or its first fault, and a fault that ends the reading -/
structure Quotation where
  content : Except Defect String
  broken : Option Defect

/-- a value as it is written -/
inductive Node where
  | null
  | boolean (value : Bool)
  /-- a number, or nothing if it is beyond the floats -/
  | number (value : Option Number)
  | string (value : Quotation)
  /-- the items up to the end of the array or to a fault -/
  | array (items : List Node) (tail : Option Defect)
  /-- the members up to the end of the object or to a fault -/
  | object (members : List (Quotation × Node)) (tail : Option Defect)
  /-- no value -/
  | broken (fault : Defect)

/-- a string without a fault -/
def Quotation.whole (s : String) : Quotation := ⟨.ok s, none⟩

namespace Node

mutual

/-- the node of a value that is written in full -/
def ofJson : Json → Node
  | .null => .null
  | .boolean b => .boolean b
  | .number n => .number (some n)
  | .string s => .string (.whole s)
  | .array items => .array (ofItems items) none
  | .object members => .object (ofJsonMembers members) none

def ofItems : List Json → List Node
  | [] => []
  | v :: rest => ofJson v :: ofItems rest

def ofJsonMembers : List (String × Json) → List (Quotation × Node)
  | [] => []
  | (name, v) :: rest => (.whole name, ofJson v) :: ofJsonMembers rest

end

/-- the first of a list of outcomes that is a fault -/
def orElse (first : Except Defect Unit) (second : Except Defect Unit) : Except Defect Unit :=
  match first with
  | .ok () => second
  | .error d => .error d

def closed : Option Defect → Except Defect Unit
  | none => .ok ()
  | some d => .error d

mutual

/-- the fault of a value that is passed over -/
def pass : Node → Except Defect Unit
  | .null | .boolean _ | .number _ => .ok ()
  | .string q => closed q.broken
  | .array items tail => orElse (passItems items) (closed tail)
  | .object members tail => orElse (passMembers members) (closed tail)
  | .broken d => .error d

/-- the first fault of items that are passed over -/
def passItems : List Node → Except Defect Unit
  | [] => .ok ()
  | item :: rest => orElse item.pass (passItems rest)

/-- the first fault of members that are passed over -/
def passMembers : List (Quotation × Node) → Except Defect Unit
  | [] => .ok ()
  | (name, value) :: rest => orElse (closed name.broken) (orElse value.pass (passMembers rest))

end

mutual

/-- the value, if at most `depth` arrays and objects are nested in it -/
def value : Nat → Node → Except Defect Json
  | _, .null => .ok .null
  | _, .boolean b => .ok (.boolean b)
  | _, .number (some n) => .ok (.number n)
  | _, .number none => .error .malformed
  | _, .string q => q.content.map .string
  | 0, .array _ _ => .error .malformed
  | depth + 1, .array items tail => do
    let items ← valueItems depth items
    closed tail
    return .array items
  | 0, .object _ _ => .error .malformed
  | depth + 1, .object members tail => do
    let members ← valueMembers depth members
    closed tail
    return Json.ofMembers members
  | _, .broken d => .error d

def valueItems : Nat → List Node → Except Defect (List Json)
  | _, [] => .ok []
  | depth, item :: rest => do
    let v ← item.value depth
    let vs ← valueItems depth rest
    return v :: vs

def valueMembers : Nat → List (Quotation × Node) → Except Defect (List (String × Json))
  | _, [] => .ok []
  | depth, (name, node) :: rest => do
    let name ← name.content
    let v ← node.value depth
    let vs ← valueMembers depth rest
    return (name, v) :: vs

end

end Node

end EntityGateway.Json
