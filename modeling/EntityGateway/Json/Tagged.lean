/-
JSON values with the names of their kinds, as they stand in the wording of an error.
-/
import EntityGateway.Json.Value
import EntityGateway.Text.Quoted
import EntityGateway.Text.Trim

namespace EntityGateway.Json

mutual

/-- a value with the name of its kind -/
def tagged : Json → String
  | .null => "Null"
  | .boolean b => "Bool(" ++ (if b then "true" else "false") ++ ")"
  | .number n => "Number(" ++ n.text ++ ")"
  | .string s => "String(" ++ Text.quoted s ++ ")"
  | .array items => "Array [" ++ Text.join ", " (taggedItems items) ++ "]"
  | .object members => "Object \x7b" ++ Text.join ", " (taggedMembers members) ++ "\x7d"

def taggedItems : List Json → List String
  | [] => []
  | v :: rest => tagged v :: taggedItems rest

def taggedMembers : List (String × Json) → List String
  | [] => []
  | (name, v) :: rest => (Text.quoted name ++ ": " ++ tagged v) :: taggedMembers rest

end

end EntityGateway.Json
