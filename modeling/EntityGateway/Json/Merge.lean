/-
Merging one JSON value into another: objects member by member, anything else by replacement.
-/
import EntityGateway.Json.Value

namespace EntityGateway.Json

mutual

/-- the first value with the second merged into it -/
def merge (base : Json) : Json → Json
  | .object overrides =>
    match base with
    | .object members => .object (mergeMembers members overrides)
    | _ => .object overrides
  | value => value

/-- members with further ones merged into them, one after the other -/
def mergeMembers (members : List (String × Json)) : List (String × Json) → List (String × Json)
  | [] => members
  | (name, value) :: rest =>
    let merged :=
      match lookup name members with
      | some old => merge old value
      | none => value
    mergeMembers (insertEntry name merged members) rest

end

end EntityGateway.Json
