/-
The GraphQL types of a configuration: what each entity is called, its root fields, and the columns behind it.

A type has the name that its entity gives it, or the name of the entity. A table or view can be queried as a list and by
its key, and created, updated and deleted; a stored procedure can only be executed. No two types have one name.
-/
import EntityGateway.Config.Holder
import EntityGateway.Metadata.ProviderSet

namespace EntityGateway

/-- the GraphQL type of an entity -/
structure GraphQLType where
  entity : String
  typeName : String
  queries : List String
  mutations : List String
  /-- the columns, as far as they are known -/
  fields : List String
deriving DecidableEq, Repr

/-- the GraphQL types of entities -/
abbrev TypeCatalog := NameMap GraphQLType

namespace TypeCatalog

/-- the service that makes the types, in errors -/
def service : String := "graphql schema"

/-! ## Names -/

/-- whether a character may begin a name -/
def isNameStart (c : Char) : Bool := c = '_' || c.isAlpha

/-- whether a text is a name in GraphQL -/
def isName (s : String) : Bool :=
  match s.toList with
  | c :: cs => isNameStart c && cs.all fun c => isNameStart c || c.isDigit
  | [] => false

/-- the first character in lower case -/
def lowerFirst (s : String) : String :=
  match s.toList with
  | c :: cs => String.ofList (Unicode.lowerChar c ++ cs)
  | [] => ""

/-- endings after which a plural has an e before its s -/
def hissing : List String := ["s", "x", "z", "ch", "sh"]

/-- the plural of a name: an ending y becomes ies unless a, e or o is before it -/
def pluralize (name : String) : String :=
  let lower := Unicode.lower name
  let ends (tail : String) : Bool := Text.endsWith tail lower
  if ends "y" && !ends "ay" && !ends "ey" && !ends "oy" then String.ofList name.toList.dropLast ++ "ies"
  else if hissing.any ends then name ++ "es"
  else name ++ "s"

def typeName (name : String) (e : Entity) : String := (e.graphql.names.map (·.singular)).getD name

def listName (name : String) (e : Entity) : String :=
  match e.graphql.names.bind (·.plural) with
  | some plural => lowerFirst plural
  | none => pluralize (lowerFirst (typeName name e))

def queries (name : String) (e : Entity) : List String :=
  if e.isProcedure then [] else [listName name e, lowerFirst (typeName name e) ++ "_by_pk"]

def mutations (name : String) (e : Entity) : List String :=
  let verbs := if e.isProcedure then ["execute"] else ["create", "update", "delete"]
  verbs.map (· ++ typeName name e)

/-! ## Types -/

/-- the columns of the object of an entity -/
def columnsOf (p : Provider) (name : String) : List String :=
  match p.state.objects.get? name with
  | some o => o.columns.map (·.name)
  | none => []

/-- the wording about a name that is none -/
def badName (name type : String) : String := "entity '" ++ name ++ "': '" ++ type ++ "' is not a valid GraphQL name"

def takenName (type : String) : String := "type name '" ++ type ++ "' is used by more than one entity"

/-- the type of an entity, with the columns that a set of providers knows -/
def describe (c : RuntimeConfig) (set : ProviderSet) (name : String) (e : Entity) :
    Except GatewayError GraphQLType := do
  let typeName := typeName name e
  if !isName typeName then .error (.dependent service (badName name typeName))
  else do
    let p ← set.find (c.sourceOf e)
    return { entity := name, typeName, queries := queries name e, mutations := mutations name e,
             fields := columnsOf p name }

/-- the types of entities in order; `taken` holds the names of the types so far -/
def gather (c : RuntimeConfig) (set : ProviderSet) (taken : List String) :
    List (String × Entity) → Except GatewayError (List (String × GraphQLType))
  | [] => .ok []
  | (name, e) :: rest => do
    let type ← describe c set name e
    if taken.contains type.typeName then .error (.dependent service (takenName type.typeName))
    else do
      let rest ← gather c set (type.typeName :: taken) rest
      return (name, type) :: rest

def typed (c : RuntimeConfig) : List (String × Entity) :=
  if c.runtime.graphql.enabled then c.entities.entries.filter fun e => e.2.graphql.enabled else []

def ofConfig (c : RuntimeConfig) (set : ProviderSet) : Except GatewayError TypeCatalog := do
  return NameMap.ofList (← gather c set [] (typed c))

def ofHolder (h : ConfigHolder) (set : ProviderSet) : Except GatewayError TypeCatalog := do
  ofConfig (← h.config) set

end TypeCatalog

end EntityGateway
