/-
Relationships checked against the objects that were found.

Two entities are related through the fields that a relationship names, which have to be columns of their objects, or
through a foreign key of one object that leads to the other. Entities without an object were reported already and are
passed over.
-/
import EntityGateway.Config.Check
import EntityGateway.Metadata.ProviderSet

namespace EntityGateway.RuntimeConfig

def checkColumns (name label : String) (o : DatabaseObject) (fields : List String) : Except ConfigError Unit :=
  fields.forM fun field =>
    ensure (o.column? field).isSome
      (aboutRelationship name label ("column '" ++ field ++ "' not found in " ++ o.qualifiedName))

/-- one of two objects has a foreign key that leads to the other -/
def areLinked (a b : DatabaseObject) : Bool := a.references b || b.references a

def checkObjects (name label : String) (r : Relationship) (source target : DatabaseObject) :
    Except ConfigError Unit :=
  if r.sourceFields.isEmpty then
    ensure (areLinked source target) (aboutRelationship name label
      ("no foreign key between " ++ source.qualifiedName ++ " and " ++ target.qualifiedName))
  else do
    checkColumns name label source r.sourceFields
    checkColumns name label target r.targetFields

def checkRelated (p : Provider) (name : String) (e : Entity) : Except ConfigError Unit :=
  match p.state.objects.get? name with
  | none => .ok ()
  | some source => e.relationships.entries.forM fun (label, r) =>
    match p.state.objects.get? r.target with
    | none => .ok ()
    | some target => checkObjects name label r source target

/-- every relationship agrees with the objects of a set -/
def checkAgainst (c : RuntimeConfig) (set : ProviderSet) : Except GatewayError Unit :=
  c.entities.entries.forM fun (name, e) =>
    if e.relationships.isEmpty then .ok ()
    else do
      let p ← set.find (c.sourceOf e)
      (checkRelated p name e).mapError .config

end EntityGateway.RuntimeConfig
