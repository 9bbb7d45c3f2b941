/-
Permissions: which role may perform which action on which entity.

The blocks of one role add up. A star stands for execution on a stored procedure and for the other four actions on a
table or view; a name that is no action grants nothing. Authenticated callers have the rights of anonymous ones
unless they have a block of their own.
-/
import EntityGateway.Config.Snapshot
import EntityGateway.Error

namespace EntityGateway

/-- an action on an entity -/
inductive EntityAction where
  | create
  | read
  | update
  | delete
  | execute
deriving DecidableEq, Repr

namespace EntityAction

def all : List EntityAction := [.create, .read, .update, .delete, .execute]

def name : EntityAction → String
  | .create => "create"
  | .read => "read"
  | .update => "update"
  | .delete => "delete"
  | .execute => "execute"

def ofLower? (s : String) : Option EntityAction := all.find? (·.name == s)

def ofName (s : String) : Except GatewayError EntityAction :=
  let lower := Unicode.lower s
  match ofLower? lower with
  | some a => .ok a
  | none => .error (.badRequest ("unknown action '" ++ lower ++ "'"))

end EntityAction

namespace Permissions

/-- the role of callers who are not known -/
def anonymous : String := "anonymous"

/-- the role of callers who are known -/
def authenticated : String := "authenticated"

/-- the actions that a name in lower case stands for -/
def expand (kind : ObjectKind) (action : String) : List EntityAction :=
  if action = "*" then
    match kind with
    | .storedProcedure => [.execute]
    | .table | .view => [.create, .read, .update, .delete]
  else (EntityAction.ofLower? action).toList

def granted (kind : ObjectKind) (p : Permission) : List EntityAction :=
  p.actions.flatMap fun a => expand kind (Unicode.lower a.name)

/-- the actions of each role that has a block -/
def declared (e : Entity) : NameMap (List EntityAction) :=
  e.permissions.foldl (fun roles p =>
    roles.insert p.role ((roles.get? p.role).getD [] ++ granted e.source.kind p)) .empty

/-- the actions of each role, those of authenticated callers among them -/
def roles (e : Entity) : NameMap (List EntityAction) :=
  let roles := declared e
  match roles.get? authenticated, roles.get? anonymous with
  | none, some actions => roles.insert authenticated actions
  | _, _ => roles

end Permissions

/-- the actions of each role on each entity -/
abbrev PermissionMap := NameMap (NameMap (List EntityAction))

namespace PermissionMap

def ofConfig (c : RuntimeConfig) : PermissionMap := c.entities.map Permissions.roles

/-- whether a role may perform an action on an entity -/
def allows (m : PermissionMap) (entity role : String) (action : EntityAction) : Bool :=
  match (m.get? entity).bind (·.get? role) with
  | some actions => actions.contains action
  | none => false

/-- the roles with rights on an entity, in order -/
def rolesFor (m : PermissionMap) (entity : String) : List String := ((m.get? entity).map (·.names)).getD []

end PermissionMap

end EntityGateway
