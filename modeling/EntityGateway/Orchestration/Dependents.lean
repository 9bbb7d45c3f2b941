/-
The services that depend on the configuration, as the orchestration sees them.

A service is told of a new configuration by a call, and replies at once, after some time or never. What a call does to
the services is done when it is made; the reply only says how it went.
-/
import EntityGateway.Config.Holder
import EntityGateway.Metadata.ProviderSet

namespace EntityGateway

/-- the services that are pointed at a configuration -/
inductive Follower where
  | authorization
  | validator
  | schema
deriving DecidableEq, Repr

/-- a call to a service, with what the service can see then -/
inductive Call where
  /-- follow the configuration of a holder; the set of metadata is the current one -/
  | rebind (who : Follower) (holder : ConfigHolder) (set : ProviderSet)
  /-- take over the permissions of a snapshot -/
  | rebuildPermissions (s : Snapshot)
  /-- document a snapshot -/
  | generate (holder : ConfigHolder) (s : Snapshot)

/-- how a call goes, and after what time; after no time at all if it hangs -/
structure Reply where
  after : Option Duration := some ⟨0⟩
  result : Except GatewayError Unit := .ok ()

/-- services with their state `σ` -/
structure Dependents (σ : Type) where
  /-- the name of a service in errors -/
  name : Follower → String
  /-- whether there is a service that documents -/
  documents : Bool
  call : Call → σ → Reply × σ

/-- one thing to do when services are pointed at a configuration -/
inductive Wire where
  | rebind (who : Follower)
  | permissions
deriving DecidableEq, Repr

namespace Wire

/-- everything to do, in order: permissions are rebuilt after their service is bound -/
def all : List Wire := [.rebind .authorization, .permissions, .rebind .validator, .rebind .schema]

def who : Wire → Follower
  | .rebind f => f
  | .permissions => .authorization

def call (holder : ConfigHolder) (set : ProviderSet) (s : Snapshot) : Wire → Call
  | .rebind f => .rebind f holder set
  | .permissions => .rebuildPermissions s

end Wire

/-- an error as that of a service; an error that is one already keeps its service -/
def GatewayError.ofService (service : String) : GatewayError → GatewayError
  | .dependent s reason => .dependent s reason
  | e => .dependent service e.message

end EntityGateway
