/-
Services that do nothing but follow a script: which of their calls fail, and which of them hang.
-/
import EntityGateway.Orchestration.Dependents
import EntityGateway.Simulation.Formats
import EntityGateway.Simulation.Pattern.Engine

namespace EntityGateway.Simulation

attribute [instance] engine formats

/-- the calls of one kind that fail and that hang, by their numbers from 1 on -/
structure Script where
  failing : List Nat := []
  hanging : List Nat := []
  error : GatewayError

/-- the scripts of services -/
structure Scripts where
  rebind : Follower → Script
  permissions : Script
  documentor : Option Script

/-- a call that was made -/
structure Made where
  call : String
  /-- the version of the holder then -/
  version : Option Nat
  snapshot : Option Snapshot

/-- the calls that were made, and how many of each kind -/
structure CallLog where
  made : List Made := []
  counts : NameMap Nat := .empty

/-- the name of a service in a log -/
def slot : Follower → String
  | .authorization => "authorization"
  | .validator => "request_validator"
  | .schema => "schema_creator"

/-- a call answered by a script, and written down -/
def Script.answer (s : Script) (m : Made) (log : CallLog) : Reply × CallLog :=
  let number := (log.counts.get? m.call).getD 0 + 1
  ({ after := if s.hanging.contains number then none else some ⟨0⟩,
     result := if s.failing.contains number then .error s.error else .ok () },
    { made := log.made ++ [m], counts := log.counts.insert m.call number })

def Scripts.dependents (s : Scripts) : Dependents CallLog where
  name f := "fake " ++ slot f
  documents := s.documentor.isSome
  call
    | .rebind f h _, log => (s.rebind f).answer ⟨slot f ++ ".rebind", some h.version, h.held⟩ log
    | .rebuildPermissions c, log => s.permissions.answer ⟨"authorization.map", none, some c⟩ log
    | .generate h c, log =>
      match s.documentor with
      | some script => script.answer ⟨"documentor.generate", some h.version, some c⟩ log
      | none => ({}, log)

end EntityGateway.Simulation
