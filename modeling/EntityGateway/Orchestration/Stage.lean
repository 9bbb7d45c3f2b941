/-
The stages of a configuration change.
-/

namespace EntityGateway

/-- where the last configuration change is, or where it ended -/
inductive Stage where
  | idle
  | validating
  | rebuildingMetadata
  | revalidatingRelationships
  | rewiringDependents
  | generatingArtifacts
  | ready
  | failed
deriving DecidableEq, Repr

def Stage.name : Stage → String
  | .idle => "idle"
  | .validating => "validating"
  | .rebuildingMetadata => "rebuilding_metadata"
  | .revalidatingRelationships => "revalidating_relationships"
  | .rewiringDependents => "rewiring_dependents"
  | .generatingArtifacts => "generating_artifacts"
  | .ready => "ready"
  | .failed => "failed"

end EntityGateway
