/-
Problems found while the metadata of one data source is read. They are recorded and stop nothing else.
-/
import EntityGateway.Time.Duration

namespace EntityGateway

/-- a problem with the metadata of a data source -/
inductive MetadataException where
  | missingObject (dataSource entity object : String)
  | missingPrimaryKey (dataSource entity object : String)
  | unsupportedProcedure (dataSource entity object reason : String)
  | introspection (dataSource reason : String)
  | timeout (dataSource : String) (after : Duration)
  | missingSchema (dataSource : String)
deriving DecidableEq, Repr

namespace MetadataException

def dataSource : MetadataException → String
  | .missingObject d _ _ | .missingPrimaryKey d _ _ | .unsupportedProcedure d _ _ _ => d
  | .introspection d _ | .timeout d _ | .missingSchema d => d

/-- the entity that has the problem, if it is not the data source as a whole -/
def entity? : MetadataException → Option String
  | .missingObject _ e _ | .missingPrimaryKey _ e _ | .unsupportedProcedure _ e _ _ => some e
  | .introspection _ _ | .timeout _ _ | .missingSchema _ => none

/-- the beginning of every wording -/
def heading (dataSource : String) : String := "data source '" ++ dataSource ++ "': "

def message : MetadataException → String
  | .missingObject d e o => heading d ++ "entity '" ++ e ++ "' maps to " ++ o ++ ", which does not exist"
  | .missingPrimaryKey d e o => heading d ++ "entity '" ++ e ++ "' (" ++ o ++ ") has no primary key and no key-fields"
  | .unsupportedProcedure d e o reason =>
    heading d ++ "stored procedure " ++ o ++ " for entity '" ++ e ++ "' is not supported: " ++ reason
  | .introspection d reason => heading d ++ "introspection failed: " ++ reason
  | .timeout d after => heading d ++ "introspection timed out after " ++ after.text
  | .missingSchema d => heading d ++ "no GraphQL schema was supplied"

end MetadataException

end EntityGateway
