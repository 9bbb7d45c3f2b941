/-
What can be wrong with a configuration.
-/

namespace EntityGateway

/-- why a configuration is refused -/
inductive ConfigError where
  /-- the text cannot be read, with the reason -/
  | parse (reason : String)
  | missingEnvVar (name : String)
  | missingReference (kind id : String)
  | duplicatePath (path : String)
  | validation (problem : String)
  | unsupportedBackend (dataSource databaseType : String)
  | rebuildFailed (cause : ConfigError)
  | load (reason : String)
deriving DecidableEq, Repr

namespace ConfigError

def message : ConfigError → String
  | .parse reason => "parse: " ++ reason
  | .missingEnvVar name => "environment variable '" ++ name ++ "' is not set"
  | .missingReference kind id => "missing reference: " ++ kind ++ " '" ++ id ++ "'"
  | .duplicatePath path => "duplicate rest path: " ++ path
  | .validation problem => "validation: " ++ problem
  | .unsupportedBackend dataSource databaseType =>
    "data source '" ++ dataSource ++ "': database type '" ++ databaseType ++ "' is not supported"
  | .rebuildFailed cause => "failed to rebuild metadata providers: " ++ cause.message
  | .load reason => "config load: " ++ reason

/-- the wordings of the causes, the nearest first -/
def causes : ConfigError → List String
  | .rebuildFailed cause => cause.message :: cause.causes
  | _ => []

end ConfigError

end EntityGateway
