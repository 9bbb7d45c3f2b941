/-
The errors of the gateway, and the chain of causes behind each.

An error that only passes on another one, as a refused configuration is passed on, has that error's wording and that
error's causes. An error that has a cause of its own puts the cause first in its chain.
-/
import EntityGateway.Config.Error
import EntityGateway.Metadata.Exception
import EntityGateway.Orchestration.Stage

namespace EntityGateway

/-- an error of a database or of the connection to it -/
inductive DatabaseError where
  | poolTimedOut
  | poolClosed
  | rowNotFound
  | protocol (reason : String)
  /-- an error that the server reports -/
  | server (reason : String)
  /-- a connection string that cannot be understood -/
  | configuration (reason : String)
  /-- any other error of a database's driver, with its wording and those of its causes, the nearest first -/
  | other (wording : String) (causes : List String)
deriving DecidableEq, Repr

def DatabaseError.message : DatabaseError → String
  | .poolTimedOut => "pool timed out while waiting for an open connection"
  | .poolClosed => "attempted to acquire a connection on a closed pool"
  | .rowNotFound => "no rows returned by a query that expected to return at least one row"
  | .protocol reason => "encountered unexpected or invalid data: " ++ reason
  | .server reason => "error returned from database: " ++ reason
  | .configuration reason => "error with configuration: " ++ reason
  | .other wording _ => wording

/-- the wordings of the causes, the nearest first -/
def DatabaseError.causes : DatabaseError → List String
  | .server reason | .configuration reason => [reason]
  | .other _ causes => causes
  | .poolTimedOut | .poolClosed | .rowNotFound | .protocol _ => []

mutual

/-- any error of the gateway -/
inductive GatewayError where
  | config (error : ConfigError)
  | change (error : ChangeError)
  | metadata (error : MetadataException)
  | alreadyConfigured
  | notConfigured
  | dataSourceNotFound (name : String)
  /-- an error of a service that depends on the configuration -/
  | dependent (service reason : String)
  | notFound (what : String)
  | validation (problem : String)
  | database (error : DatabaseError)
  | badRequest (problem : String)
deriving DecidableEq, Repr

/-- why a configuration change was not made -/
inductive ChangeError where
  /-- another change is being made -/
  | inProgress
  | stage (stage : Stage) (cause : GatewayError)
  | timeout (stage : Stage) (after : Duration)
deriving DecidableEq, Repr

end

mutual

def GatewayError.message : GatewayError → String
  | .config e => e.message
  | .change e => e.message
  | .metadata e => e.message
  | .alreadyConfigured => "runtime is already configured"
  | .notConfigured => "runtime is not configured"
  | .dataSourceNotFound name => "dataSourceName:" ++ name ++ " could not be found within the config"
  | .dependent service reason => service ++ ": " ++ reason
  | .notFound what => "not found: " ++ what
  | .validation problem => "validation: " ++ problem
  | .database e => "database: " ++ e.message
  | .badRequest problem => "bad request: " ++ problem

def ChangeError.message : ChangeError → String
  | .inProgress => "a configuration change is already being applied"
  | .stage stage cause => stage.name ++ " failed: " ++ cause.message
  | .timeout stage after => stage.name ++ " timed out after " ++ after.text

end

mutual

/-- the wordings of the causes, the nearest first -/
def GatewayError.causes : GatewayError → List String
  | .config e => e.causes
  | .change e => e.causes
  | .database e => e.message :: e.causes
  | _ => []

/-- the wordings of the causes, the nearest first -/
def ChangeError.causes : ChangeError → List String
  | .stage _ cause => cause.message :: cause.causes
  | _ => []

end

namespace ChangeError

/-- the stage that did not succeed -/
def stage? : ChangeError → Option Stage
  | .inProgress => none
  | .stage s _ => some s
  | .timeout s _ => some s

/-- the wording of the deepest cause, or of the error itself -/
def innermost (e : ChangeError) : String := e.causes.getLastD e.message

end ChangeError

end EntityGateway
