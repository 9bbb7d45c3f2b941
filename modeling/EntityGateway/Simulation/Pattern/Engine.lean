/-
An engine for patterns that stands in for the one of a gateway in use, so that a gateway can be run.

It reads a pattern into an expression and looks for a place in a text where the expression matches. Classes of
characters by Unicode properties are not among the patterns that it knows, and groups may be nested as deep as one
likes. So it is an engine for the patterns of a run, and nothing that is said of every gateway rests on it.
-/
import EntityGateway.Pattern
import EntityGateway.Simulation.Pattern.Parser

namespace EntityGateway.Simulation

/-- what is wrong with a pattern is not said -/
def badPattern : String := "<regex>"

scoped instance engine : Pattern.Engine where
  compile source := ((Pattern.parse? source).map Pattern.Expr.isMatch).elim (.error badPattern) .ok

end EntityGateway.Simulation
