/-
Patterns as the gateway uses them.

Which texts are patterns, and which texts match one, is the business of an engine. The gateway hands the pattern of a
rule to it once, when the rules of a configuration are made, and keeps what it gets back. After that it asks no more
than whether texts match. Nothing else is supposed of an engine: what is said of the gateway is said of it with any
engine.
-/

namespace EntityGateway.Pattern

/-- an engine for patterns -/
class Engine where
  /-- a pattern made ready, as the texts that match it; or what is wrong with it -/
  compile : String → Except String (String → Bool)

variable [Engine]

/-- a text is a pattern -/
def Compiles (source : String) : Prop := ∃ fits, Engine.compile source = .ok fits

/-- a text is a pattern, and another one matches it -/
def Matches (source s : String) : Prop := ∃ fits, Engine.compile source = .ok fits ∧ fits s = true

end EntityGateway.Pattern
