/-
Validation of request bodies by the rules of their entities.

The rules of a configuration are compiled once. A record satisfies them when every required field is there and not null
and every field that is there and not null meets its rule; of a part of a record only the fields that are there are
looked at. Lengths, formats and patterns concern texts, bounds concern numbers, and a list of allowed values concerns
every value; values that are numbers are compared as 64-bit floats.
-/
import EntityGateway.Config.Holder
import EntityGateway.Format
import EntityGateway.Json.Tagged
import EntityGateway.Pattern
import EntityGateway.Unicode.Lowercase

namespace EntityGateway

/-! ## Problems -/

/-- what is wrong with a field -/
inductive FieldProblem where
  | missing
  | noEmail
  | noUuid
  | noTimestamp
  | tooLong (most : Nat)
  | tooShort (least : Nat)
  | unmatched
  | notAllowed (allowed : List Json)
  | tooSmall (least : Decimal.Binary64)
  | tooLarge (most : Decimal.Binary64)

namespace FieldProblem

/-- the number of allowed values that are named -/
def mostNamed : Nat := 5

/-- the wording of a problem, after the name of the field -/
def wording : FieldProblem → String
  | .missing => "is required"
  | .noEmail => "must be a valid email"
  | .noUuid => "must be a valid UUID"
  | .noTimestamp => "must be an RFC 3339 timestamp"
  | .tooLong most => "must be at most " ++ toString most ++ " characters"
  | .tooShort least => "must be at least " ++ toString least ++ " characters"
  | .unmatched => "does not match required pattern"
  | .notAllowed allowed => "must be one of: [" ++ Text.join ", " (Json.taggedItems (allowed.take mostNamed)) ++ "]"
  | .tooSmall least => "must be at least " ++ Decimal.Layout.plain.write least
  | .tooLarge most => "must be at most " ++ Decimal.Layout.plain.write most

def error (field : String) (p : FieldProblem) : GatewayError := .validation (field ++ " " ++ p.wording)

end FieldProblem

/-! ## Rules -/

/-- a rule with its pattern ready for use -/
structure CompiledRule where
  rule : FieldRule
  pattern : Option (String → Bool)

namespace CompiledRule

/-- a problem unless a condition holds -/
def problemUnless (condition : Bool) (p : FieldProblem) : Option FieldProblem := if condition then none else some p

/-- an address with a character on one side of an at sign at least -/
def isEmail (s : String) : Bool := Text.contains '@' s && 3 ≤ s.utf8ByteSize

/-- what a format finds wrong with a text; a format that is not known finds nothing -/
def formatProblem? [Format.Readers] (format s : String) : Option FieldProblem :=
  match Unicode.lower format with
  | "email" => problemUnless (isEmail s) .noEmail
  | "uuid" => problemUnless (Format.Readers.isUuid s) .noUuid
  | "date-time" => problemUnless (Format.Readers.isTimestamp s) .noTimestamp
  | _ => none

/-- what is wrong with a text: format, longest and shortest length, and pattern in this order -/
def textProblem? [Format.Readers] (r : CompiledRule) (s : String) : Option FieldProblem :=
  (r.rule.format.bind fun f => formatProblem? f s) <|>
  (r.rule.maxLength.bind fun most => problemUnless (s.length ≤ most) (.tooLong most)) <|>
  (r.rule.minLength.bind fun least => problemUnless (least ≤ s.length) (.tooShort least)) <|>
  (r.pattern.bind fun fits => problemUnless (fits s) .unmatched)

/-- equality of values, numbers as floats -/
def equalValues : Json → Json → Bool
  | .number m, .number n => m.toReal.same n.toReal
  | a, b => a.same b

/-- whether a value is on the list of allowed ones, if there is one -/
def allowedProblem? (r : CompiledRule) (v : Json) : Option FieldProblem :=
  r.rule.allowed.bind fun allowed => problemUnless (allowed.any (equalValues v)) (.notAllowed allowed)

/-- what is wrong with a number: the lower bound, then the upper one -/
def boundProblem? (r : CompiledRule) (n : Number) : Option FieldProblem :=
  (r.rule.minimum.bind fun least => problemUnless (least.le n.toReal) (.tooSmall least)) <|>
  (r.rule.maximum.bind fun most => problemUnless (n.toReal.le most) (.tooLarge most))

/-- what is wrong with a value; null meets every rule -/
def problem? [Format.Readers] (r : CompiledRule) : Json → Option FieldProblem
  | .null => none
  | .string s => r.textProblem? s <|> r.allowedProblem? (.string s)
  | .number n => r.allowedProblem? (.number n) <|> r.boundProblem? n
  | v => r.allowedProblem? v

/-- whether there is a value that is not null -/
def isPresent : Option Json → Bool
  | none | some .null => false
  | some _ => true

/-- what is wrong with a field of a whole record -/
def recordProblem? [Format.Readers] (r : CompiledRule) (v : Option Json) : Option FieldProblem :=
  problemUnless (r.rule.required != some true || isPresent v) .missing <|> v.bind r.problem?

end CompiledRule

/-- the rules of the fields of each entity -/
abbrev RuleBook := NameMap (NameMap CompiledRule)

/-- the fields of a request -/
abbrev Body := NameMap Json

namespace RuleBook

/-- the service that validates, in errors -/
def service : String := "request validator"

/-- the wording about a pattern that cannot be compiled, with what the engine finds wrong with it -/
def badPattern (entity field problem : String) : String :=
  "entity '" ++ entity ++ "' field '" ++ field ++ "': invalid pattern: " ++ problem

/-- a rule of a field with its pattern compiled -/
def compileRule [Pattern.Engine] (entity field : String) (rule : FieldRule) : Except GatewayError CompiledRule :=
  match rule.pattern with
  | none => .ok ⟨rule, none⟩
  | some source =>
    match Pattern.Engine.compile source with
    | .ok fits => .ok ⟨rule, some fits⟩
    | .error problem => .error (.dependent service (badPattern entity field problem))

def ofConfig [Pattern.Engine] (c : RuntimeConfig) : Except GatewayError RuleBook :=
  c.entities.tryMap fun entity e => e.validation.tryMap (compileRule entity)

def ofHolder [Pattern.Engine] (h : ConfigHolder) : Except GatewayError RuleBook := do ofConfig (← h.config)

def rulesOf (b : RuleBook) (entity : String) : Except GatewayError (NameMap CompiledRule) :=
  match b.get? entity with
  | some rules => .ok rules
  | none => .error (.notFound ("entity '" ++ entity ++ "'"))

/-- what is wrong with each field of a record, in the order of the names -/
def recordProblems [Format.Readers] (rules : NameMap CompiledRule) (body : Body) : List (String × FieldProblem) :=
  rules.entries.filterMap fun (field, r) => (r.recordProblem? (body.get? field)).map fun p => (field, p)

/-- what is wrong with each field of a part of a record, in the order of the names -/
def partProblems [Format.Readers] (rules : NameMap CompiledRule) (body : Body) : List (String × FieldProblem) :=
  body.entries.filterMap fun (field, v) => ((rules.get? field).bind (·.problem? v)).map fun p => (field, p)

def verdict : List (String × FieldProblem) → Except GatewayError Unit
  | [] => .ok ()
  | (field, p) :: _ => .error (p.error field)

/-- whether a body is a record that satisfies the rules of an entity -/
def validate [Format.Readers] (b : RuleBook) (entity : String) (body : Body) : Except GatewayError Unit := do
  verdict (recordProblems (← b.rulesOf entity) body)

/-- whether the fields of a body satisfy the rules of an entity -/
def validatePart [Format.Readers] (b : RuleBook) (entity : String) (body : Body) : Except GatewayError Unit := do
  verdict (partProblems (← b.rulesOf entity) body)

end RuleBook

end EntityGateway
