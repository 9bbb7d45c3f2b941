/-
Why a JSON text cannot be decoded, and the wording of the reasons.
-/
import EntityGateway.Json.Node
import EntityGateway.Text.Quoted
import EntityGateway.Text.Trim

namespace EntityGateway

open Json (Defect)

/-- what stands in a text where something else was expected -/
inductive Found where
  | null
  | boolean (value : Bool)
  | number (value : Number)
  | string (value : String)
  | sequence
  | map

/-- the reason why a text cannot be decoded -/
inductive DecodeError where
  /-- the text is not JSON -/
  | notJson (fault : Defect)
  | missingField (name : String)
  | duplicateField (name : String)
  | invalidType (found : Found) (expected : String)
  | invalidValue (found : Found) (expected : String)
  | unknownVariant (found : String) (known : List String)
  /-- an array with too few items for a record -/
  | invalidLength (length : Nat) (expected : String)
  /-- none of several shapes fits -/
  | noVariant (name : String)

/-- text in the quotes of a name -/
def ticked (s : String) : String := "\x60" ++ s ++ "\x60"

/-- how a found value is described -/
def Found.text : Found → String
  | .null => "null"
  | .boolean b => "boolean " ++ ticked (if b then "true" else "false")
  | .number (.integer i) => "integer " ++ ticked (toString i)
  | .number (.real x) =>
    let plain := Decimal.Layout.plain.write x
    "floating point " ++ ticked (if Text.contains '.' plain then plain else plain ++ ".0")
  | .string s => "string " ++ Text.quoted s
  | .sequence => "sequence"
  | .map => "map"

/-- how a choice of names is described -/
def oneOf : List String → String
  | [] => "there are no variants"
  | [a] => "expected " ++ ticked a
  | [a, b] => "expected " ++ ticked a ++ " or " ++ ticked b
  | names => "expected one of " ++ Text.join ", " (names.map ticked)

def DecodeError.message : DecodeError → String
  | .notJson .ended => "<eof>"
  | .notJson .malformed => "<syntax>"
  | .missingField name => "missing field " ++ ticked name
  | .duplicateField name => "duplicate field " ++ ticked name
  | .invalidType found expected => "invalid type: " ++ found.text ++ ", expected " ++ expected
  | .invalidValue found expected => "invalid value: " ++ found.text ++ ", expected " ++ expected
  | .unknownVariant found known => "unknown variant " ++ ticked found ++ ", " ++ oneOf known
  | .invalidLength n expected => "invalid length " ++ toString n ++ ", expected " ++ expected
  | .noVariant name => "data did not match any variant of untagged enum " ++ name

/-- whether the text itself is at fault and not its data -/
def DecodeError.isSyntactic : DecodeError → Bool
  | .notJson _ => true
  | _ => false

end EntityGateway
