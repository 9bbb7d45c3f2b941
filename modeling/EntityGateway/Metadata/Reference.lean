/-
References to database objects, as entities write them.

A reference is split at its last dot; what stands before it is the schema. Blanks and then brackets and double quotes
at the ends of each part are no part of the name. A reference without a dot has the default schema.
-/
import EntityGateway.Metadata.Object
import EntityGateway.Text.Trim

namespace EntityGateway

/-- a reference to a database object -/
structure ObjectRef where
  schema : Option String
  name : String
  kind : ObjectKind
deriving DecidableEq, Repr

namespace ObjectRef

/-- brackets and double quotes -/
def isDelimiter (c : Char) : Bool := c = '[' || c = ']' || c = '"'

/-- a part of a name without blanks and delimiters at its ends -/
def clean (cs : List Char) : List Char := Text.trimBoth isDelimiter (Text.trimBoth Unicode.isBlank cs)

def ofText (s : String) (kind : ObjectKind) (defaultSchema : Option String) : ObjectRef :=
  match Text.splitLast '.' s.toList with
  | some (schema, name) => ⟨some (String.ofList (clean schema)), String.ofList (clean name), kind⟩
  | none => ⟨defaultSchema, String.ofList (clean s.toList), kind⟩

def qualifiedName (r : ObjectRef) : String := qualified r.schema r.name

/-- whether two schemas fit; one that is not given fits every schema -/
def schemasFit : Option String → Option String → Bool
  | some a, some b => Unicode.eqIgnoringAsciiCase a b
  | _, _ => true

/-- whether a reference is to an object; names are compared without regard to ASCII case, and kinds are not -/
def fits (r : ObjectRef) (o : DatabaseObject) : Bool :=
  Unicode.eqIgnoringAsciiCase o.name r.name && schemasFit r.schema o.schema

end ObjectRef

end EntityGateway
