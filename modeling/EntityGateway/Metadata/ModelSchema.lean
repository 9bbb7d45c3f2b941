/-
The model types of a GraphQL schema.

A type is declared by the word type and its name; it is a model if a directive that starts with @model stands between
the name and the fields. The text is not read as GraphQL: it is searched from left to right for declarations, and the
text between the braces of a declaration for fields, so what stands between them does not matter. A field is a name,
arguments that are passed over, a colon and a type; it can be null unless its type ends in an exclamation mark.
-/
import EntityGateway.Metadata.Object
import EntityGateway.Text.Trim

namespace EntityGateway.ModelSchema

/-- the items found from left to right; an item that is found takes some text, and the search goes on after it -/
def search (item : List Char → Option (α × List Char)) : Nat → List Char → List α
  | 0, _ => []
  | fuel + 1, cs =>
    match item cs with
    | some (a, rest) => a :: search item fuel rest
    | none =>
      match cs with
      | [] => []
      | _ :: rest => search item fuel rest

def searchAll (item : List Char → Option (α × List Char)) (cs : List Char) : List α := search item (cs.length + 1) cs

def word (cs : List Char) : Option (List Char × List Char) :=
  match cs.span Unicode.isWord with
  | ([], _) => none
  | (name, rest) => some (name, rest)

/-- text up to a character, and what follows that character -/
def upTo (stop : Char) (cs : List Char) : Option (List Char × List Char) :=
  match cs.span (· ≠ stop) with
  | (_, []) => none
  | (before, _ :: after) => some (before, after)

/-- text without the blanks at its front -/
def skipBlanks (cs : List Char) : List Char := cs.dropWhile Unicode.isBlank

/-! ## Fields -/

/-- text after arguments in parentheses, if there are any -/
def skipArguments : List Char → List Char
  | '(' :: cs =>
    match upTo ')' cs with
    | some (_, rest) => skipBlanks rest
    | none => '(' :: cs
  | cs => cs

def isTypeChar (c : Char) : Bool := c = '[' || c = ']' || c = '!' || Unicode.isWord c

/-- the column of a field -/
def column (name type : List Char) : Column :=
  { name := String.ofList name, dataType := Text.trimEnd (· = '!') (String.ofList type),
    nullable := type.getLast? != some '!' }

def field (cs : List Char) : Option (Column × List Char) := do
  let (name, rest) ← word cs
  match skipArguments (skipBlanks rest) with
  | ':' :: rest =>
    match (skipBlanks rest).span isTypeChar with
    | ([], _) => none
    | (type, rest) => some (column name type, rest)
  | _ => none

/-! ## Types -/

/-- a declared type -/
structure TypeDeclaration where
  name : String
  isModel : Bool
  fields : List Column
deriving DecidableEq, Repr

/-- whether a directive that makes a model is at the front of a text, and the text after the brace that follows -/
def openFields : List Char → Option (Bool × List Char)
  | '\x7b' :: rest => some (false, rest)
  | cs => do
    let rest ← Text.stripFront? "@model".toList cs
    let (_, rest) ← upTo '\x7b' rest
    some (true, rest)

def declaration (cs : List Char) : Option (TypeDeclaration × List Char) := do
  let rest ← Text.stripFront? "type".toList cs
  let (name, rest) ←
    match rest with
    | c :: rest => if Unicode.isBlank c then word (skipBlanks rest) else none
    | [] => none
  let (isModel, rest) ← openFields (skipBlanks rest)
  let (fields, rest) ← upTo '\x7d' rest
  some (⟨String.ofList name, isModel, searchAll field fields⟩, rest)

/-- the columns of the models of a schema by their names in lower case; of two with one name the later counts -/
def models (schema : String) : NameMap (List Column) :=
  NameMap.ofList (((searchAll declaration schema.toList).filter (·.isModel)).map fun d =>
    (Unicode.lower d.name, d.fields))

end EntityGateway.ModelSchema
