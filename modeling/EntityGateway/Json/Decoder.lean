/-
Decoding typed data from JSON texts.

A decoder takes a node and the number of arrays and objects that may still be nested, and gives a value or the first
error in the order of the text. A record may be written as an object, in which unknown members are passed over and no
known one may be repeated, or as an array of its fields in their order.

Every field of a record is decoded by itself, and an error carries the place of its member; of several errors the one
at the first place counts (`Checked.both`), and a missing field is found where the record ends.
-/
import EntityGateway.Json.Reader
import EntityGateway.Json.DecodeError

namespace EntityGateway

open Json (Defect Node Quotation)

/-- decodes a node in which so many arrays and objects may be nested -/
abbrev Decoder (α : Type) := Nat → Node → Except DecodeError α

namespace Decoder

/-- an outcome that can only be a fault of the text -/
def lifted (r : Except Defect α) : Except DecodeError α :=
  match r with
  | .ok a => .ok a
  | .error d => .error (.notJson d)

/-- the error of a value of the wrong kind; the value has to be readable as far as it is looked at -/
def wrongKind (expected : String) : Node → DecodeError
  | .null => .invalidType .null expected
  | .boolean b => .invalidType (.boolean b) expected
  | .number (some n) => .invalidType (.number n) expected
  | .number none => .notJson .malformed
  | .string q =>
    match q.content with
    | .ok s => .invalidType (.string s) expected
    | .error d => .notJson d
  | .array _ _ => .invalidType .sequence expected
  | .object _ _ => .invalidType .map expected
  | .broken d => .notJson d

def anything : Decoder Json := fun depth node => lifted (node.value depth)

def text : Decoder String
  | _, .string q => lifted q.content
  | _, node => .error (wrongKind "a string" node)

def boolean : Decoder Bool
  | _, .boolean b => .ok b
  | _, node => .error (wrongKind "a boolean" node)

/-- an integer of 32 bits without a sign -/
def word32 : Decoder Nat
  | _, .number (some (.integer i)) =>
    if 0 ≤ i ∧ i < UInt32.size then .ok i.toNat else .error (.invalidValue (.number (.integer i)) "u32")
  | _, node => .error (wrongKind "u32" node)

/-- a float; an integer is rounded to one -/
def real : Decoder Decimal.Binary64
  | _, .number (some n) => .ok n.toReal
  | _, node => .error (wrongKind "f64" node)

def optional (decode : Decoder α) : Decoder (Option α)
  | _, .null => .ok none
  | depth, node => (decode depth node).map some

/-- one after the other, as long as there is no error -/
def sequence (decode : Node → Except DecodeError α) : List Node → Except DecodeError (List α)
  | [] => .ok []
  | node :: rest => do
    let a ← decode node
    let as ← sequence decode rest
    return a :: as

def list (decode : Decoder α) : Decoder (List α)
  | 0, .array _ _ => .error (.notJson .malformed)
  | depth + 1, .array items tail => do
    let as ← sequence (decode depth) items
    lifted (Node.closed tail)
    return as
  | _, node => .error (wrongKind "a sequence" node)

/-- members in their order, names first -/
def pairs (decode : Node → Except DecodeError α) : List (Quotation × Node) → Except DecodeError (List (String × α))
  | [] => .ok []
  | (name, node) :: rest => do
    let name ← lifted name.content
    let a ← decode node
    let as ← pairs decode rest
    return (name, a) :: as

/-- the members of an object whose names are free -/
def members (decode : Decoder α) : Decoder (List (String × α))
  | 0, .object _ _ => .error (.notJson .malformed)
  | depth + 1, .object ms tail => do
    let as ← pairs (decode depth) ms
    lifted (Node.closed tail)
    return as
  | _, node => .error (wrongKind "a map" node)

/-- One of a few names. It may also be written as an object with the name as its only member and null as the value.
Any other value is a fault of the text. -/
def choice (variants : List (String × α)) : Decoder α
  | _, .string q => do
    let name ← lifted q.content
    variant name
  | 0, .object _ _ => .error (.notJson .malformed)
  | _ + 1, .object [] (some d) => .error (.notJson d)
  | _ + 1, .object [] none => .error (.notJson .malformed)
  | _ + 1, .object ((name, node) :: rest) tail => do
    let name ← lifted name.content
    let a ← variant name
    match node with
    | .null =>
      match rest, tail with
      | [], none => return a
      | [], some d => .error (.notJson d)
      | _ :: _, _ => .error (.notJson .malformed)
    | node => .error (wrongKind "unit" node)
  | _, .broken d => .error (.notJson d)
  | _, _ => .error (.notJson .malformed)
where
  /-- the variant of a name -/
  variant (name : String) : Except DecodeError α :=
    match variants.find? (·.1 == name) with
    | some v => .ok v.2
    | none => .error (.unknownVariant name (variants.map (·.1)))

/-! ## Records -/

/-- the known fields of a record that are written, each with its place, and how the record ends -/
structure Fields where
  /-- place, name and node of each field that is written -/
  written : List (Nat × String × Node)
  /-- arrays and objects that may be nested in a field -/
  depth : Nat
  /-- the place after the last member -/
  size : Nat
  /-- the error of a field that is not written, by its index in the record -/
  missing : Nat → String → DecodeError
  /-- the first error that does not belong to a field, with its place -/
  fault : Option (Nat × DecodeError)

/-- a value or an error with its place -/
abbrev Checked (α : Type) := Except (Nat × DecodeError) α

/-- two outcomes; of two errors the one at the first place -/
def Checked.both (a : Checked α) (b : Checked β) : Checked (α × β) :=
  match a, b with
  | .ok a, .ok b => .ok (a, b)
  | .error e, .ok _ => .error e
  | .ok _, .error e => .error e
  | .error e, .error f => if e.1 ≤ f.1 then .error e else .error f

abbrev FieldReader (α : Type) := Fields → Checked α

def FieldReader.both (a : FieldReader α) (b : FieldReader β) : FieldReader (α × β) :=
  fun fields => Checked.both (a fields) (b fields)

/-- the outcome of a group of fields under a function -/
def FieldReader.map (f : α → β) (a : FieldReader α) : FieldReader β := fun fields => Except.map f (a fields)

def Fields.decode? (fields : Fields) (name : String) (decode : Decoder α) : Option (Checked α) :=
  (fields.written.find? (·.2.1 == name)).map fun (place, _, node) =>
    match decode fields.depth node with
    | .ok a => .ok a
    | .error e => .error (place, e)

/-- a field that has to be written; `index` is its place in the record -/
def required (index : Nat) (name : String) (decode : Decoder α) : FieldReader α := fun fields =>
  (fields.decode? name decode).getD (.error (fields.size + index, fields.missing index name))

/-- a field that may be left out -/
def defaulted (name : String) (value : α) (decode : Decoder α) : FieldReader α := fun fields =>
  (fields.decode? name decode).getD (.ok value)

/-- a field that may be left out or null -/
def nullable (name : String) (decode : Decoder α) : FieldReader (Option α) := defaulted name none (optional decode)

/-- The known members of an object from a place on, and the first error that does not belong to one of them: a bad
name, a repeated field, a fault in an unknown member. -/
def knownMembers (known seen : List String) (place : Nat) :
    List (Quotation × Node) → List (Nat × String × Node) × Option (Nat × DecodeError)
  | [] => ([], none)
  | (name, node) :: rest =>
    match name.content with
    | .error d => ([], some (place, .notJson d))
    | .ok name =>
      if known.contains name then
        if seen.contains name then ([], some (place, .duplicateField name))
        else
          let (written, fault) := knownMembers known (name :: seen) (place + 1) rest
          ((place, name, node) :: written, fault)
      else
        match node.pass with
        | .error d => ([], some (place, .notJson d))
        | .ok () => knownMembers known seen (place + 1) rest

/-- the first fields of a record, one for each item -/
def placed (place : Nat) : List String → List Node → List (Nat × String × Node)
  | name :: names, node :: rest => (place, name, node) :: placed (place + 1) names rest
  | _, _ => []

def record (name : String) (known : List String) (read : FieldReader α) : Decoder α
  | 0, .object _ _ => .error (.notJson .malformed)
  | depth + 1, .object ms tail =>
    let (written, fault) := knownMembers known [] 0 ms
    let fault := fault <|> tail.map fun d => (ms.length, .notJson d)
    finish ⟨written, depth, ms.length, fun _ field => .missingField field, fault⟩
  | 0, .array _ _ => .error (.notJson .malformed)
  | depth + 1, .array items tail =>
    let count := known.length
    let fault :=
      if count < items.length then some (count, .notJson .malformed)
      else tail.map fun d => (items.length, .notJson d)
    let short (i : Nat) (_ : String) : DecodeError := .invalidLength i (shape ++ withCount count)
    finish ⟨placed 0 known items, depth, items.length, short, fault⟩
  | _, node => .error (wrongKind shape node)
where
  /-- the kind of value that is expected -/
  shape : String := "struct " ++ name
  /-- the number of fields in words -/
  withCount (count : Nat) : String :=
    " with " ++ toString count ++ (if count = 1 then " element" else " elements")
  /-- the record, or the error at the first place -/
  finish (fields : Fields) : Except DecodeError α :=
    let end? : Checked Unit :=
      match fields.fault with
      | none => .ok ()
      | some e => .error e
    match Checked.both end? (read fields) with
    | .ok (_, a) => .ok a
    | .error (_, e) => .error e

def decodeText (decode : Decoder α) (s : String) : Except DecodeError α := do
  let (node, rest) := Json.readNode s.toList
  let a ← decode Json.maxDepth node
  lifted (Json.ending rest)
  return a

/-- the value at the front of a text, whatever follows it -/
def decodeFront (decode : Decoder α) (s : String) : Except DecodeError α :=
  decode Json.maxDepth (Json.readNode s.toList).1

end Decoder

end EntityGateway
