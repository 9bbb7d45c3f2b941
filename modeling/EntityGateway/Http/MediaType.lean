/-
Media types, as far as it takes to tell JSON from anything else.
-/
namespace EntityGateway.Http

def isTokenChar (c : Char) : Bool :=
  c.isAlphanum || "!#$%&'*+-.^_|~".toList.contains c || c = '\x60'

def token (cs : List Char) : Option (List Char × List Char) :=
  match cs.span isTokenChar with
  | ([], _) => none
  | (name, rest) => some (name, rest)

def isQuotable (c : Char) : Bool := ' ' ≤ c && c ≤ '~'

/-- the rest after a text in double quotes, of which the opening quote is read already; the text is not empty, so that
a quote in the first place is part of it -/
def afterQuoted : List Char → Option (List Char)
  | [] => none
  | first :: cs =>
    match cs.span fun c => c ≠ '"' && isQuotable c with
    | (_, '"' :: rest) => if isQuotable first then some (rest.dropWhile (· = ' ')) else none
    | _ => none

/-- whether what follows a type are parameters, each after a semicolon; only the last one may be empty -/
def areParameters : Nat → List Char → Bool
  | 0, _ => false
  | _ + 1, [] => true
  | fuel + 1, ';' :: cs =>
    match cs.dropWhile (· = ' ') with
    | [] => true
    | cs =>
      match token cs with
      | some (_, '=' :: '"' :: cs) => (afterQuoted cs).any (areParameters fuel)
      | some (_, '=' :: ';' :: _) => false
      | some (_, '=' :: cs) => areParameters fuel (cs.dropWhile isTokenChar)
      | _ => false
  | _ + 1, _ => false

/-- whether a subtype in lower case is that of JSON, before a plus or after the last one; a plus in the first place
divides nothing -/
def isJsonSubtype (subtype : List Char) : Bool :=
  let after := ((subtype.drop 1).reverse.takeWhile (· ≠ '+')).reverse
  let isDivided := (subtype.drop 1).contains '+'
  if isDivided then after == "json".toList || subtype.take (subtype.length - after.length - 1) == "json".toList
  else subtype == "json".toList

/-- whether a content type is that of JSON, in any case and with any parameters -/
def isJsonType (s : String) : Bool :=
  match token s.toList with
  | some (type, '/' :: rest) =>
    match token rest with
    | some (subtype, rest) =>
      type.map Char.toLower == "application".toList && isJsonSubtype (subtype.map Char.toLower) &&
        areParameters (rest.length + 1) rest
    | none => false
  | _ => false

end EntityGateway.Http
