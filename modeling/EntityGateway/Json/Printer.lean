/-
The compact text of a JSON value: no blanks, members in their order.

Between the quotes of a string a quote, a backslash and the control characters are escaped, and nothing else.
-/
import EntityGateway.Json.Value

namespace EntityGateway.Json

def hexPair (n : Nat) : List Char := [Nat.digitChar (n / 16), Nat.digitChar (n % 16)]

/-- one character between the quotes of a string -/
def escapeChar (c : Char) : List Char :=
  if c = '"' then ['\\', '"']
  else if c = '\\' then ['\\', '\\']
  else if c = '\n' then ['\\', 'n']
  else if c = '\r' then ['\\', 'r']
  else if c = '\t' then ['\\', 't']
  else if c = '\x08' then ['\\', 'b']
  else if c = '\x0c' then ['\\', 'f']
  else if c.toNat < 0x20 then ['\\', 'u', '0', '0'] ++ hexPair c.toNat
  else [c]

/-- the characters between the quotes of a string -/
def escape (cs : List Char) : List Char := cs.flatMap escapeChar

def writeString (s : String) : List Char := '"' :: (escape s.toList ++ ['"'])

mutual

def write : Json → List Char
  | .null => ['n', 'u', 'l', 'l']
  | .boolean true => ['t', 'r', 'u', 'e']
  | .boolean false => ['f', 'a', 'l', 's', 'e']
  | .number n => n.text.toList
  | .string s => writeString s
  | .array [] => ['[', ']']
  | .array (item :: items) => '[' :: (write item ++ writeItems items)
  | .object [] => ['{', '}']
  | .object ((name, value) :: members) => '{' :: (writeString name ++ ':' :: (write value ++ writeMembers members))

/-- the further items of an array and its end -/
def writeItems : List Json → List Char
  | [] => [']']
  | item :: items => ',' :: (write item ++ writeItems items)

/-- the further members of an object and its end -/
def writeMembers : List (String × Json) → List Char
  | [] => ['}']
  | (name, value) :: members => ',' :: (writeString name ++ ':' :: (write value ++ writeMembers members))

end

/-- the compact text of a value -/
def compact (v : Json) : String := String.ofList v.write

end EntityGateway.Json
