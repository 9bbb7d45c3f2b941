/-
Quoted text: a text between quotes in which everything that could not be seen is escaped.
-/
import EntityGateway.Unicode.Classes

namespace EntityGateway.Text

/-- hexadecimal digits in lower case -/
def hex (n : Nat) : String := String.ofList (Nat.toDigits 16 n)

def quotedChar (c : Char) : String :=
  if c = '\x00' then "\\0"
  else if c = '\t' then "\\t"
  else if c = '\n' then "\\n"
  else if c = '\r' then "\\r"
  else if c = '"' then "\\\""
  else if c = '\\' then "\\\\"
  else if Unicode.isExtender c || !Unicode.isPrintable c then "\\u\x7b" ++ hex c.toNat ++ "\x7d"
  else c.toString

def quoted (s : String) : String := "\"" ++ String.join (s.toList.map quotedChar) ++ "\""

end EntityGateway.Text
