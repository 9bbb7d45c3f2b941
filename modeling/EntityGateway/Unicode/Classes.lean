/-
Character classes: blanks, digits, word characters, printable characters.

Every class is decided on ASCII by comparison and beyond ASCII by its table.
-/
import EntityGateway.Unicode.WordTable
import EntityGateway.Unicode.DigitTable
import EntityGateway.Unicode.UnprintableTable
import EntityGateway.Unicode.ExtenderTable
import EntityGateway.Unicode.CasedTable
import EntityGateway.Unicode.CaseIgnorableTable

namespace EntityGateway.Unicode

/-- white space: the blanks of ASCII, the next-line and no-break characters, and the spaces and separators above -/
def isBlank (c : Char) : Bool :=
  let n := c.toNat
  (0x09 ≤ n && n ≤ 0x0D) || n == 0x20 || n == 0x85 || n == 0xA0 || n == 0x1680 || (0x2000 ≤ n && n ≤ 0x200A) ||
    n == 0x2028 || n == 0x2029 || n == 0x202F || n == 0x205F || n == 0x3000

/-- an ASCII letter, an ASCII digit or the underscore -/
def isAsciiWord (c : Char) : Bool :=
  ('a' ≤ c && c ≤ 'z') || ('A' ≤ c && c ≤ 'Z') || ('0' ≤ c && c ≤ '9') || c == '_'

def isWord (c : Char) : Bool :=
  if c.toNat < 128 then isAsciiWord c else inRanges wordRanges c.toNat

def isDigit (c : Char) : Bool :=
  if c.toNat < 128 then '0' ≤ c && c ≤ '9' else inRanges digitRanges c.toNat

/-- a character that is shown as itself -/
def isPrintable (c : Char) : Bool :=
  if c.toNat < 128 then ' ' ≤ c && c ≤ '~' else !inRanges unprintableRanges c.toNat

/-- a character that extends the one before it; none is in ASCII -/
def isExtender (c : Char) : Bool :=
  if c.toNat < 128 then false else inRanges extenderRanges c.toNat

def isCased (c : Char) : Bool := inRanges casedRanges c.toNat

/-- a character that is skipped around a sigma -/
def isCaseIgnorable (c : Char) : Bool := inRanges caseIgnorableRanges c.toNat

end EntityGateway.Unicode
