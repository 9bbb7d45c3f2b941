/-
Lower-case text.

A sigma at the end of a word has a form of its own, and one capital letter becomes two characters; every other
character is mapped alone.
-/
import EntityGateway.Unicode.LowercaseTable
import EntityGateway.Unicode.FoldingTable
import EntityGateway.Unicode.Classes

namespace EntityGateway.Unicode

/-- the lower-case form of a single character -/
def lowerChar (c : Char) : List Char :=
  if c.toNat < 128 then [if 'A' ≤ c && c ≤ 'Z' then Char.ofNat (c.toNat + 32) else c]
  else if c.toNat = 0x130 then ['i', '\u0307']
  else [Char.ofNat (shiftBy lowercaseShifts c.toNat)]

/-- whether the nearest character that is not skipped is cased -/
def metCased (neighbours : List Char) : Bool :=
  match neighbours.dropWhile isCaseIgnorable with
  | [] => false
  | c :: _ => isCased c

/-- lower case with the characters before the current one at hand, the nearest first -/
def lowerFrom : List Char → List Char → List Char
  | _, [] => []
  | before, c :: rest =>
    (if c = 'Σ' then [if metCased before && !metCased rest then 'ς' else 'σ'] else lowerChar c) ++
      lowerFrom (c :: before) rest

def lower (s : String) : String := String.ofList (lowerFrom [] s.toList)

/-- ASCII letters in lower case, everything else as it is -/
def asciiLower (c : Char) : Char := if 'A' ≤ c && c ≤ 'Z' then Char.ofNat (c.toNat + 32) else c

/-- equal up to the case of ASCII letters -/
def eqIgnoringAsciiCase (s t : String) : Bool := s.toList.map asciiLower == t.toList.map asciiLower

/-- the representative of the characters that differ from this one only in case -/
def folded (code : Nat) : Nat := shiftBy foldingShifts code

/-- every code point with the same representative -/
def caseOrbit (code : Nat) : List Nat :=
  let rep := folded code
  rep :: foldingShifts.toList.filterMap fun s =>
    let back := ((rep : Int) - s.offset).toNat
    if s.covers back && s.apply back == rep then some back else none

end EntityGateway.Unicode
