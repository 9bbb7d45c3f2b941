/-
Readers of formats that stand in for those of a gateway in use, so that a gateway can be run.

Texts of UUIDs are 32 hexadecimal digits, alone or in five groups, and groups in braces or after their URN.
-/
import EntityGateway.Format
import EntityGateway.Simulation.Timestamp
import EntityGateway.Text.Trim

namespace EntityGateway.Simulation

def isHexDigit (c : Char) : Bool := c.isDigit || ('a' ≤ c && c ≤ 'f') || ('A' ≤ c && c ≤ 'F')

/-- groups of so many hexadecimal digits with hyphens between them, and nothing else -/
def isHexGroups : List Nat → List Char → Bool
  | [], cs => cs.isEmpty
  | [n], cs => cs.length == n && cs.all isHexDigit
  | n :: rest, cs =>
    (cs.take n).length == n && (cs.take n).all isHexDigit &&
      match cs.drop n with
      | '-' :: cs => isHexGroups rest cs
      | _ => false

def uuidGroups : List Nat := [8, 4, 4, 4, 12]

/-- what stands before a UUID in a URN, in any case -/
def uuidUrn : List Char := "urn:uuid:".toList

/-- what follows the start of a URN -/
def afterUrn? (cs : List Char) : Option (List Char) :=
  if (cs.take uuidUrn.length).map Char.toLower == uuidUrn then some (cs.drop uuidUrn.length) else none

def isUuid (s : String) : Bool :=
  let cs := s.toList
  isHexGroups [32] cs || isHexGroups uuidGroups cs ||
    ((Text.stripFront? ['\x7b'] cs).bind fun cs => Text.stripFront? ['\x7d'] cs.reverse).any
      (fun cs => isHexGroups uuidGroups cs.reverse) ||
    (afterUrn? cs).any (isHexGroups uuidGroups)

scoped instance formats : Format.Readers := ⟨isUuid, Timestamp.isTimestamp⟩

end EntityGateway.Simulation
