/-
Trimming and splitting text.
-/
import EntityGateway.Unicode.Classes

namespace EntityGateway.Text

/-- drops a class of characters from both ends -/
def trimBoth (p : Char → Bool) (cs : List Char) : List Char :=
  ((cs.dropWhile p).reverse.dropWhile p).reverse

/-- text without the blanks at its ends -/
def trim (s : String) : String := String.ofList (trimBoth Unicode.isBlank s.toList)

def isBlank (s : String) : Bool := s.toList.all Unicode.isBlank

/-- text without a character repeated at its end -/
def trimEnd (p : Char → Bool) (s : String) : String := String.ofList (s.toList.reverse.dropWhile p).reverse

/-- whether a list of characters starts with another, and what follows then -/
def stripFront? : List Char → List Char → Option (List Char)
  | [], cs => some cs
  | _ :: _, [] => none
  | p :: ps, c :: cs => if p = c then stripFront? ps cs else none

/-- the part before the last occurrence of a character and the part after it -/
def splitLast (sep : Char) (cs : List Char) : Option (List Char × List Char) :=
  match cs.reverse.span (· ≠ sep) with
  | (_, []) => none
  | (after, _ :: before) => some (before.reverse, after.reverse)

def startsWith (c : Char) (s : String) : Bool := s.toList.head? == some c

/-- whether text ends with other text -/
def endsWith (tail s : String) : Bool := tail.toList.isSuffixOf s.toList

/-- whether text occurs in other text -/
def contains (c : Char) (s : String) : Bool := s.toList.contains c

/-- items with a separator between them -/
def join (sep : String) : List String → String
  | [] => ""
  | [s] => s
  | s :: rest => s ++ sep ++ join sep rest

end EntityGateway.Text
