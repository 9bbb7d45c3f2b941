/-
Reading JSON texts.

The reader takes characters from the front and gives a node with the characters that follow, or without them when the
text cannot be read on. It never fails: a fault becomes part of the node.
-/
import EntityGateway.Json.Node

namespace EntityGateway.Json

/-- the greatest number of nested arrays and objects in a value -/
def maxDepth : Nat := 127

/-- a node and the characters after it; none when reading cannot go on -/
abbrev Step (α : Type) := α × Option (List Char)

/-! ## Blanks, literals, numbers -/

/-- the four blanks of JSON -/
def isSpace (c : Char) : Bool := c = ' ' || c = '\n' || c = '\t' || c = '\r'

/-- the text without the blanks in front -/
def skipSpace (cs : List Char) : List Char := cs.dropWhile isSpace

def isDigit (c : Char) : Bool := '0' ≤ c && c ≤ '9'

def digitValue (c : Char) : Nat := c.toNat - 48

/-- the rest of a literal, of which the text must hold every character -/
def literal (node : Node) : List Char → List Char → Step Node
  | [], cs => (node, some cs)
  | _ :: _, [] => (.broken .ended, none)
  | l :: ls, c :: cs => if l = c then literal node ls cs else (.broken .malformed, none)

/-- digits added to a number as long as it stays below 2^64, and the digits left over -/
def gather (n : Nat) : List Char → Nat × List Char
  | [] => (n, [])
  | c :: cs =>
    let next := n * 10 + digitValue c
    if next < UInt64.size then gather next cs else (n, c :: cs)

/-- the value of an unbounded run of digits -/
def digitsValue (cs : List Char) : Nat := cs.foldl (fun n c => n * 10 + digitValue c) 0

/-- A number from its parts. Without fraction and exponent it is an integer if it is in range and not a negative zero;
otherwise a float of its first digits, as many as stay below 2^64. -/
def Number.ofParts (negative : Bool) (whole fraction : List Char) (exponent : Option Int) : Option Number :=
  let (n, dropped) := gather 0 whole
  let integral := fraction.isEmpty && exponent.isNone && dropped.isEmpty
  if integral && !negative then some (.integer n)
  else if integral && 0 < n && n ≤ Int64.size / 2 then some (.integer (-(n : Int)))
  else
    let (digits, unread) := gather n fraction
    let power : Int := (dropped.length : Int) - ((fraction.length : Int) - unread.length) + exponent.getD 0
    (Decimal.Binary64.ofDecimal negative digits power).map .real

def readExponent (finish : Option Int → Option Number) (cs : List Char) : Step Node :=
  let (sign, cs) : Int × List Char :=
    match cs with
    | '+' :: cs => (1, cs)
    | '-' :: cs => (-1, cs)
    | cs => (1, cs)
  match cs with
  | [] => (.broken .ended, none)
  | c :: rest =>
    if isDigit c then
      let digits := (c :: rest).takeWhile isDigit
      (.number (finish (some (sign * digitsValue digits))), some ((c :: rest).dropWhile isDigit))
    else (.broken .malformed, none)

/-- what may follow the fraction of a number -/
def readPower (finish : Option Int → Option Number) : List Char → Step Node
  | 'e' :: cs => readExponent finish cs
  | 'E' :: cs => readExponent finish cs
  | cs => (.number (finish none), some cs)

/-- what may follow the whole part of a number -/
def readFraction (negative : Bool) (whole : List Char) : List Char → Step Node
  | '.' :: cs =>
    match cs with
    | [] => (.broken .ended, none)
    | c :: rest =>
      if isDigit c then
        let fraction := (c :: rest).takeWhile isDigit
        readPower (Number.ofParts negative whole fraction) ((c :: rest).dropWhile isDigit)
      else (.broken .malformed, none)
  | cs => readPower (Number.ofParts negative whole []) cs

/-- a number after its sign; a zero in front stands alone -/
def readNumber (negative : Bool) : List Char → Step Node
  | [] => (.broken .ended, none)
  | '0' :: cs =>
    match cs with
    | c :: rest => if isDigit c then (.broken .malformed, none) else readFraction negative ['0'] (c :: rest)
    | [] => readFraction negative ['0'] []
  | c :: rest =>
    if isDigit c then readFraction negative ((c :: rest).takeWhile isDigit) ((c :: rest).dropWhile isDigit)
    else (.broken .malformed, none)

/-! ## Strings -/

def hexValue (c : Char) : Option Nat :=
  if '0' ≤ c && c ≤ '9' then some (c.toNat - 48)
  else if 'a' ≤ c && c ≤ 'f' then some (c.toNat - 87)
  else if 'A' ≤ c && c ≤ 'F' then some (c.toNat - 55)
  else none

/-- four hexadecimal digits; a text that is shorter than four bytes has ended -/
def readUnit (cs : List Char) : Except Defect (Nat × List Char) :=
  match cs with
  | a :: b :: c :: d :: rest =>
    match hexValue a, hexValue b, hexValue c, hexValue d with
    | some a, some b, some c, some d => .ok (((a * 16 + b) * 16 + c) * 16 + d, rest)
    | _, _, _, _ => .error .malformed
  | cs => if cs.foldl (fun size c => size + c.utf8Size) 0 < 4 then .error .ended else .error .malformed

/-- whether a unit is the first half of a surrogate pair -/
def isLead (u : Nat) : Bool := 0xD800 ≤ u && u ≤ 0xDBFF

/-- whether a unit is the second half of a surrogate pair -/
def isTrail (u : Nat) : Bool := 0xDC00 ≤ u && u ≤ 0xDFFF

/-- the character of a surrogate pair -/
def pairChar (lead trail : Nat) : Char := Char.ofNat (0x10000 + (lead - 0xD800) * 0x400 + (trail - 0xDC00))

/-- the character of an escape of one letter -/
def escaped (c : Char) : Option Char :=
  if c = '"' then some '"'
  else if c = '\\' then some '\\'
  else if c = '/' then some '/'
  else if c = 'b' then some '\x08'
  else if c = 'f' then some '\x0c'
  else if c = 'n' then some '\n'
  else if c = 'r' then some '\r'
  else if c = 't' then some '\t'
  else none

/-- a string that cannot be read on -/
def Quotation.cut (content : Except Defect (List Char)) (d : Defect) : Step Quotation :=
  match content with
  | .ok _ => (⟨.error d, some d⟩, none)
  | .error e => (⟨.error e, some d⟩, none)

/-- one more character, unless there was a fault -/
def more (content : Except Defect (List Char)) (c : Char) : Except Defect (List Char) := content.map (c :: ·)

/-- a fault that does not end the reading, unless there was one before -/
def spoil (content : Except Defect (List Char)) : Except Defect (List Char) := content.bind fun _ => .error .malformed

/-- the characters of a string up to its end quote; those already read are in reverse -/
def readString : Nat → Except Defect (List Char) → List Char → Step Quotation
  | 0, content, _ => Quotation.cut content .malformed
  | _ + 1, content, [] => Quotation.cut content .ended
  | _ + 1, content, '"' :: rest => (⟨content.map fun cs => String.ofList cs.reverse, none⟩, some rest)
  | fuel + 1, content, '\\' :: rest =>
    match rest with
    | [] => Quotation.cut content .ended
    | 'u' :: rest =>
      match readUnit rest with
      | .error d => Quotation.cut content d
      | .ok (u, rest) =>
        if isTrail u then readString fuel (spoil content) rest
        else if isLead u then
          match rest with
          | [] => readString fuel content []
          | ['\\'] => readString fuel content ['\\']
          | '\\' :: 'u' :: rest' =>
            match readUnit rest' with
            | .error d => Quotation.cut content d
            | .ok (t, rest') =>
              if isTrail t then readString fuel (more content (pairChar u t)) rest'
              else readString fuel (spoil content) rest
          | _ => readString fuel (spoil content) rest
        else readString fuel (more content (Char.ofNat u)) rest
    | c :: rest =>
      match escaped c with
      | some e => readString fuel (more content e) rest
      | none => Quotation.cut content .malformed
  | fuel + 1, content, c :: rest =>
    if c.toNat < 0x20 then Quotation.cut content .malformed else readString fuel (more content c) rest

/-- a string after its first quote -/
def readQuotation (cs : List Char) : Step Quotation := readString (cs.length + 1) (.ok []) cs

/-! ## Values -/

mutual

def readValue : Nat → List Char → Step Node
  | 0, _ => (.broken .malformed, none)
  | fuel + 1, cs =>
    match skipSpace cs with
    | [] => (.broken .ended, none)
    | 'n' :: rest => literal .null ['u', 'l', 'l'] rest
    | 't' :: rest => literal (.boolean true) ['r', 'u', 'e'] rest
    | 'f' :: rest => literal (.boolean false) ['a', 'l', 's', 'e'] rest
    | '-' :: rest => readNumber true rest
    | '"' :: rest =>
      let (q, rest) := readQuotation rest
      (.string q, rest)
    | '[' :: rest =>
      match skipSpace rest with
      | [] => (.array [] (some .ended), none)
      | ']' :: rest => (.array [] none, some rest)
      | rest =>
        let (items, tail, rest) := readItems fuel rest
        (.array items tail, rest)
    | '{' :: rest =>
      match skipSpace rest with
      | [] => (.object [] (some .ended), none)
      | '}' :: rest => (.object [] none, some rest)
      | rest =>
        let (members, tail, rest) := readMembers fuel rest
        (.object members tail, rest)
    | c :: rest => if isDigit c then readNumber false (c :: rest) else (.broken .malformed, none)

/-- the items of an array up to its end; after a comma there is an item, if only a missing one -/
def readItems : Nat → List Char → List Node × Option Defect × Option (List Char)
  | 0, _ => ([], some .malformed, none)
  | fuel + 1, cs =>
    match readValue fuel cs with
    | (item, none) => ([item], some .malformed, none)
    | (item, some rest) =>
      match skipSpace rest with
      | [] => ([item], some .ended, none)
      | ']' :: rest => ([item], none, some rest)
      | ',' :: rest =>
        match skipSpace rest with
        | ']' :: _ => ([item, .broken .malformed], some .malformed, none)
        | rest =>
          let (items, tail, rest) := readItems fuel rest
          (item :: items, tail, rest)
      | _ => ([item], some .malformed, none)

/-- the members of an object up to its end -/
def readMembers : Nat → List Char → List (Quotation × Node) × Option Defect × Option (List Char)
  | 0, _ => ([], some .malformed, none)
  | fuel + 1, cs =>
    match skipSpace cs with
    | [] => ([], some .ended, none)
    | '"' :: rest =>
      match readQuotation rest with
      | (name, none) => ([(name, .broken .malformed)], some .malformed, none)
      | (name, some rest) =>
        match skipSpace rest with
        | [] => ([(name, .broken .ended)], some .ended, none)
        | ':' :: rest =>
          match readValue fuel rest with
          | (v, none) => ([(name, v)], some .malformed, none)
          | (v, some rest) =>
            match skipSpace rest with
            | [] => ([(name, v)], some .ended, none)
            | '}' :: rest => ([(name, v)], none, some rest)
            | ',' :: rest =>
              let (members, tail, rest) := readMembers fuel rest
              ((name, v) :: members, tail, rest)
            | _ => ([(name, v)], some .malformed, none)
        | _ => ([(name, .broken .malformed)], some .malformed, none)
    | _ => ([], some .malformed, none)

end

/-- the node at the front of a text; an array or object takes two steps for its first character -/
def readNode (cs : List Char) : Step Node := readValue (2 * cs.length + 2) cs

/-- the fault after a value at the end of a text: only blanks may follow -/
def ending : Option (List Char) → Except Defect Unit
  | none => .ok ()
  | some rest => if (skipSpace rest).isEmpty then .ok () else .error .malformed

/-- the value of a text -/
def parse (s : String) : Except Defect Json := do
  let (node, rest) := readNode s.toList
  let v ← node.value maxDepth
  ending rest
  return v

end EntityGateway.Json
