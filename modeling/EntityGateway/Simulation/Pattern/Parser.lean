/-
Reading patterns.

A pattern is read from the front into an expression; what cannot be read is no pattern. There are no conditions on
what follows or precedes a match, and no references back to groups.
-/
import EntityGateway.Simulation.Pattern.Expr
import EntityGateway.Text.Trim

namespace EntityGateway.Simulation.Pattern

/-- how characters are read and matched from here on -/
structure Flags where
  anyCase : Bool := false
  multiLine : Bool := false
  dotAll : Bool := false
  carriage : Bool := false
  ascii : Bool := false
  loose : Bool := false

/-- the flags, the names of groups and the text still to be read -/
structure Cursor where
  flags : Flags := {}
  names : List (List Char) := []
  rest : List Char

/-! ## Characters -/

/-- text without blanks and comments in front, where these do not count -/
def Flags.skip (f : Flags) (cs : List Char) : List Char :=
  if f.loose then go cs.length cs else cs
where
  /-- one blank or comment at a time -/
  go : Nat → List Char → List Char
    | 0, cs => cs
    | fuel + 1, cs =>
      match cs with
      | '#' :: rest => go fuel ((rest.dropWhile (· ≠ '\n')).drop 1)
      | c :: rest => if Unicode.isBlank c then go fuel rest else c :: rest
      | [] => []

def isMeta (c : Char) : Bool :=
  ['\\', '.', '+', '*', '?', '(', ')', '|', '[', ']', '{', '}', '^', '$', '#', '&', '-', '~'].contains c

/-- characters that may stand behind a backslash for themselves -/
def isEscapable (c : Char) : Bool :=
  isMeta c || (c.toNat < 128 && !c.isAlphanum && c != '<' && c != '>')

def hexDigit? (c : Char) : Option Nat :=
  if '0' ≤ c && c ≤ '9' then some (c.toNat - 48)
  else if 'a' ≤ c && c ≤ 'f' then some (c.toNat - 87)
  else if 'A' ≤ c && c ≤ 'F' then some (c.toNat - 55)
  else none

def hexValue? (cs : List Char) : Option Nat := cs.foldlM (fun n c => (hexDigit? c).map (n * 16 + ·)) 0

def charOf? (n : Nat) : Option Char := if n.isValidChar then some (Char.ofNat n) else none

/-- a code point in hexadecimal digits, so many or in braces -/
def hexEscape (f : Flags) (count : Nat) (cs : List Char) : Option (Char × List Char) :=
  match f.skip cs with
  | '{' :: rest =>
    let digits := (rest.takeWhile (· ≠ '}')).filter fun c => !(f.loose && Unicode.isBlank c)
    match rest.dropWhile (· ≠ '}') with
    | '}' :: after => if digits.isEmpty then none else (hexValue? digits).bind charOf? |>.map (·, after)
    | _ => none
  | cs =>
    let digits := cs.take count
    if digits.length = count then (hexValue? digits).bind charOf? |>.map (·, cs.drop count) else none

/-! ## Escapes -/

/-- what stands behind a backslash -/
inductive Escape where
  | literal (c : Char)
  | set (s : CharSet)
  | look (l : Look)

/-- a set of characters beyond ASCII, or its part in ASCII -/
def Flags.choose (f : Flags) (wide : CharSet) (asciiName : String) : CharSet :=
  if f.ascii then (CharSet.ascii? asciiName).getD .nothing else wide

/-- the complement of a set, which has to be a set of whole characters -/
def Flags.complement (f : Flags) (s : CharSet) : Option CharSet := if f.ascii then none else some (.not s)

/-- the kinds of word boundary in braces -/
def boundaries (ascii : Bool) : List (String × Look) :=
  [("start", .wordStart ascii), ("end", .wordEnd ascii), ("start-half", .wordStartHalf ascii),
    ("end-half", .wordEndHalf ascii)]

/-- a word boundary, of a kind in braces if a name is there -/
def boundaryEscape (f : Flags) (cs : List Char) : Option (Escape × List Char) :=
  let isNameChar (c : Char) : Bool := c.isAlpha || c == '-'
  match cs with
  | '{' :: rest =>
    match f.skip rest with
    | [] => none
    | c :: more =>
      if isNameChar c then
        let name := String.ofList ((c :: more).takeWhile isNameChar)
        match (c :: more).dropWhile isNameChar, (boundaries f.ascii).find? (·.1 == name) with
        | '}' :: after, some kind => some (.look kind.2, after)
        | _, _ => none
      else some (.look (.boundary f.ascii), cs)
  | _ => some (.look (.boundary f.ascii), cs)

def escape (f : Flags) : List Char → Option (Escape × List Char)
  | [] => none
  | 'x' :: cs => (hexEscape f 2 cs).map fun (c, rest) => (.literal c, rest)
  | 'u' :: cs => (hexEscape f 4 cs).map fun (c, rest) => (.literal c, rest)
  | 'U' :: cs => (hexEscape f 8 cs).map fun (c, rest) => (.literal c, rest)
  | 'd' :: cs => some (.set (f.choose .digit "digit"), cs)
  | 's' :: cs => some (.set (f.choose .blank "space"), cs)
  | 'w' :: cs => some (.set (f.choose .word "word"), cs)
  | 'D' :: cs => (f.complement .digit).map fun s => (.set s, cs)
  | 'S' :: cs => (f.complement .blank).map fun s => (.set s, cs)
  | 'W' :: cs => (f.complement .word).map fun s => (.set s, cs)
  | 'a' :: cs => some (.literal '\x07', cs)
  | 'f' :: cs => some (.literal '\x0c', cs)
  | 't' :: cs => some (.literal '\t', cs)
  | 'n' :: cs => some (.literal '\n', cs)
  | 'r' :: cs => some (.literal '\r', cs)
  | 'v' :: cs => some (.literal '\x0b', cs)
  | 'A' :: cs => some (.look .textStart, cs)
  | 'z' :: cs => some (.look .textEnd, cs)
  | 'b' :: cs => boundaryEscape f cs
  | 'B' :: cs => some (.look (.noBoundary f.ascii), cs)
  | '<' :: cs => some (.look (.wordStart f.ascii), cs)
  | '>' :: cs => some (.look (.wordEnd f.ascii), cs)
  | c :: cs => if isEscapable c then some (.literal c, cs) else none

/-! ## Sets in brackets -/

/-- an item of a set: a character, or a set of them -/
def setItem (f : Flags) : List Char → Option (Escape × List Char)
  | [] => none
  | '\\' :: cs => escape f cs
  | c :: cs => some (.literal c, cs)

def setRange (f : Flags) (cs : List Char) : Option (CharSet × List Char) := do
  let (first, rest) ← setItem f cs
  let rest := f.skip rest
  let alone : Option (CharSet × List Char) :=
    match first with
    | .literal c => some (.single c, rest)
    | .set s => some (s, rest)
    | .look _ => none
  match rest with
  | [] => none
  | '-' :: after =>
    match f.skip after with
    | [] => none
    | ']' :: _ | '-' :: _ => alone
    | after =>
      let (last, rest) ← setItem f after
      match first, last with
      | .literal a, .literal b => if a.toNat ≤ b.toNat then some (.range a.toNat b.toNat, rest) else none
      | _, _ => none
  | _ => alone

/-- a named set of ASCII characters between colons -/
def asciiSet (f : Flags) : List Char → Option (CharSet × List Char)
  | ':' :: cs =>
    let (negated, cs) :=
      match cs with
      | '^' :: rest => (true, rest)
      | cs => (false, cs)
    match cs.dropWhile (· ≠ ':') with
    | ':' :: ']' :: after => do
      let s ← CharSet.ascii? (String.ofList (cs.takeWhile (· ≠ ':')))
      let s ← if negated then f.complement s else some s
      return (s, after)
    | _ => none
  | _ => none

/-- an operation between sets -/
inductive SetOp where
  | both
  | except
  | oneOf

def SetOp.apply : SetOp → CharSet → CharSet → CharSet
  | .both => .both
  | .except => .except
  | .oneOf => .oneOf

/-- a set up to case, where case does not count -/
def Flags.fold (f : Flags) (s : CharSet) : CharSet := if f.anyCase then .anyCase s else s

/-- the set so far with a further operand -/
def operand (f : Flags) (left : Option (CharSet × SetOp)) (right : CharSet) : CharSet :=
  match left with
  | none => right
  | some (s, op) => op.apply (f.fold s) (f.fold right)

/-- the opening of a set: whether it is negated, and the characters that stand for themselves at its start -/
def setOpening (f : Flags) (cs : List Char) : Option (Bool × CharSet × List Char) :=
  let cs := f.skip cs
  let (negated, cs) :=
    match cs with
    | '^' :: rest => (true, f.skip rest)
    | cs => (false, cs)
  let (dashes, cs) := leading cs.length .nothing cs
  match cs with
  | [] => none
  | ']' :: rest =>
    match dashes with
    | .nothing =>
      let rest := f.skip rest
      if rest.isEmpty then none else some (negated, .single ']', rest)
    | _ => some (negated, dashes, cs)
  | _ => some (negated, dashes, cs)
where
  /-- dashes in front -/
  leading : Nat → CharSet → List Char → CharSet × List Char
    | 0, s, cs => (s, cs)
    | fuel + 1, s, cs =>
      match cs with
      | '-' :: rest => leading fuel (.either (.single '-') s) (f.skip rest)
      | cs => (s, cs)

/-- The items of a set up to its closing bracket. `left` is the operand and the operation before the items, `items`
the items so far. -/
def setItems (f : Flags) :
    Nat → Bool → Option (CharSet × SetOp) → CharSet → List Char → Option (CharSet × List Char)
  | 0, _, _, _, _ => none
  | fuel + 1, negated, left, items, cs =>
    match f.skip cs with
    | [] => none
    | '[' :: rest =>
      match asciiSet f rest with
      | some (s, rest) => setItems f fuel negated left (.either items s) rest
      | none => do
        let (inner, start, rest) ← setOpening f rest
        let (s, rest) ← setItems f fuel inner none start rest
        setItems f fuel negated left (.either items s) rest
    | ']' :: rest =>
      let s := f.fold (operand f left items)
      if negated then (f.complement s).map (·, rest) else some (s, rest)
    | '&' :: '&' :: rest => setItems f fuel negated (some (operand f left items, .both)) .nothing rest
    | '-' :: '-' :: rest => setItems f fuel negated (some (operand f left items, .except)) .nothing rest
    | '~' :: '~' :: rest => setItems f fuel negated (some (operand f left items, .oneOf)) .nothing rest
    | cs => do
      let (s, rest) ← setRange f cs
      setItems f fuel negated left (.either items s) rest

def bracketed (f : Flags) (cs : List Char) : Option (CharSet × List Char) := do
  let (negated, start, rest) ← setOpening f cs
  let (s, rest) ← setItems f (rest.length + 1) negated none start rest
  if f.ascii && !s.isAscii then none else some (s, rest)

/-! ## Repetition -/

/-- a decimal number below 2^32 with blanks around it; none if there are no digits -/
def decimal (cs : List Char) : Option Nat × List Char :=
  let cs := cs.dropWhile Unicode.isBlank
  let digits := cs.takeWhile Char.isDigit
  let value := digits.foldl (fun n c => n * 10 + (c.toNat - 48)) 0
  let rest := (cs.drop digits.length).dropWhile Unicode.isBlank
  (if digits.isEmpty || UInt32.size ≤ value then none else some value, rest)

/-- the bounds of a repetition after its opening brace -/
def bounds (f : Flags) (cs : List Char) : Option ((Nat × Option Nat) × List Char) :=
  let (least, rest) := decimal (f.skip cs)
  match least, rest with
  | some n, '}' :: rest => some ((n, some n), rest)
  | some n, ',' :: rest =>
    match f.skip rest with
    | '}' :: rest => some ((n, none), rest)
    | rest =>
      match decimal rest with
      | (some m, '}' :: rest) => if n ≤ m then some ((n, some m), rest) else none
      | _ => none
  | _, _ => none

/-- text without the question mark that makes a repetition short -/
def skipShort : List Char → List Char
  | '?' :: rest => rest
  | cs => cs

/-! ## Groups -/

/-- letters and digits of every script -/
def isNamePart (c : Char) : Bool := Unicode.isWord c

/-- the name of a group up to its closing bracket -/
def groupName (cs : List Char) : Option (List Char × List Char) :=
  let name := cs.takeWhile (· ≠ '>')
  let firstFits := name.head?.any fun c => isNamePart c && !Unicode.isDigit c
  let restFits := (name.drop 1).all fun c => isNamePart c || c == '.' || c == '[' || c == ']'
  match cs.dropWhile (· ≠ '>') with
  | '>' :: rest => if firstFits && restFits then some (name, rest) else none
  | _ => none

def setFlag (f : Flags) (on : Bool) : Char → Option Flags
  | 'i' => some { f with anyCase := on }
  | 'm' => some { f with multiLine := on }
  | 's' => some { f with dotAll := on }
  | 'R' => some { f with carriage := on }
  | 'u' => some { f with ascii := !on }
  | 'x' => some { f with loose := on }
  | 'U' => some f
  | _ => none

/-- flags up to a colon or a closing bracket, each at most once and not ending in a dash -/
def readFlags (f : Flags) (seen : List Char) (on : Bool) : List Char → Option (Flags × List Char × List Char)
  | [] => none
  | c :: rest =>
    if c = ':' || c = ')' then if seen.head? == some '-' then none else some (f, seen, c :: rest)
    else if seen.contains c then none
    else if c = '-' then readFlags f ('-' :: seen) false rest
    else
      match setFlag f on c with
      | some f => readFlags f (c :: seen) on rest
      | none => none

/-- how a group begins -/
inductive Opening where
  /-- flags for the rest of the group around it -/
  | flags (f : Flags) (rest : List Char)
  /-- a group of its own -/
  | group (inner : Cursor)

/-- the opening of a group after its bracket -/
def opening (cur : Cursor) (cs : List Char) : Option Opening :=
  let named (cs : List Char) : Option Opening :=
    match groupName cs with
    | some (name, rest) =>
      if cur.names.contains name then none else some (.group { cur with names := name :: cur.names, rest })
    | none => none
  match cur.flags.skip cs with
  | '?' :: '=' :: _ | '?' :: '!' :: _ | '?' :: '<' :: '=' :: _ | '?' :: '<' :: '!' :: _ => none
  | '?' :: 'P' :: '<' :: rest => named rest
  | '?' :: '<' :: rest => named rest
  | '?' :: rest =>
    match readFlags cur.flags [] true rest with
    | some (f, seen, ')' :: rest) => if seen.isEmpty then none else some (.flags f rest)
    | some (f, _, ':' :: rest) => some (.group { cur with flags := f, rest })
    | _ => none
  | rest => some (.group { cur with rest })

/-! ## Expressions -/

/-- the expressions of a list one after the other, the last one first in the list -/
def inSequence (items : List (Option Expr)) : Expr :=
  items.foldl (fun e item =>
    match item, e with
    | none, e => e
    | some a, .empty => a
    | some a, e => .seq a e) .empty

/-- an expression or one of the earlier ones -/
def orElse (earlier : List Expr) (e : Expr) : Expr := earlier.foldl (fun e a => .alt a e) e

/-- a character, up to case where case does not count -/
def Flags.literal (f : Flags) (c : Char) : Expr := .char (f.fold (.single c))

/-- any character that a dot stands for -/
def Flags.dot (f : Flags) : Option Expr :=
  if f.ascii then none
  else if f.dotAll then some (.char (.range 0 0x10FFFF))
  else if f.carriage then some (.char (.not (.either (.single '\n') (.single '\r'))))
  else some (.char (.not (.single '\n')))

def Flags.ofEscape (f : Flags) : Escape → Expr
  | .literal c => f.literal c
  | .set s => .char s
  | .look l => .look l

def Flags.start (f : Flags) : Look := if f.multiLine then .lineStart f.carriage else .textStart

def Flags.finish (f : Flags) : Look := if f.multiLine then .lineEnd f.carriage else .textEnd

/-- The expression up to the end of the group or the text. `items` are the parts of the current alternative, the last
first, without an expression where flags were set; `earlier` the alternatives before it. -/
def expression : Nat → Cursor → List (Option Expr) → List Expr → Option (Expr × Cursor)
  | 0, _, _, _ => none
  | fuel + 1, cur, items, earlier =>
    let f := cur.flags
    let repeated (least : Nat) (most : Option Nat) (rest : List Char) : Option (Expr × Cursor) :=
      match items with
      | some e :: before =>
        expression fuel { cur with rest := skipShort rest } (some (.times e least most) :: before) earlier
      | _ => none
    let next (e : Expr) (rest : List Char) : Option (Expr × Cursor) :=
      expression fuel { cur with rest } (some e :: items) earlier
    match f.skip cur.rest with
    | [] => some (orElse earlier (inSequence items), { cur with rest := [] })
    | ')' :: rest => some (orElse earlier (inSequence items), { cur with rest := ')' :: rest })
    | '|' :: rest => expression fuel { cur with rest } [] (inSequence items :: earlier)
    | '*' :: rest => repeated 0 none rest
    | '+' :: rest => repeated 1 none rest
    | '?' :: rest => repeated 0 (some 1) rest
    | '{' :: rest =>
      match items, bounds f rest with
      | some _ :: _, some ((least, most), rest) => repeated least most (f.skip rest)
      | _, _ => none
    | '(' :: rest =>
      match opening cur rest with
      | none => none
      | some (.flags flags rest) => expression fuel { cur with flags, rest } (none :: items) earlier
      | some (.group inner) =>
        match expression fuel inner [] [] with
        | some (e, after) =>
          match after.rest with
          | ')' :: rest => expression fuel ⟨f, after.names, rest⟩ (some e :: items) earlier
          | _ => none
        | none => none
    | '[' :: rest => (bracketed f rest).bind fun (s, rest) => next (.char s) rest
    | '.' :: rest => f.dot.bind fun e => next e rest
    | '^' :: rest => next (.look f.start) rest
    | '$' :: rest => next (.look f.finish) rest
    | '\\' :: rest => (escape f rest).bind fun (e, rest) => next (f.ofEscape e) rest
    | c :: rest => next (f.literal c) rest

/-- the expression of a pattern, unless it is no pattern or too large -/
def parse? (s : String) : Option Expr :=
  let cs := s.toList
  match expression (cs.length + 1) { rest := cs } [] [] with
  | some (e, cur) => if cur.rest.isEmpty && e.size ≤ maxSize then some e else none
  | none => none

end EntityGateway.Simulation.Pattern
