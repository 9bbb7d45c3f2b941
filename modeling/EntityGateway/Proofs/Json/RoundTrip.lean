/-
Reading back what was written.

The compact text of a value reads as the value, wherever the text stands in another one, up to two limits of the reader:
it nests no deeper than `maxDepth`, and not every float is read back as itself.

- `readString_escape`: between quotes, every text reads back;
- `readsBack_integer`: so does every integer that is kept as one;
- `readValue_write`: a written value is read to its end and no further;
- `parse_compact`: the compact text of a value whose numbers read back is a text of that value, or of none.
-/
import Mathlib.Tactic
import Mathlib.Data.List.TakeWhile
import Mathlib.Data.List.DropRight
import EntityGateway.Json.Printer
import EntityGateway.Json.Reader

namespace EntityGateway

/-! ## What a value consists of -/

/-- a number, a text or the name of a member -/
inductive Json.Leaf where
  | number (n : Number)
  | text (s : String)
  | name (s : String)

namespace Json

mutual

/-- the numbers, texts and names in a value, at every depth -/
def leaves : Json → List Leaf
  | .null | .boolean _ => []
  | .number n => [.number n]
  | .string s => [.text s]
  | .array items => leavesOfItems items
  | .object members => leavesOfMembers members

/-- the numbers, texts and names in items -/
def leavesOfItems : List Json → List Leaf
  | [] => []
  | item :: items => leaves item ++ leavesOfItems items

/-- the numbers, texts and names in members -/
def leavesOfMembers : List (String × Json) → List Leaf
  | [] => []
  | (name, v) :: members => .name name :: (leaves v ++ leavesOfMembers members)

end

mutual

/-- the greatest number of arrays and objects around a part of a value -/
def depth : Json → Nat
  | .null | .boolean _ | .number _ | .string _ => 0
  | .array items => depthOfItems items + 1
  | .object members => depthOfMembers members + 1

def depthOfItems : List Json → Nat
  | [] => 0
  | item :: items => max (depth item) (depthOfItems items)

def depthOfMembers : List (String × Json) → Nat
  | [] => 0
  | (_, v) :: members => max (depth v) (depthOfMembers members)

end

end Json

/-- the text of a number is read, to its end, as that number -/
def Number.ReadsBack (n : Number) : Prop := Json.readNode n.text.toList = (.number (some n), some [])

/-- whether a text was read to its end as a number -/
def Number.isRead (n : Number) : Json.Step Json.Node → Bool
  | (.number (some m), some []) => m = n
  | _ => false

theorem Number.isRead_iff {n : Number} {step : Json.Step Json.Node} :
    n.isRead step = true ↔ step = (.number (some n), some []) := by
  unfold isRead
  split
  · simp
  · rename_i hother
    simp only [Bool.false_eq_true, false_iff]
    exact fun h => hother n h

instance (n : Number) : Decidable n.ReadsBack := decidable_of_iff _ Number.isRead_iff

namespace Json

/-! ## Strings -/

theorem hexValue_digitChar : ∀ n < 16, hexValue (Nat.digitChar n) = some n := by decide

theorem readUnit_hexPair {n : Nat} (h : n < 0x20) (rest : List Char) :
    readUnit ('0' :: '0' :: (hexPair n ++ rest)) = .ok (n, rest) := by
  have hhigh := hexValue_digitChar (n / 16) (by omega)
  have hlow := hexValue_digitChar (n % 16) (by omega)
  have hzero : hexValue '0' = some 0 := by decide
  simp only [hexPair, List.cons_append, List.nil_append, readUnit, hzero, hhigh, hlow]
  congr 2
  omega

theorem readString_escapeChar (fuel : Nat) (read : List Char) (c : Char) (rest : List Char) :
    readString (fuel + 1) (.ok read) (escapeChar c ++ rest) = readString fuel (.ok (c :: read)) rest := by
  unfold escapeChar
  split_ifs with h₁ h₂ h₃ h₄ h₅ h₆ h₇ h₈
  all_goals try subst c
  iterate 7 simp [readString, escaped, more, Except.map]
  · have hunit := readUnit_hexPair h₈ rest
    have hlead : isLead c.toNat = false := by simp [isLead]; omega
    have htrail : isTrail c.toNat = false := by simp [isTrail]; omega
    simp only [List.cons_append, List.nil_append, readString, hunit, hlead, htrail, more, Except.map,
      Char.ofNat_toNat, Bool.false_eq_true, if_false]
  · rw [List.cons_append, List.nil_append, readString.eq_def]
    split <;> simp_all [more, Except.map]

/-- what was written between quotes is read up to the end quote -/
theorem readString_escape {fuel : Nat} (read cs rest : List Char) (h : cs.length < fuel) :
    readString fuel (.ok read) (escape cs ++ '"' :: rest) =
      (.whole (String.ofList (read.reverse ++ cs)), some rest) := by
  induction cs generalizing fuel read with
  | nil =>
    obtain ⟨k, rfl⟩ := Nat.exists_eq_add_of_lt h
    simp [escape, readString, Quotation.whole, Except.map]
  | cons c cs ih =>
    obtain ⟨k, rfl⟩ : ∃ k, fuel = k + 1 := ⟨fuel - 1, by omega⟩
    have hrest := ih (c :: read) (show cs.length < k by simpa using h)
    rw [escape, List.flatMap_cons, List.append_assoc, readString_escapeChar]
    simpa [escape] using hrest

theorem escapeChar_ne_nil (c : Char) : escapeChar c ≠ [] := by
  unfold escapeChar
  split_ifs <;> simp

theorem length_escape (cs : List Char) : cs.length ≤ (escape cs).length := by
  induction cs with
  | nil => simp
  | cons c cs ih =>
    have hpos := List.length_pos_of_ne_nil (escapeChar_ne_nil c)
    simp only [escape, List.flatMap_cons, List.length_append, List.length_cons] at ih ⊢
    omega

/-- **A written string is read up to its end** -/
theorem readQuotation_escape (s : String) (rest : List Char) :
    readQuotation (escape s.toList ++ '"' :: rest) = (.whole s, some rest) := by
  have hlength := length_escape s.toList
  rw [readQuotation, readString_escape]
  · simp
  · simp only [List.length_append, List.length_cons]
    omega

/-! ## Numbers -/

/-- what may follow a written value: nothing, or what ends an item or a member -/
def Closed (rest : List Char) : Prop := ∀ c ∈ rest.head?, c = ',' ∨ c = ']' ∨ c = '}'

theorem closed_nil : Closed [] := by simp [Closed]

theorem closed_cons {c : Char} (h : c = ',' ∨ c = ']' ∨ c = '}') (rest : List Char) : Closed (c :: rest) := by
  simpa [Closed] using h

section Numbers

variable {cs rest whole : List Char} {n : Option Number} {finish : Option Int → Option Number} {negative : Bool}

theorem digits_append (cs : List Char) (h : Closed rest) : (cs ++ rest).takeWhile isDigit = cs.takeWhile isDigit ∧
    (cs ++ rest).dropWhile isDigit = cs.dropWhile isDigit ++ rest := by
  have hrest : rest.takeWhile isDigit = [] ∧ rest.dropWhile isDigit = rest := by
    cases rest with
    | nil => exact ⟨rfl, rfl⟩
    | cons c rest => rcases h c rfl with rfl | rfl | rfl <;> exact ⟨rfl, rfl⟩
  induction cs with
  | nil => exact hrest
  | cons c cs ih =>
    by_cases hc : isDigit c = true
    · simpa [hc] using ih
    · simp [hc]

def readDigits (finish : Option Int → Option Number) (sign : Int) : List Char → Step Node
  | [] => (.broken .ended, none)
  | c :: cs =>
    if isDigit c then
      (.number (finish (some (sign * digitsValue ((c :: cs).takeWhile isDigit)))), some ((c :: cs).dropWhile isDigit))
    else (.broken .malformed, none)

theorem readExponent_eq (finish : Option Int → Option Number) (cs : List Char) :
    readExponent finish cs =
      match cs with
      | '+' :: cs => readDigits finish 1 cs
      | '-' :: cs => readDigits finish (-1) cs
      | cs => readDigits finish 1 cs := by
  unfold readExponent
  split
  rename_i hsign
  split at hsign <;> cases hsign
  · rename_i cs
    cases cs <;> rfl
  · rename_i cs
    cases cs <;> rfl
  · split
    · rfl
    · simp [readDigits]

theorem readDigits_append {sign : Int} (h : readDigits finish sign cs = (.number n, some [])) (hrest : Closed rest) :
    readDigits finish sign (cs ++ rest) = (.number n, some rest) := by
  cases cs with
  | nil => cases h
  | cons c cs =>
    obtain ⟨htake, hdrop⟩ := digits_append (c :: cs) hrest
    simp only [readDigits, List.cons_append] at h htake hdrop ⊢
    by_cases hc : isDigit c = true
    · rw [if_pos hc] at h ⊢
      simp only [Prod.mk.injEq, Option.some.injEq] at h
      rw [htake, hdrop, h.1, h.2, List.nil_append]
    · rw [if_neg hc] at h
      cases h

theorem readExponent_append (h : readExponent finish cs = (.number n, some [])) (hrest : Closed rest) :
    readExponent finish (cs ++ rest) = (.number n, some rest) := by
  rw [readExponent_eq] at h ⊢
  cases cs with
  | nil => cases h
  | cons c cs =>
    rw [List.cons_append]
    split at h
    · rename_i hc
      cases hc
      exact readDigits_append h hrest
    · rename_i hc
      cases hc
      exact readDigits_append h hrest
    · rename_i hplus hminus
      split
      · rename_i hc
        cases hc
        exact absurd rfl (hplus _)
      · rename_i hc
        cases hc
        exact absurd rfl (hminus _)
      · exact readDigits_append h hrest

theorem readPower_append (h : readPower finish cs = (.number n, some [])) (hrest : Closed rest) :
    readPower finish (cs ++ rest) = (.number n, some rest) := by
  cases cs with
  | nil =>
    cases rest with
    | nil => exact h
    | cons c rest =>
      cases h
      rcases hrest c rfl with rfl | rfl | rfl <;> rfl
  | cons c cs =>
    unfold readPower at h
    split at h
    · rename_i hc
      cases hc
      exact readExponent_append h hrest
    · rename_i hc
      cases hc
      exact readExponent_append h hrest
    · cases h

theorem readFraction_append (h : readFraction negative whole cs = (.number n, some [])) (hrest : Closed rest) :
    readFraction negative whole (cs ++ rest) = (.number n, some rest) := by
  cases cs with
  | nil =>
    cases rest with
    | nil => exact h
    | cons c rest =>
      have hpower : readPower (Number.ofParts negative whole []) [] = (.number n, some []) := h
      rcases hrest c rfl with rfl | rfl | rfl <;> exact readPower_append hpower hrest
  | cons c cs =>
    unfold readFraction at h
    split at h
    · rename_i hc
      cases hc
      cases cs with
      | nil => cases h
      | cons c cs =>
        obtain ⟨htake, hdrop⟩ := digits_append (c :: cs) hrest
        simp only [List.cons_append, readFraction] at h htake hdrop ⊢
        by_cases hc : isDigit c = true
        · rw [if_pos hc] at h ⊢
          rw [htake, hdrop]
          exact readPower_append h hrest
        · rw [if_neg hc] at h
          cases h
    · rename_i hpoint
      have hother : readFraction negative whole (c :: (cs ++ rest)) =
          readPower (Number.ofParts negative whole []) (c :: (cs ++ rest)) := by
        unfold readFraction
        split
        · rename_i hc
          cases hc
          exact absurd rfl (hpoint _)
        · rfl
      rw [List.cons_append, hother]
      exact readPower_append h hrest

/-- **The text of a number is read to its end** and no further -/
theorem readNumber_append (h : readNumber negative cs = (.number n, some [])) (hrest : Closed rest) :
    readNumber negative (cs ++ rest) = (.number n, some rest) := by
  unfold readNumber at h
  split at h
  · cases h
  · rename_i cs
    split at h
    · rename_i c cs
      simp only [List.cons_append, readNumber]
      by_cases hc : isDigit c = true
      · rw [if_pos hc] at h
        cases h
      · rw [if_neg hc] at h ⊢
        exact readFraction_append h hrest
    · cases rest with
      | nil => exact h
      | cons c rest =>
        have hfraction := readFraction_append h hrest
        rcases hrest c rfl with rfl | rfl | rfl <;> exact hfraction
  · rename_i c cs hzero
    obtain ⟨htake, hdrop⟩ := digits_append (c :: cs) hrest
    have hother : readNumber negative (c :: cs ++ rest) = if isDigit c then
        readFraction negative ((c :: cs ++ rest).takeWhile isDigit) ((c :: cs ++ rest).dropWhile isDigit)
        else (.broken .malformed, none) := by
      rw [List.cons_append]
      unfold readNumber
      split
      · rename_i hc
        cases hc
      · rename_i hc
        cases hc
        exact absurd rfl (hzero)
      · rename_i hc
        cases hc
        rfl
    rw [hother, htake, hdrop]
    by_cases hc : isDigit c = true
    · rw [if_pos hc] at h ⊢
      exact readFraction_append h hrest
    · rw [if_neg hc] at h
      cases h

/-! ### Numbers that read back -/

theorem literal_ne {node : Node} (hnode : node ≠ .number n) (ls : List Char) (cs : List Char)
    {left : Option (List Char)} : literal node ls cs ≠ (.number n, left) := by
  induction ls generalizing cs with
  | nil =>
    intro h
    cases h
    exact hnode rfl
  | cons l ls ih =>
    cases cs with
    | nil =>
      intro h
      cases h
    | cons c cs =>
      rw [literal]
      split_ifs
      · exact ih cs
      · intro h
        cases h

theorem skipSpace_append {ds : List Char} (h : ds ≠ []) (hspace : skipSpace cs = ds) :
    skipSpace (cs ++ rest) = ds ++ rest := by
  unfold skipSpace at hspace ⊢
  rw [List.dropWhile_append, hspace, if_neg (by simpa using h)]

/-- a text that is read to its end as a number is read so inside another one -/
theorem readValue_append {k : Nat} (h : readValue (k + 1) cs = (.number n, some [])) (hrest : Closed rest)
    (fuel : Nat) :
    readValue (fuel + 1) (cs ++ rest) = (.number n, some rest) := by
  rw [readValue] at h ⊢
  split at h
  · cases h
  · exact absurd h (literal_ne (by simp) _ _)
  · exact absurd h (literal_ne (by simp) _ _)
  · exact absurd h (literal_ne (by simp) _ _)
  · rename_i hspace
    rw [skipSpace_append (by simp) hspace]
    exact readNumber_append h hrest
  · cases h
  · split at h <;> cases h
  · split at h <;> cases h
  · rename_i c ds hn ht hf hminus hquote hbracket hbrace hspace
    rw [skipSpace_append (by simp) hspace, List.cons_append]
    by_cases hc : isDigit c = true
    · rw [if_pos hc] at h
      have hnumber := readNumber_append h hrest
      split <;> simp_all
    · rw [if_neg hc] at h
      cases h

end Numbers

/-! ## Items and members -/

section Steps

variable {k : Nat} {cs more : List Char} {left : Option (List Char)} {node : Node} {name : Quotation}
  {items : List Node} {members : List (Quotation × Node)}

/-- a text that can be read on starts with something, and not with the end of an array -/
theorem skipSpace_of_readValue (h : readValue (k + 1) cs = (node, some more)) :
    ∃ c ds, skipSpace cs = c :: ds ∧ c ≠ ']' := by
  cases hspace : skipSpace cs with
  | nil => simp [readValue, hspace] at h
  | cons c ds =>
    refine ⟨c, ds, rfl, ?_⟩
    rintro rfl
    simp [readValue, hspace, isDigit] at h

theorem skipSpace_of_readItems (h : readItems (k + 2) cs = (items, none, left)) :
    ∃ c ds, skipSpace cs = c :: ds ∧ c ≠ ']' := by
  rw [readItems] at h
  split at h
  · simp at h
  · rename_i hvalue
    exact skipSpace_of_readValue hvalue

theorem readItems_skipSpace (k : Nat) (cs : List Char) : readItems (k + 2) (skipSpace cs) = readItems (k + 2) cs := by
  have hspace : skipSpace (skipSpace cs) = skipSpace cs := List.dropWhile_idempotent _ _
  have hvalue : readValue (k + 1) (skipSpace cs) = readValue (k + 1) cs := by rw [readValue, readValue, hspace]
  rw [readItems, readItems, hvalue]

theorem readValue_bracket (h : readItems (k + 2) cs = (items, none, left)) :
    readValue (k + 3) ('[' :: cs) = (.array items none, left) := by
  obtain ⟨c, ds, hspace, hc⟩ := skipSpace_of_readItems h
  rw [← readItems_skipSpace, hspace] at h
  simp only [readValue, show skipSpace ('[' :: cs) = '[' :: cs from rfl, hspace]
  split
  · simp_all
  · simp_all
  · rw [h]

theorem readItems_last (h : readValue k cs = (node, some (']' :: more))) :
    readItems (k + 1) cs = ([node], none, some more) := by
  simp [readItems, h, skipSpace, isSpace]

theorem readItems_comma (h : readValue (k + 2) cs = (node, some (',' :: more)))
    (hitems : readItems (k + 2) more = (items, none, left)) :
    readItems (k + 3) cs = (node :: items, none, left) := by
  obtain ⟨c, ds, hspace, hc⟩ := skipSpace_of_readItems hitems
  rw [← readItems_skipSpace, hspace] at hitems
  rw [readItems, h]
  simp only [show skipSpace (',' :: more) = ',' :: more from rfl, hspace]
  split
  · simp_all
  · rw [hitems]

theorem readValue_brace (h : readMembers k ('"' :: cs) = (members, none, left)) :
    readValue (k + 1) ('{' :: '"' :: cs) = (.object members none, left) := by
  simp [readValue, skipSpace, isSpace, h]

theorem readMembers_last (hname : readQuotation cs = (name, some (':' :: more)))
    (h : readValue k more = (node, some ('}' :: rest))) :
    readMembers (k + 1) ('"' :: cs) = ([(name, node)], none, some rest) := by
  simp [readMembers, skipSpace, isSpace, hname, h]

theorem readMembers_comma (hname : readQuotation cs = (name, some (':' :: more)))
    (h : readValue k more = (node, some (',' :: rest))) (hmembers : readMembers k rest = (members, none, left)) :
    readMembers (k + 1) ('"' :: cs) = ((name, node) :: members, none, left) := by
  simp [readMembers, skipSpace, isSpace, hname, h, hmembers]

end Steps

/-! ## Values -/

theorem closed_writeItems (items : List Json) (rest : List Char) : Closed (writeItems items ++ rest) := by
  cases items <;> simp [writeItems, Closed]

theorem closed_writeMembers (members : List (String × Json)) (rest : List Char) :
    Closed (writeMembers members ++ rest) := by
  cases members <;> simp [writeMembers, Closed]

theorem length_writeItems (items : List Json) : 0 < (writeItems items).length := by
  cases items <;> simp [writeItems]

mutual

/-- **A written value is read to its end** and no further -/
theorem readValue_write : ∀ (v : Json) {fuel : Nat} {rest : List Char}, (∀ n, .number n ∈ v.leaves → n.ReadsBack) →
    Closed rest → 2 * v.write.length < fuel → readValue fuel (v.write ++ rest) = (Node.ofJson v, some rest)
  | v, 0, rest, _, _, hfuel => by omega
  | .null, fuel + 1, rest, _, _, _ => rfl
  | .boolean true, fuel + 1, rest, _, _, _ => rfl
  | .boolean false, fuel + 1, rest, _, _, _ => rfl
  | .number n, fuel + 1, rest, hnumbers, hrest, _ =>
    readValue_append (hnumbers n (by simp [leaves])) hrest fuel
  | .string s, fuel + 1, rest, _, _, _ => by
    have hquotation := readQuotation_escape s rest
    simp [write, writeString, readValue, skipSpace, isSpace, hquotation, Node.ofJson]
  | .array [], fuel + 1, rest, _, _, _ => rfl
  | .array (item :: items), fuel + 1, rest, hnumbers, hrest, hfuel => by
    have hpos := length_writeItems items
    simp only [write, List.length_cons, List.length_append] at hfuel
    obtain ⟨k, rfl⟩ : ∃ k, fuel = k + 2 := ⟨fuel - 2, by omega⟩
    have hitems := readItems_write item items hnumbers hrest (show _ ≤ k + 2 by omega)
    exact readValue_bracket hitems
  | .object [], fuel + 1, rest, _, _, _ => rfl
  | .object ((name, v) :: members), fuel + 1, rest, hnumbers, hrest, hfuel => by
    simp only [write, List.length_cons, List.length_append] at hfuel
    have hmembers := readMembers_write name v members hnumbers hrest (show _ ≤ fuel by omega)
    simpa [write, writeString, Node.ofJson] using readValue_brace hmembers
termination_by _ fuel => fuel

theorem readItems_write : ∀ (item : Json) (items : List Json) {fuel : Nat} {rest : List Char},
    (∀ n, .number n ∈ leavesOfItems (item :: items) → n.ReadsBack) → Closed rest →
    2 * (item.write.length + (writeItems items).length) ≤ fuel →
    readItems fuel (item.write ++ writeItems items ++ rest) = (Node.ofItems (item :: items), none, some rest)
  | item, [], fuel, rest, hnumbers, hrest, hfuel => by
    simp only [writeItems, List.length_cons] at hfuel
    obtain ⟨k, rfl⟩ : ∃ k, fuel = k + 1 := ⟨fuel - 1, by omega⟩
    have hitem := readValue_write item (fun n hn => hnumbers n (by simp [leavesOfItems, hn]))
      (closed_cons (.inr (.inl rfl)) rest) (show _ < k by omega)
    simpa [writeItems, Node.ofItems] using readItems_last hitem
  | item, next :: items, fuel, rest, hnumbers, hrest, hfuel => by
    have hpos := length_writeItems items
    simp only [writeItems, List.length_cons, List.length_append] at hfuel
    obtain ⟨k, rfl⟩ : ∃ k, fuel = k + 3 := ⟨fuel - 3, by omega⟩
    have hitem := readValue_write item (fun n hn => hnumbers n (by simp [leavesOfItems, hn]))
      (closed_writeItems (next :: items) rest) (show _ < k + 2 by omega)
    have hitems := readItems_write next items (fun n hn => hnumbers n (by simp_all [leavesOfItems])) hrest
      (show _ ≤ k + 2 by omega)
    simpa [writeItems, Node.ofItems] using readItems_comma hitem hitems
termination_by _ _ fuel => fuel

theorem readMembers_write : ∀ (name : String) (v : Json) (members : List (String × Json)) {fuel : Nat}
    {rest : List Char}, (∀ n, .number n ∈ leavesOfMembers ((name, v) :: members) → n.ReadsBack) → Closed rest →
    2 * ((writeString name).length + v.write.length + (writeMembers members).length) ≤ fuel →
    readMembers fuel (writeString name ++ ':' :: (v.write ++ writeMembers members) ++ rest) =
      (Node.ofJsonMembers ((name, v) :: members), none, some rest)
  | name, v, [], fuel, rest, hnumbers, hrest, hfuel => by
    simp only [writeMembers, writeString, List.length_cons] at hfuel
    obtain ⟨k, rfl⟩ : ∃ k, fuel = k + 1 := ⟨fuel - 1, by omega⟩
    have hname := readQuotation_escape name (':' :: (v.write ++ '}' :: rest))
    have hv := readValue_write v (fun n hn => hnumbers n (by simp [leavesOfMembers, hn]))
      (closed_cons (.inr (.inr rfl)) rest) (show _ < k by omega)
    simpa [writeMembers, writeString, Node.ofJsonMembers] using readMembers_last hname hv
  | name, v, (next, w) :: members, fuel, rest, hnumbers, hrest, hfuel => by
    simp only [writeMembers, writeString, List.length_cons, List.length_append] at hfuel
    obtain ⟨k, rfl⟩ : ∃ k, fuel = k + 1 := ⟨fuel - 1, by omega⟩
    have hname := readQuotation_escape name (':' :: (v.write ++ (writeMembers ((next, w) :: members) ++ rest)))
    have hv := readValue_write v (fun n hn => hnumbers n (by simp [leavesOfMembers, hn]))
      (closed_writeMembers ((next, w) :: members) rest) (show _ < k by omega)
    have hmembers := readMembers_write next w members (fun n hn => hnumbers n (by simp_all [leavesOfMembers])) hrest
      (show _ ≤ k by simp only [writeString, List.length_cons, List.length_append]; omega)
    simpa [writeMembers, writeString, Node.ofJsonMembers] using readMembers_comma hname hv hmembers
termination_by _ _ _ fuel => fuel

end

/-! ## What a written value means -/

theorem insertEntry_of_forall_lt {name : String} {v : Json} {l : List (String × Json)} (h : ∀ m ∈ l, m.1 < name) :
    insertEntry name v l = l ++ [(name, v)] := by
  induction l with
  | nil => rfl
  | cons m l ih =>
    have hlt := h m List.mem_cons_self
    have hne : name ≠ m.1 := fun he => String.lt_irrefl _ (he ▸ hlt)
    rw [insertEntry, if_neg (String.lt_asymm hlt), if_neg hne, ih fun m' hm' => h m' (List.mem_cons_of_mem _ hm'),
      List.cons_append]

theorem ofMembers_of_sorted {members : List (String × Json)} (h : members.Pairwise fun m n => m.1 < n.1) :
    ofMembers members = .object members := by
  suffices ∀ (l : List (String × Json)), (l ++ members).Pairwise (fun m n => m.1 < n.1) →
      members.foldl (fun sorted m => insertEntry m.1 m.2 sorted) l = l ++ members by
    rw [ofMembers, this [] h, List.nil_append]
  intro l hl
  induction members generalizing l with
  | nil => simp
  | cons m members ih =>
    have hlast : ∀ m' ∈ l, m'.1 < m.1 := fun m' hm' =>
      (List.pairwise_append.1 hl).2.2 m' hm' m List.mem_cons_self
    rw [List.append_cons] at hl
    rw [List.foldl_cons, insertEntry_of_forall_lt hlast, ih (List.pairwise_cons.1 h).2 _ hl, List.append_assoc,
      List.singleton_append]

mutual

/-- a value in full is its own value, or nested too deep -/
theorem value_ofJson : ∀ (v : Json) {d : Nat}, v.WellFormed →
    (Node.ofJson v).value d = if v.depth ≤ d then .ok v else .error .malformed
  | .null, d, _ => by cases d <;> rfl
  | .boolean b, d, _ => by cases d <;> rfl
  | .number n, d, _ => by cases d <;> rfl
  | .string s, d, _ => by cases d <;> rfl
  | .array items, 0, _ => by simp [Node.ofJson, Node.value, depth]
  | .array items, d + 1, .array hitems => by
    have hvalues := valueItems_ofItems items (d := d) hitems
    rw [Node.ofJson, Node.value, hvalues, depth]
    by_cases hd : depthOfItems items ≤ d <;> simp [hd] <;> rfl
  | .object members, 0, _ => by simp [Node.ofJson, Node.value, depth]
  | .object members, d + 1, .object hsorted hmembers => by
    have hvalues := valueMembers_ofJsonMembers members (d := d) hmembers
    rw [Node.ofJson, Node.value, hvalues, depth, ← ofMembers_of_sorted hsorted]
    by_cases hd : depthOfMembers members ≤ d <;> simp [hd] <;> rfl

theorem valueItems_ofItems : ∀ (items : List Json) {d : Nat}, (∀ item ∈ items, item.WellFormed) →
    Node.valueItems d (Node.ofItems items) = if depthOfItems items ≤ d then .ok items else .error .malformed
  | [], d, _ => by cases d <;> rfl
  | item :: items, d, hitems => by
    have hitem := value_ofJson item (d := d) (hitems item List.mem_cons_self)
    have hrest := valueItems_ofItems items (d := d) fun i hi => hitems i (List.mem_cons_of_mem _ hi)
    rw [Node.ofItems, Node.valueItems, hitem, hrest, depthOfItems]
    by_cases hd : item.depth ≤ d <;> by_cases hds : depthOfItems items ≤ d <;> simp [hd, hds] <;> rfl

theorem valueMembers_ofJsonMembers : ∀ (members : List (String × Json)) {d : Nat},
    (∀ m ∈ members, m.2.WellFormed) → Node.valueMembers d (Node.ofJsonMembers members) =
      if depthOfMembers members ≤ d then .ok members else .error .malformed
  | [], d, _ => by cases d <;> rfl
  | (name, v) :: members, d, hmembers => by
    have hv := value_ofJson v (d := d) (hmembers (name, v) List.mem_cons_self)
    have hrest := valueMembers_ofJsonMembers members (d := d) fun m hm => hmembers m (List.mem_cons_of_mem _ hm)
    rw [Node.ofJsonMembers, Node.valueMembers, hv, hrest, depthOfMembers]
    by_cases hd : v.depth ≤ d <;> by_cases hds : depthOfMembers members ≤ d <;> simp [hd, hds] <;> rfl

end

/-- **The compact text of a value is a text of that value**, if its numbers read back and it is not nested too deep;
nested deeper it is no text of any value -/
theorem parse_compact {v : Json} (hv : v.WellFormed) (hnumbers : ∀ n, .number n ∈ v.leaves → n.ReadsBack) :
    parse v.compact = if v.depth ≤ maxDepth then .ok v else .error .malformed := by
  have hread := readValue_write v hnumbers closed_nil (show _ < 2 * v.write.length + 2 by omega)
  rw [List.append_nil] at hread
  rw [parse, compact, String.toList_ofList, readNode, hread]
  simp only [value_ofJson v hv]
  by_cases hd : v.depth ≤ maxDepth <;> simp only [hd, if_true, if_false] <;> rfl

end Json

end EntityGateway
