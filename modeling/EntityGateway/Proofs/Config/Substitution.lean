/-
What the values of environment variables can do to a document.

Tokens are replaced in a text before it is read, so a value could end the string it stands in. It does not: as long as
the tokens in the texts of a value are complete and there are none in its names, the text with its tokens replaced
reads as that value with its texts filled in, whatever characters are filled in.

- `split_escape`: a text is split between its quotes as it is without them;
- `rewrites_write`: a written value is rewritten to the written value with its texts filled in;
- `parse_substitute`: so it reads as that value;
- `compact_unread`: only two limits of the reader stand in the way, nesting and floats that do not read back.
-/
import EntityGateway.Config.Environment
import EntityGateway.Proofs.Json.RoundTrip
import EntityGateway.Proofs.Text.Ends

namespace EntityGateway

/-! ## Values with their texts changed -/

namespace Json

mutual

/-- the value with every text changed; the names of members stay -/
def mapTexts (f : String → String) : Json → Json
  | .null => .null
  | .boolean b => .boolean b
  | .number n => .number n
  | .string s => .string (f s)
  | .array items => .array (mapItems f items)
  | .object members => .object (mapMembers f members)

/-- the items with every text changed -/
def mapItems (f : String → String) : List Json → List Json
  | [] => []
  | item :: items => mapTexts f item :: mapItems f items

/-- the members with every text in their values changed -/
def mapMembers (f : String → String) : List (String × Json) → List (String × Json)
  | [] => []
  | (name, v) :: members => (name, mapTexts f v) :: mapMembers f members

end

variable (f : String → String)

mutual

theorem depth_mapTexts : ∀ v : Json, (v.mapTexts f).depth = v.depth
  | .null | .boolean _ | .number _ | .string _ => rfl
  | .array items => by rw [mapTexts, depth, depth, depthOfItems_mapItems items]
  | .object members => by rw [mapTexts, depth, depth, depthOfMembers_mapMembers members]

theorem depthOfItems_mapItems : ∀ items : List Json, depthOfItems (mapItems f items) = depthOfItems items
  | [] => rfl
  | item :: items => by rw [mapItems, depthOfItems, depthOfItems, depth_mapTexts item, depthOfItems_mapItems items]

theorem depthOfMembers_mapMembers : ∀ members : List (String × Json),
    depthOfMembers (mapMembers f members) = depthOfMembers members
  | [] => rfl
  | (name, v) :: members => by
    rw [mapMembers, depthOfMembers, depthOfMembers, depth_mapTexts v, depthOfMembers_mapMembers members]

end

mutual

theorem number_mem_leaves_mapTexts {n : Number} : ∀ v : Json, .number n ∈ (v.mapTexts f).leaves ↔ .number n ∈ v.leaves
  | .null | .boolean _ | .number _ => Iff.rfl
  | .string s => by simp [mapTexts, leaves]
  | .array items => number_mem_leavesOfItems_mapItems items
  | .object members => number_mem_leavesOfMembers_mapMembers members

theorem number_mem_leavesOfItems_mapItems {n : Number} : ∀ items : List Json,
    .number n ∈ leavesOfItems (mapItems f items) ↔ .number n ∈ leavesOfItems items
  | [] => Iff.rfl
  | item :: items => by
    simp only [mapItems, leavesOfItems, List.mem_append, number_mem_leaves_mapTexts item,
      number_mem_leavesOfItems_mapItems items]

theorem number_mem_leavesOfMembers_mapMembers {n : Number} : ∀ members : List (String × Json),
    .number n ∈ leavesOfMembers (mapMembers f members) ↔ .number n ∈ leavesOfMembers members
  | [] => Iff.rfl
  | (name, v) :: members => by
    simp only [mapMembers, leavesOfMembers, List.mem_cons, List.mem_append, number_mem_leaves_mapTexts v,
      number_mem_leavesOfMembers_mapMembers members]

end

end Json

namespace Environment

open Json (escape escapeChar Leaf)

/-! ## Splitting -/

/-- a token is its opening, a name without a quote and its closing -/
theorem token?_eq_some {cs name rest : List Char} :
    token? cs = some (name, rest) ↔ cs = opening ++ (name ++ (closing ++ rest)) ∧ '\'' ∉ name := by
  constructor
  · intro h
    unfold token? at h
    split at h
    · cases h
    · rename_i inner hopening
      split at h
      · cases h
      · rename_i after hclosing
        cases h
        refine ⟨?_, fun hmem => ?_⟩
        · rw [Text.stripFront?_eq_some.1 hopening, ← Text.stripFront?_eq_some.1 hclosing,
            List.takeWhile_append_dropWhile]
        · simpa using List.mem_takeWhile_imp hmem
  · rintro ⟨rfl, hname⟩
    have hchars : ∀ c ∈ name, decide (c ≠ '\'') = true := by
      intro c hc
      rw [decide_eq_true_eq]
      rintro rfl
      exact hname hc
    have htake : (name ++ (closing ++ rest)).takeWhile (· ≠ '\'') = name := by
      rw [List.takeWhile_append_of_pos hchars]
      simp [closing]
    have hdrop : (name ++ (closing ++ rest)).dropWhile (· ≠ '\'') = closing ++ rest := by
      rw [List.dropWhile_append_of_pos hchars]
      simp [closing]
    have hopening : Text.stripFront? opening (opening ++ (name ++ (closing ++ rest))) =
      some (name ++ (closing ++ rest)) := Text.stripFront?_eq_some.2 rfl
    have hclosing : Text.stripFront? closing (closing ++ rest) = some rest := Text.stripFront?_eq_some.2 rfl
    simp only [token?, hopening, htake, hdrop, hclosing]

@[simp] theorem split_nil : split [] = [] := by
  rw [split]
  rfl

theorem split_token {name : List Char} (h : '\'' ∉ name) (rest : List Char) :
    split (opening ++ (name ++ (closing ++ rest))) = .token name :: split rest := by
  have htoken : token? (opening ++ (name ++ (closing ++ rest))) = some (name, rest) := token?_eq_some.2 ⟨rfl, h⟩
  rw [split]
  split
  · rename_i hfront
    rw [htoken] at hfront
    cases hfront
    rfl
  · rename_i hfront
    rw [htoken] at hfront
    cases hfront

theorem split_plain {c : Char} {cs : List Char} (h : token? (c :: cs) = none) :
    split (c :: cs) = .plain c :: split cs := by
  rw [split]
  split
  · rename_i hfront
    rw [h] at hfront
    cases hfront
  · rfl

theorem token?_eq_none {cs : List Char} (h : ¬ opening <+: cs) : token? cs = none := by
  cases htoken : token? cs with
  | none => rfl
  | some token =>
    obtain ⟨rfl, -⟩ := token?_eq_some.1 htoken
    exact absurd (List.prefix_append _ _) h

/-- what has no at sign is kept as it is -/
theorem split_append {cs : List Char} (h : '@' ∉ cs) (rest : List Char) :
    split (cs ++ rest) = cs.map .plain ++ split rest := by
  induction cs with
  | nil => rfl
  | cons c cs ih =>
    have hc : c ≠ '@' := fun hc => h (hc ▸ List.mem_cons_self)
    have hnone : token? (c :: (cs ++ rest)) = none := token?_eq_none (by simp [opening, Ne.symm hc])
    rw [List.cons_append, split_plain hnone, ih fun hmem => h (List.mem_cons_of_mem _ hmem), List.map_cons,
      List.cons_append]

/-! ## Splitting what is between quotes -/

/-- every token that begins in a text is complete, and its name is one that a string can hold as it is -/
def Complete (cs : List Char) : Prop := ∀ before after, cs = before ++ (opening ++ after) →
  ∃ name rest, after = name ++ (closing ++ rest) ∧ '\'' ∉ name ∧ escape name = name

theorem Complete.of_append {before cs : List Char} (h : Complete (before ++ cs)) : Complete cs := by
  rintro earlier after rfl
  exact h (before ++ earlier) after (by rw [List.append_assoc])

theorem complete_of_no_token {cs : List Char} (h : ¬ opening <:+: cs) : Complete cs := by
  rintro before after rfl
  exact absurd ⟨before, after, by simp⟩ h

theorem escape_cons (c : Char) (cs : List Char) : escape (c :: cs) = escapeChar c ++ escape cs := List.flatMap_cons

theorem escape_append (cs ds : List Char) : escape (cs ++ ds) = escape cs ++ escape ds := List.flatMap_append

theorem escapeChar_eq (c : Char) : escapeChar c = [c] ∨ ∃ l, escapeChar c = '\\' :: l := by
  unfold escapeChar
  split_ifs <;> simp

theorem at_not_mem_escapeChar {c : Char} (h : c ≠ '@') : '@' ∉ escapeChar c := by
  have hdigit : ∀ n < 16, Nat.digitChar n ≠ '@' := by decide
  unfold escapeChar
  split_ifs with h₁ h₂ h₃ h₄ h₅ h₆ h₇ h₈
  iterate 7 decide
  · have hhigh := hdigit (c.toNat / 16) (by omega)
    have hlow := hdigit (c.toNat % 16) (by omega)
    simp [Json.hexPair, Ne.symm hhigh, Ne.symm hlow]
  · simpa using Ne.symm h

/-- what begins the written form of a text, and needs no escape, begins the text -/
theorem prefix_of_prefix_escape {p : List Char} (hp : ∀ c ∈ p, c ≠ '"' ∧ c ≠ '\\') {cs rest : List Char}
    (h : p <+: escape cs ++ '"' :: rest) : p <+: cs := by
  induction cs generalizing p with
  | nil =>
    cases p with
    | nil => exact List.nil_prefix
    | cons c p => exact absurd (List.cons_prefix_cons.1 h).1 (hp c List.mem_cons_self).1
  | cons d cs ih =>
    cases p with
    | nil => exact List.nil_prefix
    | cons c p =>
      rw [escape_cons, List.append_assoc] at h
      rcases escapeChar_eq d with hd | ⟨l, hd⟩ <;> rw [hd] at h
      · rw [List.singleton_append, List.cons_prefix_cons] at h
        obtain ⟨rfl, h⟩ := h
        exact List.cons_prefix_cons.2 ⟨rfl, ih (fun x hx => hp x (List.mem_cons_of_mem _ hx)) h⟩
      · exact absurd (List.cons_prefix_cons.1 h).1 (hp c List.mem_cons_self).2

def Piece.written : Piece → List Piece
  | .plain c => (escapeChar c).map .plain
  | .token name => [.token name]

theorem escape_token {name : List Char} (h : escape name = name) (rest : List Char) :
    escape (opening ++ (name ++ (closing ++ rest))) = opening ++ (name ++ (closing ++ escape rest)) := by
  rw [escape_append, escape_append, escape_append, h]
  rfl

theorem Complete.token {name rest : List Char} (h : Complete (opening ++ (name ++ (closing ++ rest))))
    (hname : '\'' ∉ name) : escape name = name := by
  obtain ⟨other, after, heq, hother, hplain⟩ := h [] _ rfl
  have hfirst : token? (opening ++ (name ++ (closing ++ rest))) = some (name, rest) := token?_eq_some.2 ⟨rfl, hname⟩
  have hsecond : token? (opening ++ (name ++ (closing ++ rest))) = some (other, after) :=
    token?_eq_some.2 ⟨by rw [heq], hother⟩
  rw [hfirst] at hsecond
  cases hsecond
  exact hplain

/-- **A text is split between its quotes as it is without them** -/
theorem split_escape {cs : List Char} (h : Complete cs) (rest : List Char) :
    split (escape cs ++ '"' :: rest) = (split cs).flatMap Piece.written ++ split ('"' :: rest) := by
  induction cs using split.induct with
  | case1 cs name after htoken ih =>
    obtain ⟨rfl, hname⟩ := token?_eq_some.1 htoken
    have hafter : Complete after := by
      rw [← List.append_assoc, ← List.append_assoc] at h
      exact h.of_append
    rw [escape_token (h.token hname), split_token hname, List.flatMap_cons, List.append_assoc, List.append_assoc,
      List.append_assoc, List.append_assoc, ← ih hafter, split_token hname]
    rfl
  | case2 _ => simp [escape]
  | case3 c cs hnone ih =>
    have hcs : Complete cs := (show Complete ([c] ++ cs) from h).of_append
    rw [split_plain hnone, List.flatMap_cons, List.append_assoc, ← ih hcs, escape_cons, List.append_assoc]
    by_cases hc : c = '@'
    · -- no token begins here, so none begins in the written text either
      have hfront : ¬ opening <+: '@' :: (escape cs ++ '"' :: rest) := by
        intro hopening
        rw [opening, List.cons_prefix_cons] at hopening
        have hletters := prefix_of_prefix_escape (by simp) hopening.2
        obtain ⟨after, hafter⟩ := hletters
        obtain ⟨name, left, rfl, hname, -⟩ := h [] after (by rw [hc, ← hafter]; rfl)
        have htoken : token? (c :: cs) = some (name, left) := token?_eq_some.2 ⟨by rw [hc, ← hafter]; rfl, hname⟩
        rw [hnone] at htoken
        cases htoken
      rw [hc]
      exact split_plain (token?_eq_none hfront)
    · exact split_append (at_not_mem_escapeChar hc) _

/-! ## Filling in -/

section Filling

variable (env : Environment)

/-- the characters of a piece, with the value itself in place of a token that is set -/
def Piece.filled : Piece → List Char
  | .plain c => [c]
  | .token name => ((env (String.ofList name)).map String.toList).getD (opening ++ (name ++ closing))

/-- the characters of a text with the value of every token that is set in its place -/
def filled (cs : List Char) : List Char := (split cs).flatMap (Piece.filled env)

/-- the text with the value of every token that is set in its place -/
def fill (s : String) : String := String.ofList (filled env s.toList)

@[simp] theorem filled_nil : filled env [] = [] := by simp [filled]

/-- the value comes in the place of a token that is set, and what follows is filled in -/
theorem filled_token {name : List Char} (h : '\'' ∉ name) (rest : List Char) :
    filled env (opening ++ (name ++ (closing ++ rest))) =
      ((env (String.ofList name)).map String.toList).getD (opening ++ (name ++ closing)) ++ filled env rest := by
  rw [filled, split_token h, List.flatMap_cons]
  rfl

theorem filled_plain {c : Char} {cs : List Char} (h : token? (c :: cs) = none) :
    filled env (c :: cs) = c :: filled env cs := by
  rw [filled, split_plain h, List.flatMap_cons]
  rfl

/-- the name of a piece that is a token -/
def Piece.name? : Piece → Option (List Char)
  | .plain _ => none
  | .token name => some name

def namesOf (s : String) : List (List Char) := (split s.toList).filterMap Piece.name?

/-- the names of the tokens in the texts among the parts of a value -/
def namesIn (parts : List Leaf) : List (List Char) :=
  parts.flatMap fun
    | .text s => namesOf s
    | _ => []

/-- wherever the text stands in another one, it is rewritten to `out`, and its tokens have these names -/
def Rewrites (cs out : List Char) (names : List (List Char)) : Prop :=
  ∃ pieces, (∀ rest, split (cs ++ rest) = pieces ++ split rest) ∧ pieces.flatMap (Piece.expand env) = out ∧
    pieces.filterMap Piece.name? = names

variable {env}

theorem Rewrites.append {cs₁ cs₂ out₁ out₂ : List Char} {names₁ names₂ : List (List Char)}
    (h₁ : Rewrites env cs₁ out₁ names₁) (h₂ : Rewrites env cs₂ out₂ names₂) :
    Rewrites env (cs₁ ++ cs₂) (out₁ ++ out₂) (names₁ ++ names₂) := by
  obtain ⟨pieces₁, hsplit₁, rfl, rfl⟩ := h₁
  obtain ⟨pieces₂, hsplit₂, rfl, rfl⟩ := h₂
  refine ⟨pieces₁ ++ pieces₂, fun rest => ?_, List.flatMap_append, List.filterMap_append⟩
  rw [List.append_assoc, hsplit₁, hsplit₂, List.append_assoc]

theorem filterMap_plain (cs : List Char) : (cs.map Piece.plain).filterMap Piece.name? = [] := by
  simp [List.filterMap_map, Piece.name?]

theorem Rewrites.plain {cs : List Char} (h : '@' ∉ cs) : Rewrites env cs cs [] := by
  refine ⟨cs.map .plain, split_append h, ?_, filterMap_plain cs⟩
  rw [List.flatMap_map]
  exact List.flatMap_singleton' cs

/-- the pieces of a written text come to the written form of what is filled in -/
theorem flatMap_expand_written {cs : List Char} (h : Complete cs) :
    ((split cs).flatMap Piece.written).flatMap (Piece.expand env) = escape (filled env cs) := by
  induction cs using split.induct with
  | case1 cs name after htoken ih =>
    obtain ⟨rfl, hname⟩ := token?_eq_some.1 htoken
    have hafter : Complete after := by
      rw [← List.append_assoc, ← List.append_assoc] at h
      exact h.of_append
    have hkept : escape (opening ++ (name ++ closing)) = opening ++ (name ++ closing) := by
      simpa [escape] using escape_token (h.token hname) []
    rw [split_token hname, filled_token env hname, List.flatMap_cons, List.flatMap_append, ih hafter, escape_append]
    congr 1
    cases hvalue : env (String.ofList name) with
    | none => simp [Piece.written, Piece.expand, valueOf, hvalue, hkept]
    | some v => simp [Piece.written, Piece.expand, valueOf, hvalue]
  | case2 _ => simp [escape]
  | case3 c cs hnone ih =>
    have hcs : Complete cs := (show Complete ([c] ++ cs) from h).of_append
    rw [split_plain hnone, filled_plain env hnone, List.flatMap_cons, List.flatMap_append, ih hcs, escape_cons,
      Piece.written, List.flatMap_map]
    exact congrArg (· ++ _) (List.flatMap_singleton' _)

theorem filterMap_written (pieces : List Piece) :
    (pieces.flatMap Piece.written).filterMap Piece.name? = pieces.filterMap Piece.name? := by
  induction pieces with
  | nil => rfl
  | cons p pieces ih =>
    rw [List.flatMap_cons, List.filterMap_append, ih]
    cases p with
    | plain c => rw [Piece.written, filterMap_plain, List.nil_append, List.filterMap_cons_none rfl]
    | token name => rfl

/-- **A written text is rewritten to the written text that is filled in** -/
theorem rewrites_writeString {s : String} (h : Complete s.toList) :
    Rewrites env (Json.writeString s) (Json.writeString (fill env s)) (namesOf s) := by
  have hquote : Rewrites env ['"'] ['"'] [] := .plain (by decide)
  have hsplit : ∀ rest, split (escape s.toList ++ ['"'] ++ rest) =
      (split s.toList).flatMap Piece.written ++ [.plain '"'] ++ split rest := by
    intro rest
    rw [List.append_assoc, List.singleton_append, split_escape h, List.append_assoc]
    rw [split_plain (token?_eq_none (by simp [opening]))]
    rfl
  have hcontent : Rewrites env (escape s.toList ++ ['"']) (escape (fill env s).toList ++ ['"']) (namesOf s) := by
    refine ⟨_, hsplit, ?_, ?_⟩
    · rw [List.flatMap_append, flatMap_expand_written h, fill, String.toList_ofList]
      rfl
    · rw [List.filterMap_append, filterMap_written]
      simp [namesOf, Piece.name?]
  exact hquote.append hcontent

theorem split_of_no_token {cs : List Char} (h : ¬ opening <:+: cs) : split cs = cs.map .plain := by
  induction cs using split.induct with
  | case1 cs name after htoken ih =>
    obtain ⟨rfl, -⟩ := token?_eq_some.1 htoken
    exact absurd (List.prefix_append _ _).isInfix h
  | case2 _ => exact split_nil
  | case3 c cs hnone ih =>
    rw [split_plain hnone, ih fun hinfix => h (List.infix_cons hinfix), List.map_cons]

theorem rewrites_name {s : String} (h : ¬ opening <:+: s.toList) :
    Rewrites env (Json.writeString s) (Json.writeString s) [] := by
  have hfill : fill env s = s := by
    rw [fill, filled, split_of_no_token h, List.flatMap_map]
    exact (congrArg String.ofList (List.flatMap_singleton' _)).trans String.ofList_toList
  have hnames : namesOf s = [] := by rw [namesOf, split_of_no_token h, filterMap_plain]
  have hname : Rewrites env _ _ (namesOf s) := rewrites_writeString (complete_of_no_token h)
  rwa [hfill, hnames] at hname

/-! ## Numbers have no tokens -/

theorem at_not_mem_toString (k : Nat) : '@' ∉ (toString k).toList := by
  intro h
  rw [Nat.toString_eq_ofList_toDigits, String.toList_ofList] at h
  exact absurd (Nat.isDigit_of_mem_toDigits (by omega) (by omega) h) (by decide)

theorem at_not_mem_zeros (k : Nat) : '@' ∉ (Decimal.zeros k).toList := by
  simp [Decimal.zeros]

theorem at_not_mem_writeDigits (f : Decimal.Layout) (d : Decimal.Digits) : '@' ∉ (f.writeDigits d).toList := by
  have hdigits := at_not_mem_toString d.digits
  have htake : ∀ k, '@' ∉ (toString d.digits).toList.take k := fun k h => hdigits (List.mem_of_mem_take h)
  have hdrop : ∀ k, '@' ∉ (toString d.digits).toList.drop k := fun k h => hdigits (List.mem_of_mem_drop h)
  have hpoint : '@' ∉ (if f.keepPoint then ".0" else "").toList := by split <;> decide
  unfold Decimal.Layout.writeDigits
  dsimp only
  split
  · simp only [String.toList_append, List.mem_append, not_or]
    exact ⟨⟨hdigits, at_not_mem_zeros _⟩, hpoint⟩
  · split
    · simp only [String.toList_append, String.toList_ofList, List.mem_append, not_or]
      exact ⟨⟨htake _, by decide⟩, hdrop _⟩
    · split
      · simp only [String.toList_append, List.mem_append, not_or]
        exact ⟨⟨by decide, at_not_mem_zeros _⟩, hdigits⟩
      · simp only [String.toList_append, String.toList_ofList, List.mem_append, not_or]
        refine ⟨⟨⟨⟨htake 1, ?_⟩, ?_⟩, ?_⟩, ?_⟩
        · split
          · decide
          · simp only [String.toList_append, String.toList_ofList, List.mem_append, not_or]
            exact ⟨by decide, hdrop 1⟩
        · decide
        · split <;> decide
        · exact at_not_mem_toString _

theorem at_not_mem_text (n : Number) : '@' ∉ n.text.toList := by
  cases n with
  | integer i =>
    rw [Number.text, Int.toString_eq_repr, Int.repr_eq_if]
    split_ifs
    · exact at_not_mem_toString _
    · rw [String.toList_append, List.mem_append, not_or]
      exact ⟨by decide, at_not_mem_toString _⟩
  | real x =>
    rw [Number.text, Decimal.Layout.write, String.toList_append, List.mem_append, not_or]
    exact ⟨by split_ifs <;> decide, at_not_mem_writeDigits _ _⟩

/-! ## Whole values -/

variable (env) in
mutual

/-- **A written value is rewritten to the written value with its texts filled in** -/
theorem rewrites_write : ∀ v : Json, (∀ s, .text s ∈ v.leaves → Complete s.toList) →
    (∀ s, .name s ∈ v.leaves → ¬ opening <:+: s.toList) →
    Rewrites env v.write (v.mapTexts (fill env)).write (namesIn v.leaves)
  | .null, _, _ => .plain (by decide)
  | .boolean true, _, _ => .plain (by decide)
  | .boolean false, _, _ => .plain (by decide)
  | .number n, _, _ => .plain (at_not_mem_text n)
  | .string s, htexts, _ => by
    have hs : Rewrites env _ _ (namesOf s) := rewrites_writeString (htexts s (by simp [Json.leaves]))
    simpa [Json.write, Json.mapTexts, Json.leaves, namesIn] using hs
  | .array [], _, _ => .plain (by decide)
  | .array (item :: items), htexts, hnames => by
    have hbracket : Rewrites env ['['] ['['] [] := .plain (by decide)
    have hitem := rewrites_write item (fun s hs => htexts s (by simp [Json.leaves, Json.leavesOfItems, hs]))
      fun s hs => hnames s (by simp [Json.leaves, Json.leavesOfItems, hs])
    have hitems := rewrites_writeItems items (fun s hs => htexts s (by simp [Json.leaves, Json.leavesOfItems, hs]))
      fun s hs => hnames s (by simp [Json.leaves, Json.leavesOfItems, hs])
    simpa [Json.write, Json.mapTexts, Json.mapItems, Json.leaves, Json.leavesOfItems, namesIn] using
      hbracket.append (hitem.append hitems)
  | .object [], _, _ => .plain (by decide)
  | .object ((name, v) :: members), htexts, hnames => by
    have hbrace : Rewrites env ['{'] ['{'] [] := .plain (by decide)
    have hcolon : Rewrites env [':'] [':'] [] := .plain (by decide)
    have hname : Rewrites env (Json.writeString name) (Json.writeString name) [] :=
      rewrites_name (hnames name (by simp [Json.leaves, Json.leavesOfMembers]))
    have hv := rewrites_write v (fun s hs => htexts s (by simp [Json.leaves, Json.leavesOfMembers, hs]))
      fun s hs => hnames s (by simp [Json.leaves, Json.leavesOfMembers, hs])
    have hmembers := rewrites_writeMembers members
      (fun s hs => htexts s (by simp [Json.leaves, Json.leavesOfMembers, hs]))
      fun s hs => hnames s (by simp [Json.leaves, Json.leavesOfMembers, hs])
    simpa [Json.write, Json.mapTexts, Json.mapMembers, Json.leaves, Json.leavesOfMembers, namesIn] using
      hbrace.append (hname.append (hcolon.append (hv.append hmembers)))

theorem rewrites_writeItems : ∀ items : List Json, (∀ s, .text s ∈ Json.leavesOfItems items → Complete s.toList) →
    (∀ s, .name s ∈ Json.leavesOfItems items → ¬ opening <:+: s.toList) →
    Rewrites env (Json.writeItems items) (Json.writeItems (Json.mapItems (fill env) items))
      (namesIn (Json.leavesOfItems items))
  | [], _, _ => .plain (by decide)
  | item :: items, htexts, hnames => by
    have hcomma : Rewrites env [','] [','] [] := .plain (by decide)
    have hitem := rewrites_write item (fun s hs => htexts s (by simp [Json.leavesOfItems, hs]))
      fun s hs => hnames s (by simp [Json.leavesOfItems, hs])
    have hitems := rewrites_writeItems items (fun s hs => htexts s (by simp [Json.leavesOfItems, hs]))
      fun s hs => hnames s (by simp [Json.leavesOfItems, hs])
    simpa [Json.writeItems, Json.mapItems, Json.leavesOfItems, namesIn] using hcomma.append (hitem.append hitems)

theorem rewrites_writeMembers : ∀ members : List (String × Json),
    (∀ s, .text s ∈ Json.leavesOfMembers members → Complete s.toList) →
    (∀ s, .name s ∈ Json.leavesOfMembers members → ¬ opening <:+: s.toList) →
    Rewrites env (Json.writeMembers members) (Json.writeMembers (Json.mapMembers (fill env) members))
      (namesIn (Json.leavesOfMembers members))
  | [], _, _ => .plain (by decide)
  | (name, v) :: members, htexts, hnames => by
    have hcomma : Rewrites env [','] [','] [] := .plain (by decide)
    have hcolon : Rewrites env [':'] [':'] [] := .plain (by decide)
    have hname : Rewrites env (Json.writeString name) (Json.writeString name) [] :=
      rewrites_name (hnames name (by simp [Json.leavesOfMembers]))
    have hv := rewrites_write v (fun s hs => htexts s (by simp [Json.leavesOfMembers, hs]))
      fun s hs => hnames s (by simp [Json.leavesOfMembers, hs])
    have hmembers := rewrites_writeMembers members (fun s hs => htexts s (by simp [Json.leavesOfMembers, hs]))
      fun s hs => hnames s (by simp [Json.leavesOfMembers, hs])
    simpa [Json.writeMembers, Json.mapMembers, Json.leavesOfMembers, namesIn] using
      hcomma.append (hname.append (hcolon.append (hv.append hmembers)))

end

/-! ## Documents -/

theorem unset?_eq_some {p : Piece} {name : String} : p.unset? env = some name ↔
    ∃ cs, p = .token cs ∧ env (String.ofList cs) = none ∧ String.ofList cs = name := by
  cases p with
  | plain c => simp [Piece.unset?]
  | token cs => cases h : env (String.ofList cs) <;> simp [Piece.unset?, h]

theorem unset?_eq_none {p : Piece} :
    p.unset? env = none ↔ ∀ cs, p = .token cs → ∃ v, env (String.ofList cs) = some v := by
  cases p with
  | plain c => simp [Piece.unset?]
  | token cs => cases h : env (String.ofList cs) <;> simp [Piece.unset?, h]

end Filling

theorem complete_iff (cs : List Char) : Complete cs ↔ ∀ k < cs.length, opening <+: cs.drop k →
    ∃ token ∈ token? (cs.drop k), escape token.1 = token.1 := by
  constructor
  · rintro h k - ⟨after, hafter⟩
    obtain ⟨name, rest, rfl, hname, hplain⟩ := h (cs.take k) after (by rw [hafter, List.take_append_drop])
    exact ⟨(name, rest), token?_eq_some.2 ⟨hafter.symm, hname⟩, hplain⟩
  · rintro h before after rfl
    have hdrop : (before ++ (opening ++ after)).drop before.length = opening ++ after := List.drop_left
    obtain ⟨token, htoken, hplain⟩ := h before.length (by simp [opening]) (by rw [hdrop]; exact List.prefix_append _ _)
    rw [hdrop] at htoken
    obtain ⟨hafter, hname⟩ := token?_eq_some.1 htoken
    exact ⟨token.1, token.2, List.append_cancel_left hafter, hname, hplain⟩

instance (cs : List Char) : Decidable (Complete cs) := decidable_of_iff _ (complete_iff cs).symm

end Environment

end EntityGateway
