/-
Names of types and their root fields.

A type has the name of its entity or the one that the entity gives it, and nothing else makes a type. What the root
fields are called follows from that name: its first letter is put in lower case, a plural is formed, and a verb or an
ending is added. Of a legal name all of that makes legal names again, and the plural is cut between characters. The one
name that is taken as it is written is a plural that an entity gives itself.

- `isName_iff`: legal names as ranges of characters;
- `isLegal_lowerFirst_iff`: what comes to a legal name with its first character in lower case;
- `ofConfig?_eq`: no plural is cut inside a character;
- `entries_ofConfig`: the types of a configuration, one for each entity that has one;
- `generated_names_are_legal_iff`: which names are legal.
-/
import EntityGateway.Proofs.Served.Criteria
import EntityGateway.Proofs.Unicode.Lowercase
import EntityGateway.Proofs.Json.Rearrangement
import Mathlib.Data.String.Basic

namespace EntityGateway

/-! ## Characters of names -/

namespace TypeCatalog

/-- a letter of ASCII or the underscore -/
def Begins (c : Char) : Prop := c = '_' ∨ ('A' ≤ c ∧ c ≤ 'Z') ∨ ('a' ≤ c ∧ c ≤ 'z')

/-- such a character or a digit of ASCII -/
def Continues (c : Char) : Prop := Begins c ∨ ('0' ≤ c ∧ c ≤ '9')

/-- a legal name in GraphQL: a character that may begin one, and others that may continue it -/
def IsLegal (s : String) : Prop := ∃ c cs, s.toList = c :: cs ∧ Begins c ∧ ∀ d ∈ cs, Continues d

variable {c : Char} {s t : String}

theorem isNameStart_iff : isNameStart c = true ↔ Begins c := by
  have hupper : c.isUpper = true ↔ 'A' ≤ c ∧ c ≤ 'Z' := decide_eq_true_iff
  have hlower : c.isLower = true ↔ 'a' ≤ c ∧ c ≤ 'z' := by
    rw [← decide_eq_true_iff (p := 'a' ≤ c), ← decide_eq_true_iff (p := c ≤ 'z')]
    exact Bool.and_eq_true_iff
  unfold isNameStart Begins
  rw [Bool.or_eq_true, decide_eq_true_iff, ← hupper, ← hlower]
  exact or_congr_right (Bool.or_eq_true_iff ..)

theorem continues_iff : (isNameStart c || c.isDigit) = true ↔ Continues c := by
  simp only [Continues, Char.isDigit, Char.le_def, Bool.or_eq_true, Bool.and_eq_true, decide_eq_true_eq, ge_iff_le,
    isNameStart_iff]

instance : DecidablePred Begins := fun _ => decidable_of_iff _ isNameStart_iff

instance : DecidablePred Continues := fun _ => decidable_of_iff _ continues_iff

/-- **The check of names lets legal names pass**, and no others -/
theorem isName_iff : isName s = true ↔ IsLegal s := by
  unfold isName IsLegal
  cases s.toList with
  | nil => simp
  | cons c cs =>
    simp only [Bool.and_eq_true, List.all_eq_true, isNameStart_iff, continues_iff, List.cons.injEq]
    constructor
    · rintro ⟨hc, hcs⟩
      exact ⟨c, cs, ⟨rfl, rfl⟩, hc, hcs⟩
    · rintro ⟨_, _, ⟨rfl, rfl⟩, hc, hcs⟩
      exact ⟨hc, hcs⟩

instance : DecidablePred IsLegal := fun _ => decidable_of_iff _ isName_iff

theorem Continues.lt (h : Continues c) : c.toNat < 128 := by
  have hle : ∀ {d : Char}, c ≤ d → c.toNat ≤ d.toNat := fun h => Char.le_def.1 h
  rcases h with (rfl | ⟨-, h⟩ | ⟨-, h⟩) | ⟨-, h⟩
  · decide
  all_goals exact Nat.lt_of_le_of_lt (hle h) (by decide)

theorem IsLegal.continues (h : IsLegal s) : ∀ c ∈ s.toList, Continues c := by
  obtain ⟨c, cs, hs, hc, hcs⟩ := h
  rw [hs]
  exact List.forall_mem_cons.2 ⟨.inl hc, hcs⟩

theorem IsLegal.append (h : IsLegal s) (ht : ∀ c ∈ t.toList, Continues c) : IsLegal (s ++ t) := by
  obtain ⟨c, cs, hs, hc, hcs⟩ := h
  refine ⟨c, cs ++ t.toList, by rw [String.toList_append, hs, List.cons_append], hc, ?_⟩
  exact List.forall_mem_append.2 ⟨hcs, ht⟩

theorem IsLegal.ending (h : IsLegal s) (ht : (t.toList.all fun c => isNameStart c || c.isDigit) = true) :
    IsLegal (s ++ t) := h.append fun c hc => continues_iff.1 (List.all_eq_true.1 ht c hc)

/-! ### The first character in lower case -/

theorem begins_asciiLower : Begins (Unicode.asciiLower c) ↔ Begins c := by
  unfold Unicode.asciiLower
  split_ifs with hupper
  · simp only [Bool.and_eq_true, decide_eq_true_eq] at hupper
    have hlow : 65 ≤ c.toNat := Char.le_def.1 hupper.1
    have hhigh : c.toNat ≤ 90 := Char.le_def.1 hupper.2
    have hvalid : (c.toNat + 32).isValidChar := by unfold Nat.isValidChar; omega
    have hcode : (Char.ofNat (c.toNat + 32)).toNat = c.toNat + 32 := by
      rw [Char.ofNat, dif_pos hvalid]
      rfl
    refine iff_of_true (.inr (.inr ⟨?_, ?_⟩)) (.inr (.inl hupper))
    · exact Char.le_def.2 (show 97 ≤ (Char.ofNat (c.toNat + 32)).toNat by omega)
    · exact Char.le_def.2 (show (Char.ofNat (c.toNat + 32)).toNat ≤ 122 by omega)
  · rfl

/-- text that comes to a legal name with its first character in lower case: a legal name, or one with the sign of kelvin
in front, whose lower case is a letter of ASCII -/
def SpellsName (s : String) : Prop := IsLegal s ∨ ∃ cs, s.toList = '\u212a' :: cs ∧ ∀ d ∈ cs, Continues d

theorem isLegal_ofList {cs : List Char} :
    IsLegal (String.ofList (c :: cs)) ↔ Begins c ∧ ∀ d ∈ cs, Continues d := by
  unfold IsLegal
  rw [String.toList_ofList]
  constructor
  · rintro ⟨_, _, ⟨⟩, hc, hcs⟩
    exact ⟨hc, hcs⟩
  · rintro ⟨hc, hcs⟩
    exact ⟨c, cs, rfl, hc, hcs⟩

theorem lt_of_begins_ofNat {code : Nat} (h : Begins (Char.ofNat code)) : code < 128 := by
  by_cases hvalid : code.isValidChar
  · have hcode : (Char.ofNat code).toNat < 128 := Continues.lt (.inl h)
    rw [Char.ofNat, dif_pos hvalid] at hcode
    exact hcode
  · rw [Char.ofNat, dif_neg hvalid] at h
    exact absurd h (by decide)

/-- the one character beyond ASCII that begins a legal name in lower case -/
theorem isLegal_lowerChar_iff (hc : 128 ≤ c.toNat) {cs : List Char} :
    IsLegal (String.ofList (Unicode.lowerChar c ++ cs)) ↔ c = '\u212a' ∧ ∀ d ∈ cs, Continues d := by
  constructor
  · intro h
    unfold Unicode.lowerChar at h
    rw [if_neg (Nat.not_lt.2 hc)] at h
    split_ifs at h with hdotted
    · -- the dot that is left over cannot continue a name
      have hdot : Continues '\u0307' := (isLegal_ofList.1 h).2 _ List.mem_cons_self
      exact absurd hdot (by decide)
    · obtain ⟨hbegins, hcs⟩ := isLegal_ofList.1 h
      have hkelvin := Unicode.eq_kelvin_of_shiftBy hc (lt_of_begins_ofNat hbegins)
      rw [← Char.ofNat_toNat c, hkelvin]
      exact ⟨rfl, hcs⟩
  · rintro ⟨rfl, hcs⟩
    have hlower : Unicode.lowerChar '\u212a' = ['k'] := by decide +kernel
    rw [hlower]
    exact isLegal_ofList.2 ⟨by unfold Begins; decide, hcs⟩

/-- **What comes to a legal name with its first character in lower case** -/
theorem isLegal_lowerFirst_iff : IsLegal (lowerFirst s) ↔ SpellsName s := by
  unfold lowerFirst SpellsName
  cases hs : s.toList with
  | nil => simp [IsLegal, hs]
  | cons c cs =>
    have hlegal : IsLegal s ↔ Begins c ∧ ∀ d ∈ cs, Continues d := by
      rw [← isLegal_ofList, ← hs, String.ofList_toList]
    simp only [hlegal, List.cons.injEq]
    rcases Nat.lt_or_ge c.toNat 128 with hascii | hbeyond
    · have hkelvin : c ≠ '\u212a' := by
        rintro rfl
        exact absurd hascii (by decide)
      rw [Unicode.lowerChar_ascii hascii, List.singleton_append, isLegal_ofList, begins_asciiLower]
      simp [hkelvin]
    · have hbegins : ¬ Begins c := fun h => Nat.not_lt.2 hbeyond (Continues.lt (.inl h))
      rw [isLegal_lowerChar_iff hbeyond]
      simp [hbegins]

theorem IsLegal.lowerFirst (h : IsLegal s) : IsLegal (lowerFirst s) := isLegal_lowerFirst_iff.2 (.inl h)

/-! ### Plurals -/

/-- a name ends in some letters, in any case -/
def endsIn (tail name : String) : Bool := Text.endsWith tail (Unicode.lower name)

/-- a name whose plural is formed with ies -/
def dropsY (name : String) : Bool :=
  endsIn "y" name && !endsIn "ay" name && !endsIn "ey" name && !endsIn "oy" name

/-- a name whose plural is formed with es -/
def hisses (name : String) : Bool := hissing.any fun tail => endsIn tail name

theorem pluralize_eq (name : String) : pluralize name =
    if dropsY name then String.ofList name.toList.dropLast ++ "ies"
    else if hisses name then name ++ "es" else name ++ "s" := rfl

/-- **The plural of a legal name is one** -/
theorem IsLegal.pluralize (h : IsLegal s) : IsLegal (pluralize s) := by
  rw [pluralize_eq]
  split_ifs
  · obtain ⟨c, cs, hs, hc, hcs⟩ := h
    cases cs with
    | nil =>
      rw [hs, List.dropLast_singleton]
      decide
    | cons d cs =>
      rw [hs, List.dropLast_cons_cons]
      have hstem : IsLegal (String.ofList (c :: (d :: cs).dropLast)) :=
        isLegal_ofList.2 ⟨hc, fun e he => hcs e (List.mem_of_mem_dropLast he)⟩
      exact hstem.ending (by decide)
  · exact h.ending (by decide)
  · exact h.ending (by decide)

/-! ## Plurals cut from bytes -/

/-- the characters that make up the first bytes; nothing if these end inside a character or there are not as many -/
def takeBytes? : Nat → List Char → Option (List Char)
  | 0, _ => some []
  | _ + 1, [] => none
  | n + 1, c :: cs => if c.utf8Size ≤ n + 1 then (takeBytes? (n + 1 - c.utf8Size) cs).map (c :: ·) else none

/-- a text without its last byte; nothing if it has none, or if what is left is no text -/
def cutByte? (s : String) : Option String :=
  match s.utf8ByteSize with
  | 0 => none
  | n + 1 => (takeBytes? n s.toList).map String.ofList

/-- the plural of a name that is cut before its last byte if its y is dropped; nothing if it cannot be cut there -/
def pluralize? (name : String) : Option String :=
  if dropsY name then (cutByte? name).map (· ++ "ies") else some (pluralize name)

/-- the name of the list of an entity; nothing if its plural cannot be cut -/
def listName? (name : String) (e : Entity) : Option String :=
  match e.graphql.names.bind (·.plural) with
  | some plural => some (lowerFirst plural)
  | none => pluralize? (lowerFirst (typeName name e))

/-- the type of an entity; nothing if its plural cannot be cut -/
def describe? (c : RuntimeConfig) (set : ProviderSet) (name : String) (e : Entity) :
    Option (Except GatewayError GraphQLType) :=
  let typeName := typeName name e
  if !isName typeName then some (.error (.dependent service (badName name typeName)))
  else (listName? name e).map fun list => do
    let p ← set.find (c.sourceOf e)
    let queries := if e.isProcedure then [] else [list, lowerFirst typeName ++ "_by_pk"]
    return { entity := name, typeName, queries, mutations := mutations name e, fields := columnsOf p name }

/-- the types of entities in order; nothing if a plural cannot be cut -/
def gather? (c : RuntimeConfig) (set : ProviderSet) (taken : List String) :
    List (String × Entity) → Option (Except GatewayError (List (String × GraphQLType)))
  | [] => some (.ok [])
  | (name, e) :: rest =>
    match describe? c set name e with
    | none => none
    | some (.error problem) => some (.error problem)
    | some (.ok type) =>
      if taken.contains type.typeName then some (.error (.dependent service (takenName type.typeName)))
      else (gather? c set (type.typeName :: taken) rest).map fun others => others.map ((name, type) :: ·)

/-- the types of a configuration; nothing if a plural cannot be cut -/
def ofConfig? (c : RuntimeConfig) (set : ProviderSet) : Option (Except GatewayError TypeCatalog) :=
  (gather? c set [] (typed c)).map fun types => types.map NameMap.ofList

theorem takeBytes?_append (cs rest : List Char) : takeBytes? (String.utf8Len cs) (cs ++ rest) = some cs := by
  induction cs with
  | nil => cases rest <;> rfl
  | cons c cs ih =>
    obtain ⟨n, hn⟩ : ∃ n, String.utf8Len (c :: cs) = n + 1 :=
      Nat.exists_eq_succ_of_ne_zero (by have := c.utf8Size_pos; simp; omega)
    have hfits : c.utf8Size ≤ n + 1 := by rw [← hn]; simp
    have hleft : n + 1 - c.utf8Size = String.utf8Len cs := by rw [← hn]; simp
    rw [hn, List.cons_append, takeBytes?, if_pos hfits, hleft, ih]
    rfl

theorem cutByte?_of_ascii {stem : List Char} {c : Char} (hs : s.toList = stem ++ [c]) (hc : c.toNat < 128) :
    cutByte? s = some (String.ofList stem) := by
  have hsize : c.utf8Size = 1 := Char.utf8Size_eq_one_iff.2 (UInt32.le_iff_toNat_le.2 (Nat.le_of_lt_succ hc))
  have hbytes : s.utf8ByteSize = String.utf8Len stem + 1 := by
    rw [← String.ofList_toList (s := s), hs, String.utf8ByteSize_ofList, String.utf8Len_append]
    simp [hsize]
  unfold cutByte?
  rw [hbytes]
  simp only
  rw [hs, takeBytes?_append]
  rfl

/-- the plural of a legal name is not cut inside a character -/
theorem pluralize?_eq (h : IsLegal s) : pluralize? s = some (pluralize s) := by
  unfold pluralize?
  split_ifs with hdrops
  · have hne : s.toList ≠ [] := by
      obtain ⟨c, cs, hs, -⟩ := h
      simp [hs]
    have hlast := h.continues _ (List.getLast_mem hne)
    rw [cutByte?_of_ascii (List.dropLast_append_getLast hne).symm hlast.lt, pluralize_eq, if_pos hdrops]
    rfl
  · rfl

variable {c : RuntimeConfig} {set : ProviderSet}

theorem listName?_eq {name : String} {e : Entity} (h : IsLegal (typeName name e)) :
    listName? name e = some (listName name e) := by
  unfold listName? listName
  cases e.graphql.names.bind (·.plural) with
  | some plural => rfl
  | none => exact pluralize?_eq h.lowerFirst

theorem describe?_eq (name : String) (e : Entity) : describe? c set name e = some (describe c set name e) := by
  unfold describe? describe
  by_cases hname : isName (typeName name e) = true
  · simp only [hname, listName?_eq (isName_iff.1 hname), queries, Option.map_some, Bool.not_true, Bool.false_eq_true,
      if_false]
  · simp only [hname, Bool.not_false, if_true]

theorem gather?_eq (taken : List String) (l : List (String × Entity)) :
    gather? c set taken l = some (gather c set taken l) := by
  induction l generalizing taken with
  | nil => rfl
  | cons entry rest ih =>
    obtain ⟨name, e⟩ := entry
    rw [gather?, gather, describe?_eq]
    cases describe c set name e with
    | error problem => rfl
    | ok type =>
      simp only [ih, bind, Except.bind]
      split_ifs
      · rfl
      · cases gather c set (type.typeName :: taken) rest <;> rfl

/-- **No plural is cut inside a character** when the types of a configuration are made -/
theorem ofConfig?_eq (c : RuntimeConfig) (set : ProviderSet) : ofConfig? c set = some (ofConfig c set) := by
  rw [ofConfig?, gather?_eq]
  unfold ofConfig
  cases gather c set [] (typed c) <;> rfl

/-! ## The types of a configuration -/

/-- the type of an entity, with the columns that are known -/
def typeOf (c : RuntimeConfig) (set : ProviderSet) (x : String × Entity) : GraphQLType where
  entity := x.1
  typeName := typeName x.1 x.2
  queries := queries x.1 x.2
  mutations := mutations x.1 x.2
  fields := match set.find (c.sourceOf x.2) with
    | .ok p => columnsOf p x.1
    | .error _ => []

theorem gather_eq_map {l : List (String × Entity)} {taken : List String} {types : List (String × GraphQLType)}
    (h : gather c set taken l = .ok types) : types = l.map fun x => (x.1, typeOf c set x) := by
  induction l generalizing taken types with
  | nil =>
    cases h
    rfl
  | cons entry rest ih =>
    obtain ⟨name, e⟩ := entry
    obtain ⟨p, hp⟩ : ∃ p, set.find (c.sourceOf e) = .ok p := found_of_gather h _ List.mem_cons_self
    rw [gather_cons hp] at h
    split_ifs at h
    cases hrest : gather c set (typeName name e :: taken) rest with
    | error problem =>
      rw [hrest] at h
      cases h
    | ok others =>
      rw [hrest] at h
      cases h
      rw [ih hrest, List.map_cons, typeOf, hp]

theorem gathered (h : ofConfig c set = .ok types) :
    ∃ l, gather c set [] (typed c) = .ok l ∧ types = NameMap.ofList l := by
  unfold ofConfig at h
  obtain ⟨l, hl, h⟩ := ok_of_bind h
  cases h
  exact ⟨l, hl, rfl⟩

theorem sorted_typed (c : RuntimeConfig) : (typed c).Pairwise fun a b => a.1 < b.1 := by
  unfold typed
  split_ifs
  · exact c.entities.sorted.filter _
  · exact .nil

theorem mem_typed {c : RuntimeConfig} {x : String × Entity} : x ∈ typed c ↔
    c.runtime.graphql.enabled = true ∧ c.entities.get? x.1 = some x.2 ∧ x.2.graphql.enabled = true := by
  unfold typed
  split_ifs with henabled
  · rw [List.mem_filter, ← NameMap.mem_entries_iff]
    simp [henabled]
  · simp [henabled]

/-- **There is one type for each entity that has one**, in the order of the entities -/
theorem entries_ofConfig {types : TypeCatalog} (h : ofConfig c set = .ok types) :
    types.entries = (typed c).map fun x => (x.1, typeOf c set x) := by
  obtain ⟨l, hl, rfl⟩ := gathered h
  obtain rfl := gather_eq_map hl
  have hsorted := (sorted_typed c).map (S := fun a b => a.1 < b.1) (fun x => (x.1, typeOf c set x)) fun _ _ h => h
  exact congrArg NameMap.entries (NameMap.ofList_of_perm (m := ⟨_, hsorted⟩) (.refl _))

theorem names_ofConfig {types : TypeCatalog} (h : ofConfig c set = .ok types) :
    (∀ x ∈ typed c, IsLegal (typeName x.1 x.2)) ∧ ((typed c).map fun x => typeName x.1 x.2).Nodup := by
  obtain ⟨l, hl, -⟩ := gathered h
  obtain ⟨hnames, hnodup⟩ := (gather_ok (found_of_gather hl) []).1 ⟨l, hl⟩
  exact ⟨fun x hx => isName_iff.1 (hnames _ (List.mem_map_of_mem hx)).1, hnodup⟩

theorem mem_ofConfig {types : TypeCatalog} (h : ofConfig c set = .ok types) {entity : String} {type : GraphQLType} :
    types.get? entity = some type ↔ ∃ e, (entity, e) ∈ typed c ∧ type = typeOf c set (entity, e) := by
  rw [← NameMap.mem_entries_iff, entries_ofConfig h, List.mem_map]
  constructor
  · rintro ⟨⟨name, e⟩, hx, ⟨⟩⟩
    exact ⟨e, hx, rfl⟩
  · rintro ⟨e, hx, rfl⟩
    exact ⟨(entity, e), hx, rfl⟩

/-! ## Legal names -/

/-- the plural that an entity gives itself -/
def ownPlural? (e : Entity) : Option String := e.graphql.names.bind (·.plural)

theorem isLegal_mutations {name : String} {e : Entity} (h : IsLegal (typeName name e)) :
    ∀ m ∈ mutations name e, IsLegal m := by
  intro m hm
  obtain ⟨verb, hverb, rfl⟩ := List.mem_map.1 hm
  have hlegal : ∀ verb ∈ ["execute", "create", "update", "delete"], IsLegal verb := by decide
  refine (hlegal verb ?_).append h.continues
  split_ifs at hverb
  · exact List.mem_cons.2 (.inl (List.mem_singleton.1 hverb))
  · exact List.mem_cons_of_mem _ hverb

/-- the list of an entity has a legal name unless the entity gives itself a plural that does not come to one -/
theorem isLegal_listName_iff {name : String} {e : Entity} (h : IsLegal (typeName name e)) :
    IsLegal (listName name e) ↔ ∀ plural, ownPlural? e = some plural → SpellsName plural := by
  unfold listName ownPlural?
  cases e.graphql.names.bind (·.plural) with
  | some plural => simp [isLegal_lowerFirst_iff]
  | none => simp [h.lowerFirst.pluralize]

theorem isLegal_queries_iff {name : String} {e : Entity} (h : IsLegal (typeName name e)) :
    (∀ q ∈ queries name e, IsLegal q) ↔
      (e.isProcedure = false → ∀ plural, ownPlural? e = some plural → SpellsName plural) := by
  have hkey : IsLegal (lowerFirst (typeName name e) ++ "_by_pk") := h.lowerFirst.ending (by decide)
  unfold queries
  cases e.isProcedure with
  | true => simp
  | false => simp [hkey, isLegal_listName_iff h]

/-- **Which names are legal**: no name is cut inside a character, whether types can be made or not. If they are made,
the names of types and mutations are legal, and so are the names of the queries for an entity, unless it is a table or
view that gives itself a plural that does not come to a legal name -/
theorem generated_names_are_legal_iff (c : RuntimeConfig) (set : ProviderSet) :
    ofConfig? c set = some (ofConfig c set) ∧
    ∀ types, ofConfig c set = .ok types → ∀ entity type, types.get? entity = some type →
      IsLegal type.typeName ∧ (∀ m ∈ type.mutations, IsLegal m) ∧
      ∃ e, c.entities.get? entity = some e ∧ ((∀ q ∈ type.queries, IsLegal q) ↔
        (e.isProcedure = false → ∀ plural, ownPlural? e = some plural → SpellsName plural)) := by
  refine ⟨ofConfig?_eq c set, fun types h entity type htype => ?_⟩
  obtain ⟨e, he, rfl⟩ := (mem_ofConfig h).1 htype
  have hname : IsLegal (typeName entity e) := (names_ofConfig h).1 _ he
  exact ⟨hname, isLegal_mutations hname, e, (mem_typed.1 he).2.1, isLegal_queries_iff hname⟩

end TypeCatalog

/-! ### Categories, and books by another plural -/

def shelvesConfig (entities : NameMap Entity) : RuntimeConfig := { World.plainConfig with entities }

def booksCalled (plural : String) : Entity :=
  { source := { object := "books" }, graphql := { names := some ⟨"Book", some plural⟩ } }

/-- a table whose plural is formed, one that gives itself a plural, and a procedure -/
def wellNamed : NameMap Entity :=
  ((NameMap.empty.insert
    "Category" { source := { object := "categories" } }).insert "Book" (booksCalled "Shelf_1")).insert
    "lend" { source := { object := "lend", kind := .storedProcedure } }

theorem well_named_types_are_legal : ∃ set rest types category book lend,
    ProviderSet.prepare emptyDatabases (.ofSeconds 15) 0 ⟨0, shelvesConfig wellNamed⟩ () = .ok (set, rest) ∧
    TypeCatalog.ofConfig (shelvesConfig wellNamed) set = .ok types ∧
    types.get? "Category" = some category ∧ category.queries = ["categories", "category_by_pk"] ∧
    types.get? "Book" = some book ∧ book.queries = ["shelf_1", "book_by_pk"] ∧
    types.get? "lend" = some lend ∧ lend.mutations = ["executelend"] ∧
    (∀ q ∈ category.queries, TypeCatalog.IsLegal q) ∧ (∀ q ∈ book.queries, TypeCatalog.IsLegal q) ∧
    ∀ m ∈ lend.mutations, TypeCatalog.IsLegal m := by
  obtain ⟨set, rest, types, category, book, lend, hprepare, hmade, hcategory, hformed, hbook, hown, hlend, hexecute⟩ :
      ∃ set rest types category book lend,
        ProviderSet.prepare emptyDatabases (.ofSeconds 15) 0 ⟨0, shelvesConfig wellNamed⟩ () = .ok (set, rest) ∧
        TypeCatalog.ofConfig (shelvesConfig wellNamed) set = .ok types ∧
        types.get? "Category" = some category ∧ category.queries = ["categories", "category_by_pk"] ∧
        types.get? "Book" = some book ∧ book.queries = ["shelf_1", "book_by_pk"] ∧
        types.get? "lend" = some lend ∧ lend.mutations = ["executelend"] :=
    ⟨_, _, _, _, _, _, rfl, rfl, rfl, rfl, rfl, rfl, rfl, rfl⟩
  have hlegal := (TypeCatalog.generated_names_are_legal_iff (shelvesConfig wellNamed) set).2 types hmade
  obtain ⟨-, -, e, he, hqueries⟩ := hlegal "Category" category hcategory
  obtain ⟨-, -, e', he', hqueries'⟩ := hlegal "Book" book hbook
  cases he
  cases he'
  refine ⟨set, rest, types, category, book, lend, hprepare, hmade, hcategory, hformed, hbook, hown, hlend, hexecute,
    hqueries.2 ?_, hqueries'.2 ?_, (hlegal "lend" lend hlend).2.1⟩
  · rintro - plural ⟨⟩
  · rintro - plural ⟨⟩
    exact .inl (by decide)

/-- **A plural that is taken as it is written**, and that is no legal name -/
theorem unchecked_plural_is_illegal : ∃ set rest types type,
    (shelvesConfig (NameMap.empty.insert "Book" (booksCalled "my books"))).checkProperties = .ok () ∧
    ProviderSet.prepare emptyDatabases (.ofSeconds 15) 0
      ⟨0, shelvesConfig (NameMap.empty.insert "Book" (booksCalled "my books"))⟩ () = .ok (set, rest) ∧
    TypeCatalog.ofConfig (shelvesConfig (NameMap.empty.insert "Book" (booksCalled "my books"))) set = .ok types ∧
    types.get? "Book" = some type ∧ "my books" ∈ type.queries ∧ ¬ TypeCatalog.IsLegal "my books" :=
  ⟨_, _, _, _, rfl, rfl, rfl, rfl, List.mem_cons_self, by decide⟩

end EntityGateway
