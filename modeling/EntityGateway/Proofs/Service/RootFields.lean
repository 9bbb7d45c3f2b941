/-
Root fields that collide.

No two types have one name, and a mutation is a verb in front of the name of a type, so no two mutations have one name.
The queries for an entity have other names than its type: a list has its plural, and the query by key its singular with
an ending. Two of these can be one name though no two types are: if two names differ in the case of their first letter,
if two words have one plural, or if an entity gives itself a plural that is the name of a query already. They cannot in
any other way.

- `pluralize_eq_iff`: the words that have one plural;
- `mutations_nodup`: mutations do not collide;
- `root_fields_distinct_iff`: when queries collide, told from the configuration alone;
- `root_fields_collide`: a configuration in which they do.
-/
import EntityGateway.Proofs.Service.TypeNames
import Mathlib.Data.List.Nodup

namespace EntityGateway

namespace TypeCatalog

/-! ## Words with one plural -/

/-- two words that have one plural, the first of which is not formed by an s alone -/
inductive SamePlural : String → String → Prop
  /-- a word that takes es, and the one with the e -/
  | hissing (h : hisses s = true) : SamePlural s (s ++ "e")
  /-- a word that takes ies, and the one with the ie -/
  | yielding (h : dropsY s = true) : SamePlural s (String.ofList s.toList.dropLast ++ "ie")
  /-- two words that take ies, and agree but for the case of their last letter -/
  | cased (h : dropsY s = true) (h' : dropsY t = true) (hstem : s.toList.dropLast = t.toList.dropLast) : SamePlural s t

variable {s t : String}

/-- what stands before the s of a plural -/
def beforeS (name : String) : String :=
  if dropsY name then String.ofList name.toList.dropLast ++ "ie"
  else if hisses name then name ++ "e" else name

theorem pluralize_eq_beforeS (name : String) : pluralize name = beforeS name ++ "s" := by
  rw [pluralize_eq, beforeS]
  split_ifs
  · rw [String.append_assoc]
    rfl
  · rw [String.append_assoc]
    rfl
  · rfl

def lastLetter? (name : String) : Option Char := name.toList.getLast?.map Unicode.asciiLower

theorem lastLetter?_append {tail : String} (h : tail.toList ≠ []) (name : String) :
    lastLetter? (name ++ tail) = lastLetter? tail := by
  unfold lastLetter?
  rw [String.toList_append, List.getLast?_append_of_ne_nil _ h]

theorem lastLetter?_of_endsIn (hs : IsLegal s) {tail : String} (htail : tail.toList ≠ []) (h : endsIn tail s = true) :
    lastLetter? s = tail.toList.getLast? := by
  unfold endsIn Text.endsWith at h
  rw [Unicode.lower_ascii fun c hc => (hs.continues c hc).lt, List.isSuffixOf_iff_suffix] at h
  obtain ⟨front, hfront⟩ := h
  unfold lastLetter?
  rw [← List.getLast?_map, ← hfront, List.getLast?_append_of_ne_nil _ htail]

theorem lastLetter?_of_dropsY (hs : IsLegal s) (h : dropsY s = true) : lastLetter? s = some 'y' := by
  simp only [dropsY, Bool.and_eq_true] at h
  exact lastLetter?_of_endsIn hs (by decide) h.1.1.1

theorem lastLetter?_of_hisses (hs : IsLegal s) (h : hisses s = true) :
    lastLetter? s ∈ [some 's', some 'x', some 'z', some 'h'] := by
  obtain ⟨tail, htail, hends⟩ := List.any_eq_true.1 h
  have hcases : ∀ tail ∈ hissing,
      tail.toList ≠ [] ∧ tail.toList.getLast? ∈ [some 's', some 'x', some 'z', some 'h'] := by
    decide
  obtain ⟨hne, hlast⟩ := hcases tail htail
  rw [lastLetter?_of_endsIn hs hne hends]
  exact hlast

theorem beforeS_of_e (hs : IsLegal s) (h : lastLetter? s = some 'e') : beforeS s = s := by
  have hdrops : ¬ dropsY s = true := fun hdrops => by
    rw [lastLetter?_of_dropsY hs hdrops] at h
    cases h
  have hhisses : ¬ hisses s = true := fun hhisses => by
    have hmem := lastLetter?_of_hisses hs hhisses
    rw [h] at hmem
    exact absurd hmem (by decide)
  rw [beforeS, if_neg hdrops, if_neg hhisses]

theorem not_dropsY_of_hisses (hs : IsLegal s) (h : hisses s = true) : ¬ dropsY s = true := fun hdrops => by
  have hmem := lastLetter?_of_hisses hs h
  rw [lastLetter?_of_dropsY hs hdrops] at hmem
  exact absurd hmem (by decide)

theorem pluralize_of_samePlural (hs : IsLegal s) (ht : IsLegal t) (h : SamePlural s t) : pluralize s = pluralize t := by
  rw [pluralize_eq_beforeS, pluralize_eq_beforeS, String.append_left_inj]
  cases h with
  | hissing h =>
    rw [beforeS_of_e ht (lastLetter?_append (by decide) _), beforeS, if_neg (not_dropsY_of_hisses hs h), if_pos h]
  | yielding h => rw [beforeS_of_e ht (lastLetter?_append (by decide) _), beforeS, if_pos h]
  | cased h h' hstem => rw [beforeS, beforeS, if_pos h, if_pos h', hstem]

theorem beforeS_cases (name : String) :
    (dropsY name = true ∧ beforeS name = String.ofList name.toList.dropLast ++ "ie") ∨
      (hisses name = true ∧ beforeS name = name ++ "e") ∨ beforeS name = name := by
  unfold beforeS
  split_ifs with hdrops hhisses
  · exact .inl ⟨hdrops, rfl⟩
  · exact .inr (.inl ⟨hhisses, rfl⟩)
  · exact .inr (.inr rfl)

/-- an i is no ending that takes es -/
theorem ne_of_hisses (hs : IsLegal s) (h : hisses s = true) (stem : String) : stem ++ "ie" ≠ s ++ "e" := by
  intro heq
  have hword : stem ++ "i" = s := by
    rw [← String.append_left_inj "e", ← heq, String.append_assoc]
    rfl
  have hmem := lastLetter?_of_hisses hs h
  rw [← hword, lastLetter?_append (by decide)] at hmem
  exact absurd hmem (by decide)

/-- **The words that have one plural** -/
theorem pluralize_eq_iff (hs : IsLegal s) (ht : IsLegal t) :
    pluralize s = pluralize t ↔ s = t ∨ SamePlural s t ∨ SamePlural t s := by
  constructor
  · intro h
    rw [pluralize_eq_beforeS, pluralize_eq_beforeS, String.append_left_inj] at h
    rcases beforeS_cases s with ⟨hy, hbefore⟩ | ⟨hh, hbefore⟩ | hbefore <;>
      rcases beforeS_cases t with ⟨hy', hbefore'⟩ | ⟨hh', hbefore'⟩ | hbefore' <;> rw [hbefore, hbefore'] at h
    · rw [String.append_left_inj, String.ofList_inj] at h
      exact .inr (.inl (.cased hy hy' h))
    · exact absurd h (ne_of_hisses ht hh' _)
    · exact .inr (.inl (h ▸ .yielding hy))
    · exact absurd h.symm (ne_of_hisses hs hh _)
    · exact .inl ((String.append_left_inj _).1 h)
    · exact .inr (.inl (h ▸ .hissing hh))
    · exact .inr (.inr (h ▸ .yielding hy'))
    · exact .inr (.inr (h ▸ .hissing hh'))
    · exact .inl h
  · rintro (rfl | h | h)
    · rfl
    · exact pluralize_of_samePlural hs ht h
    · exact (pluralize_of_samePlural ht hs h).symm

example : pluralize "cooky" = pluralize "cookie" := by decide

/-! ## Queries -/

def listed (c : RuntimeConfig) : List (String × Entity) := (typed c).filter fun x => !x.2.isProcedure

/-- what one item of an entity is called -/
def singular (x : String × Entity) : String := lowerFirst (typeName x.1 x.2)

def keyName (x : String × Entity) : String := singular x ++ "_by_pk"

/-- the lists of two entities have one name, by the plurals that the entities give themselves or by those of their
singulars -/
def SameList (x y : String × Entity) : Prop :=
  match ownPlural? x.2, ownPlural? y.2 with
  | some plural, some plural' => lowerFirst plural = lowerFirst plural'
  | some plural, none => lowerFirst plural = pluralize (singular y)
  | none, some plural' => pluralize (singular x) = lowerFirst plural'
  | none, none => singular x = singular y ∨ SamePlural (singular x) (singular y) ∨ SamePlural (singular y) (singular x)

/-- nothing in a configuration makes two queries collide -/
structure QueriesApart (c : RuntimeConfig) : Prop where
  /-- no two type names differ in the case of their first letter alone -/
  singulars : ∀ x ∈ listed c, ∀ y ∈ listed c, singular x = singular y → x = y
  /-- no two lists have one name -/
  lists : ∀ x ∈ listed c, ∀ y ∈ listed c, SameList x y → x = y
  /-- no plural that an entity gives itself is the name of a query by key, be it its own -/
  plurals : ∀ x ∈ listed c, ∀ plural, ownPlural? x.2 = some plural → ∀ y ∈ listed c, lowerFirst plural ≠ keyName y

section Queries

variable {c : RuntimeConfig} {set : ProviderSet} {types : TypeCatalog} {x y : String × Entity}

theorem listName_of_own {plural : String} (h : ownPlural? x.2 = some plural) :
    listName x.1 x.2 = lowerFirst plural := by
  unfold ownPlural? at h
  unfold listName
  rw [h]

theorem listName_of_formed (h : ownPlural? x.2 = none) : listName x.1 x.2 = pluralize (singular x) := by
  unfold ownPlural? at h
  unfold listName
  rw [h]
  rfl

theorem listName_eq_iff (hx : IsLegal (typeName x.1 x.2)) (hy : IsLegal (typeName y.1 y.2)) :
    listName x.1 x.2 = listName y.1 y.2 ↔ SameList x y := by
  unfold SameList
  split
  · rename_i hown hown'
    rw [listName_of_own hown, listName_of_own hown']
  · rename_i hown hformed
    rw [listName_of_own hown, listName_of_formed hformed]
  · rename_i hformed hown
    rw [listName_of_formed hformed, listName_of_own hown]
  · rename_i hformed hformed'
    rw [listName_of_formed hformed, listName_of_formed hformed']
    exact pluralize_eq_iff hx.lowerFirst hy.lowerFirst

/-- a plural that is formed is no name of a query by key -/
theorem pluralize_ne_keyName (name : String) (y : String × Entity) : pluralize name ≠ keyName y := by
  intro h
  have hlast : lastLetter? (pluralize name) = lastLetter? "s" := by
    rw [pluralize_eq_beforeS]
    exact lastLetter?_append (by decide) _
  rw [h, keyName, lastLetter?_append (by decide)] at hlast
  exact absurd hlast (by decide)

theorem nodup_listed (c : RuntimeConfig) : (listed c).Nodup := by
  refine ((sorted_typed c).imp fun {a b} hlt heq => ?_).filter _
  exact String.lt_irrefl _ (heq ▸ hlt)

theorem mem_listed : x ∈ listed c ↔ x ∈ typed c ∧ x.2.isProcedure = false := by
  simp [listed]

/-- the queries are the lists and the queries by key of all tables and views -/
theorem perm_queries (h : ofConfig c set = .ok types) :
    (types.values.flatMap (·.queries)).Perm
      (((listed c).map fun x => listName x.1 x.2) ++ (listed c).map keyName) := by
  have hqueries : types.values.flatMap (·.queries) =
      (listed c).flatMap fun x => [listName x.1 x.2] ++ [keyName x] := by
    unfold NameMap.values listed
    rw [entries_ofConfig h, List.map_map, List.flatMap_map]
    induction typed c with
    | nil => rfl
    | cons x rest ih =>
      rw [List.flatMap_cons, ih, List.filter_cons]
      simp only [Function.comp_apply, typeOf, queries]
      cases x.2.isProcedure <;> rfl
  rw [hqueries]
  refine (List.flatMap_append_perm _ _ _).symm.trans ?_
  rw [← List.map_eq_flatMap, ← List.map_eq_flatMap]

theorem nodup_queries_iff (h : ofConfig c set = .ok types) :
    (types.values.flatMap (·.queries)).Nodup ↔ QueriesApart c := by
  have hlegal : ∀ x ∈ listed c, IsLegal (typeName x.1 x.2) :=
    fun x hx => (names_ofConfig h).1 x (mem_listed.1 hx).1
  rw [(perm_queries h).nodup_iff, List.nodup_append, List.nodup_map_iff_inj_on (nodup_listed c),
    List.nodup_map_iff_inj_on (nodup_listed c)]
  constructor
  · rintro ⟨hlists, hkeys, hcrossed⟩
    refine ⟨fun x hx y hy heq => hkeys x hx y hy ?_, fun x hx y hy hsame => hlists x hx y hy ?_, ?_⟩
    · rw [keyName, keyName, heq]
    · exact (listName_eq_iff (hlegal x hx) (hlegal y hy)).2 hsame
    · intro x hx plural hown y hy heq
      exact hcrossed _ (List.mem_map_of_mem hx) _ (List.mem_map_of_mem hy) ((listName_of_own hown).trans heq)
  · intro hapart
    refine ⟨fun x hx y hy heq => ?_, fun x hx y hy heq => ?_, ?_⟩
    · exact hapart.lists x hx y hy ((listName_eq_iff (hlegal x hx) (hlegal y hy)).1 heq)
    · exact hapart.singulars x hx y hy ((String.append_left_inj _).1 heq)
    · intro a ha b hb heq
      obtain ⟨x, hx, rfl⟩ := List.mem_map.1 ha
      obtain ⟨y, hy, rfl⟩ := List.mem_map.1 hb
      cases hown : ownPlural? x.2 with
      | some plural => exact hapart.plurals x hx plural hown y hy ((listName_of_own hown).symm.trans heq)
      | none => exact pluralize_ne_keyName _ y ((listName_of_formed hown).symm.trans heq)

/-! ## Mutations -/

/-- the verbs of mutations; no two of them begin with one letter -/
def verbs : List String := ["create", "update", "delete", "execute"]

/-- a text begins in one way with one of some words, if no two of these begin with one letter -/
theorem word_unique {words : List String} (hwords : ∀ w ∈ words, w.toList ≠ [] ∧
      ∀ w' ∈ words, w.toList.head? = w'.toList.head? → w = w') {w w' rest rest' : String} (hw : w ∈ words)
    (hw' : w' ∈ words) (h : w ++ rest = w' ++ rest') : w = w' ∧ rest = rest' := by
  have hhead := congrArg (fun s => s.toList.head?) h
  simp only [String.toList_append, List.head?_append_of_ne_nil _ (hwords w hw).1,
    List.head?_append_of_ne_nil _ (hwords w' hw').1] at hhead
  obtain rfl := (hwords w hw).2 w' hw' hhead
  exact ⟨rfl, (String.append_right_inj _).1 h⟩

/-- a mutation is a verb and the name of a type in one way -/
theorem verb_unique {verb verb' type type' : String} (hverb : verb ∈ verbs) (hverb' : verb' ∈ verbs)
    (h : verb ++ type = verb' ++ type') : verb = verb' ∧ type = type' :=
  word_unique (by decide) hverb hverb' h

theorem mem_mutations {m : String} (h : m ∈ mutations x.1 x.2) :
    ∃ verb ∈ verbs, m = verb ++ typeName x.1 x.2 := by
  obtain ⟨verb, hverb, rfl⟩ := List.mem_map.1 h
  refine ⟨verb, ?_, rfl⟩
  split_ifs at hverb
  · exact List.mem_append_right ["create", "update", "delete"] hverb
  · exact List.mem_append_left ["execute"] hverb

/-- **Mutations do not collide**, since types have different names -/
theorem mutations_nodup (h : ofConfig c set = .ok types) : (types.values.flatMap (·.mutations)).Nodup := by
  have hmutations : types.values.flatMap (·.mutations) = (typed c).flatMap fun x => mutations x.1 x.2 := by
    unfold NameMap.values
    rw [entries_ofConfig h, List.map_map, List.flatMap_map]
    rfl
  have hnames := List.pairwise_map.1 (names_ofConfig h).2
  rw [hmutations, List.nodup_flatMap]
  refine ⟨fun x _ => ?_, hnames.imp fun {x y} hne m hx hy => ?_⟩
  · refine List.Nodup.map (fun verb verb' heq => (String.append_left_inj _).1 heq) ?_
    split_ifs <;> decide
  · obtain ⟨verb, hverb, rfl⟩ := mem_mutations hx
    obtain ⟨verb', hverb', heq⟩ := mem_mutations hy
    exact hne (verb_unique hverb hverb' heq).2

/-- **When root fields collide**: never two mutations, and queries just if the configuration does not keep them apart -/
theorem root_fields_distinct_iff (h : ofConfig c set = .ok types) :
    (types.values.flatMap (·.mutations)).Nodup ∧ ((types.values.flatMap (·.queries)).Nodup ↔ QueriesApart c) :=
  ⟨mutations_nodup h, nodup_queries_iff h⟩

end Queries

end TypeCatalog

/-! ### Books and boxes -/

/-- entities whose queries do not collide -/
def keptApart : NameMap Entity :=
  ((NameMap.empty.insert "Book" (booksCalled "Shelf")).insert "Box" { source := { object := "boxes" } }).insert
    "lend" { source := { object := "lend", kind := .storedProcedure } }

theorem kept_apart_do_not_collide : ∃ set rest types,
    ProviderSet.prepare emptyDatabases (.ofSeconds 15) 0 ⟨0, shelvesConfig keptApart⟩ () = .ok (set, rest) ∧
    TypeCatalog.ofConfig (shelvesConfig keptApart) set = .ok types ∧
    types.values.flatMap (·.queries) = ["shelf", "book_by_pk", "boxes", "box_by_pk"] ∧
    (types.values.flatMap (·.mutations)).Nodup ∧ TypeCatalog.QueriesApart (shelvesConfig keptApart) := by
  obtain ⟨set, rest, types, hprepare, hmade, hqueries⟩ : ∃ set rest types,
      ProviderSet.prepare emptyDatabases (.ofSeconds 15) 0 ⟨0, shelvesConfig keptApart⟩ () = .ok (set, rest) ∧
      TypeCatalog.ofConfig (shelvesConfig keptApart) set = .ok types ∧
      types.values.flatMap (·.queries) = ["shelf", "book_by_pk", "boxes", "box_by_pk"] := ⟨_, _, _, rfl, rfl, rfl⟩
  obtain ⟨hmutations, hapart⟩ := TypeCatalog.root_fields_distinct_iff hmade
  exact ⟨set, rest, types, hprepare, hmade, hqueries, hmutations, hapart.1 (by rw [hqueries]; decide)⟩

/-- two entities whose names differ in the case of their first letter -/
def alikeInCase : NameMap Entity :=
  (NameMap.empty.insert "Book" { source := { object := "Book" } }).insert "book" { source := { object := "book" } }

/-- **Root fields that two entities claim**, and one that an entity claims twice -/
theorem root_fields_collide :
    (∃ set rest types,
      (shelvesConfig alikeInCase).checkProperties = .ok () ∧
      ProviderSet.prepare emptyDatabases (.ofSeconds 15) 0 ⟨0, shelvesConfig alikeInCase⟩ () = .ok (set, rest) ∧
      TypeCatalog.ofConfig (shelvesConfig alikeInCase) set = .ok types ∧
      types.values.map (·.queries) = [["books", "book_by_pk"], ["books", "book_by_pk"]] ∧
      ¬ (types.values.flatMap (·.queries)).Nodup) ∧
    ∃ set rest types,
      ProviderSet.prepare emptyDatabases (.ofSeconds 15) 0
        ⟨0, shelvesConfig (NameMap.empty.insert "Book" (booksCalled "Book_by_pk"))⟩ () = .ok (set, rest) ∧
      TypeCatalog.ofConfig (shelvesConfig (NameMap.empty.insert "Book" (booksCalled "Book_by_pk"))) set = .ok types ∧
      types.values.map (·.queries) = [["book_by_pk", "book_by_pk"]] :=
  ⟨⟨_, _, _, rfl, rfl, rfl, rfl, by decide⟩, ⟨_, _, _, rfl, rfl, rfl⟩⟩

end EntityGateway
