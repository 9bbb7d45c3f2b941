/-
Maps from names, kept in the order of the names.

The entries are in strictly increasing order of their names, by code point, so two maps with the same entries are
equal and a walk over a map needs no order of its own.

- `get?_insert_self`, `get?_insert_of_ne`: an insertion changes the value of its own name and of no other;
- `mem_entries_iff`: the entries are exactly what look-ups find;
- `get?_inserts`, `get?_mapWithName`, `get?_tryMap`: what look-ups find after a change.
-/

namespace EntityGateway

/-- puts an entry at the place of its name, over an earlier one of that name -/
def insertEntry (name : String) (value : α) : List (String × α) → List (String × α)
  | [] => [(name, value)]
  | entry :: rest =>
    if name < entry.1 then (name, value) :: entry :: rest
    else if name = entry.1 then (name, value) :: rest
    else entry :: insertEntry name value rest

theorem eq_or_mem_of_mem_insertEntry {name : String} {value : α} {entry : String × α} {l : List (String × α)}
    (h : entry ∈ insertEntry name value l) : entry = (name, value) ∨ entry ∈ l := by
  induction l with
  | nil => simpa [insertEntry] using h
  | cons head rest ih =>
    unfold insertEntry at h
    split at h
    · simpa using h
    · split at h
      · rcases List.mem_cons.1 h with h | h
        · exact .inl h
        · exact .inr (List.mem_cons_of_mem _ h)
      · rcases List.mem_cons.1 h with h | h
        · exact .inr (h ▸ List.mem_cons_self)
        · exact (ih h).imp id (List.mem_cons_of_mem _)

theorem sorted_insertEntry {name : String} {value : α} {l : List (String × α)}
    (h : l.Pairwise fun a b => a.1 < b.1) : (insertEntry name value l).Pairwise fun a b => a.1 < b.1 := by
  induction l with
  | nil => simp [insertEntry]
  | cons head rest ih =>
    obtain ⟨hhead, hrest⟩ := List.pairwise_cons.1 h
    unfold insertEntry
    split
    · next hlt =>
      refine List.pairwise_cons.2 ⟨fun entry he => ?_, h⟩
      rcases List.mem_cons.1 he with rfl | he
      · exact hlt
      · exact String.lt_trans hlt (hhead entry he)
    · next hge =>
      split
      · next heq => exact List.pairwise_cons.2 ⟨fun entry he => heq ▸ hhead entry he, hrest⟩
      · next hne =>
        refine List.pairwise_cons.2 ⟨fun entry he => ?_, ih hrest⟩
        rcases eq_or_mem_of_mem_insertEntry he with rfl | he
        · exact Std.lt_of_le_of_ne (String.not_lt.1 hge) (Ne.symm hne)
        · exact hhead entry he

/-- a map from names -/
structure NameMap (α : Type u) where
  entries : List (String × α) := []
  sorted : entries.Pairwise (fun a b => a.1 < b.1) := by exact .nil

namespace NameMap

def empty : NameMap α := {}

instance : Inhabited (NameMap α) := ⟨empty⟩

def get? (m : NameMap α) (name : String) : Option α := (m.entries.find? (·.1 == name)).map (·.2)

def contains (m : NameMap α) (name : String) : Bool := (m.get? name).isSome

def names (m : NameMap α) : List String := m.entries.map (·.1)

def values (m : NameMap α) : List α := m.entries.map (·.2)

def isEmpty (m : NameMap α) : Bool := m.entries.isEmpty

def size (m : NameMap α) : Nat := m.entries.length

def insert (m : NameMap α) (name : String) (value : α) : NameMap α :=
  ⟨insertEntry name value m.entries, sorted_insertEntry m.sorted⟩

/-- a map from entries in any order; of two with one name the later counts -/
def ofList (l : List (String × α)) : NameMap α := l.foldl (fun m entry => m.insert entry.1 entry.2) empty

/-- every value changed by a function of it and its name -/
def mapWithName (f : String → α → β) (m : NameMap α) : NameMap β :=
  ⟨m.entries.map fun entry => (entry.1, f entry.1 entry.2), m.sorted.map _ fun _ _ h => h⟩

/-- every value changed by a function -/
def map (f : α → β) (m : NameMap α) : NameMap β := m.mapWithName fun _ a => f a

/-- the value of one name changed, if it has one -/
def modify (m : NameMap α) (name : String) (f : α → α) : NameMap α :=
  m.mapWithName fun n a => if n = name then f a else a

/-- the entries that satisfy a condition -/
def filter (p : String → α → Bool) (m : NameMap α) : NameMap α :=
  ⟨m.entries.filter fun entry => p entry.1 entry.2, m.sorted.filter _⟩

/-! ## Changes that can fail -/

/-- every value of a list of entries changed by a function that can fail; the first failure counts -/
def tryMapEntries (f : String → α → Except ε β) : List (String × α) → Except ε (List (String × β))
  | [] => .ok []
  | (name, a) :: rest =>
    match f name a with
    | .error e => .error e
    | .ok b =>
      match tryMapEntries f rest with
      | .error e => .error e
      | .ok rest => .ok ((name, b) :: rest)

theorem names_tryMapEntries {f : String → α → Except ε β} {l : List (String × α)} {l' : List (String × β)}
    (h : tryMapEntries f l = .ok l') : l'.map (·.1) = l.map (·.1) := by
  induction l generalizing l' with
  | nil => simp only [tryMapEntries, Except.ok.injEq] at h; simp [← h]
  | cons entry rest ih =>
    unfold tryMapEntries at h
    split at h
    · cases h
    · split at h
      · cases h
      · next hrest =>
        cases h
        simp [ih hrest]

theorem sorted_tryMapEntries {f : String → α → Except ε β} {l : List (String × α)} {l' : List (String × β)}
    (h : tryMapEntries f l = .ok l') (hl : l.Pairwise fun a b => a.1 < b.1) :
    l'.Pairwise fun a b => a.1 < b.1 := by
  have hnames : (l.map (·.1)).Pairwise (· < ·) := List.pairwise_map.2 hl
  rw [← names_tryMapEntries h] at hnames
  exact List.pairwise_map.1 hnames

/-- every value changed by a function of it and its name that can fail; the first failure in order counts -/
def tryMap (f : String → α → Except ε β) (m : NameMap α) : Except ε (NameMap β) :=
  match h : tryMapEntries f m.entries with
  | .error e => .error e
  | .ok l => .ok ⟨l, sorted_tryMapEntries h m.sorted⟩

/-! ## Look-ups -/

theorem find?_insertEntry_self (name : String) (value : α) (l : List (String × α)) :
    (insertEntry name value l).find? (·.1 == name) = some (name, value) := by
  induction l with
  | nil => simp [insertEntry]
  | cons head rest ih =>
    unfold insertEntry
    split
    · simp
    · split
      · simp
      · next hne =>
        have : (head.1 == name) = false := by simpa using Ne.symm hne
        simpa [List.find?_cons, this] using ih

theorem find?_insertEntry_of_ne {name other : String} (h : other ≠ name) (value : α) (l : List (String × α)) :
    (insertEntry name value l).find? (·.1 == other) = l.find? (·.1 == other) := by
  have hne : (name == other) = false := by simpa using Ne.symm h
  induction l with
  | nil => simp [insertEntry, hne]
  | cons head rest ih =>
    unfold insertEntry
    split
    · simp [List.find?_cons, hne]
    · split
      · next heq =>
        have : (head.1 == other) = false := by rw [← heq]; exact hne
        simp [hne, this]
      · simp only [List.find?_cons, ih]

@[simp] theorem get?_insert_self (m : NameMap α) (name : String) (value : α) :
    (m.insert name value).get? name = some value := by
  simp [get?, insert, find?_insertEntry_self]

theorem get?_insert_of_ne (m : NameMap α) {name other : String} (h : other ≠ name) (value : α) :
    (m.insert name value).get? other = m.get? other := by
  simp [get?, insert, find?_insertEntry_of_ne h]

theorem find?_eq_of_mem {l : List (String × α)} (hs : l.Pairwise fun a b => a.1 < b.1) {entry : String × α}
    (h : entry ∈ l) : l.find? (·.1 == entry.1) = some entry := by
  induction l with
  | nil => cases h
  | cons head rest ih =>
    obtain ⟨hhead, hrest⟩ := List.pairwise_cons.1 hs
    rcases List.mem_cons.1 h with rfl | h
    · simp
    · have : (head.1 == entry.1) = false := by
        simpa using fun e => String.lt_irrefl _ (e ▸ hhead entry h)
      simpa [List.find?_cons, this] using ih hrest h

theorem mem_entries_iff (m : NameMap α) (name : String) (value : α) :
    (name, value) ∈ m.entries ↔ m.get? name = some value := by
  constructor
  · intro h
    simp [get?, find?_eq_of_mem m.sorted h]
  · intro h
    obtain ⟨entry, hfind, rfl⟩ := Option.map_eq_some_iff.1 h
    have hname : entry.1 = name := by simpa using List.find?_some hfind
    rw [← hname]
    exact List.mem_of_find?_eq_some hfind

theorem forall_mem_entries {m : NameMap α} {P : String × α → Prop} :
    (∀ entry ∈ m.entries, P entry) ↔ ∀ name a, m.get? name = some a → P (name, a) :=
  ⟨fun h name a ha => h (name, a) ((m.mem_entries_iff name a).2 ha),
    fun h entry he => h entry.1 entry.2 ((m.mem_entries_iff entry.1 entry.2).1 he)⟩

theorem entries_ne_nil {m : NameMap α} : m.entries ≠ [] ↔ ∃ name a, m.get? name = some a := by
  constructor
  · intro h
    obtain ⟨entry, he⟩ := List.exists_mem_of_ne_nil _ h
    exact ⟨entry.1, entry.2, (m.mem_entries_iff entry.1 entry.2).1 he⟩
  · rintro ⟨name, a, ha⟩
    exact List.ne_nil_of_mem ((m.mem_entries_iff name a).2 ha)

/-! ## Names -/

theorem nodup_names (m : NameMap α) : m.names.Nodup := by
  have hsorted : m.names.Pairwise (· < ·) := List.pairwise_map.2 m.sorted
  refine hsorted.imp ?_
  intro a b hlt heq
  exact String.lt_irrefl b (heq ▸ hlt)

/-! ## Look-ups after changes -/

@[simp] theorem get?_empty (name : String) : (empty : NameMap α).get? name = none := rfl

theorem get?_insert (m : NameMap α) (name other : String) (value : α) :
    (m.insert name value).get? other = if other = name then some value else m.get? other := by
  split
  · next h => exact h ▸ get?_insert_self m name value
  · next h => exact get?_insert_of_ne m h value

/-- entries that are put into a map one after another are found in it, and otherwise what was there before -/
theorem get?_inserts (l : List (String × α)) (hnames : (l.map (·.1)).Nodup) (m : NameMap α) (name : String) :
    (l.foldl (fun m entry => m.insert entry.1 entry.2) m).get? name =
      ((l.find? (·.1 == name)).map (·.2)).or (m.get? name) := by
  induction l generalizing m with
  | nil => rfl
  | cons entry rest ih =>
    obtain ⟨hentry, hrest⟩ := List.nodup_cons.1 hnames
    rw [List.foldl_cons, ih hrest, get?_insert, List.find?_cons]
    split
    · next hname =>
      -- the name is that of the first entry, and so of none of the others
      have hnone : rest.find? (·.1 == name) = none := by
        refine List.find?_eq_none.2 fun other hother heq => hentry (List.mem_map.2 ⟨other, hother, ?_⟩)
        exact (beq_iff_eq.1 heq).trans hname
      rw [hnone, hname, beq_self_eq_true]
      rfl
    · next hname =>
      have hne : (entry.1 == name) = false := by simpa using Ne.symm hname
      simp [hne]

/-- of entries with one name the last counts -/
theorem get?_inserts_eq (l : List (String × α)) (m : NameMap α) (name : String) :
    (l.foldl (fun m entry => m.insert entry.1 entry.2) m).get? name =
      ((l.filter (·.1 == name)).getLast?.map (·.2)).or (m.get? name) := by
  induction l generalizing m with
  | nil => rfl
  | cons entry rest ih =>
    rw [List.foldl_cons, ih, get?_insert, List.filter_cons]
    split
    · next hname =>
      rw [hname, beq_self_eq_true, if_pos rfl, List.getLast?_cons]
      cases (rest.filter (·.1 == entry.1)).getLast? <;> rfl
    · next hname =>
      have hother : (entry.1 == name) = false := by simpa using Ne.symm hname
      rw [hother, if_neg Bool.false_ne_true]

theorem get?_ofList_eq (l : List (String × α)) (name : String) :
    (ofList l).get? name = (l.filter (·.1 == name)).getLast?.map (·.2) := by
  rw [ofList, get?_inserts_eq, get?_empty, Option.or_none]

/-- what is found of entries in any order, each name once -/
theorem find?_iff_mem {l : List (String × α)} (hnames : (l.map (·.1)).Nodup) {name : String} {value : α} :
    (l.find? (·.1 == name)).map (·.2) = some value ↔ (name, value) ∈ l := by
  induction l with
  | nil => simp
  | cons entry rest ih =>
    obtain ⟨hentry, hrest⟩ := List.nodup_cons.1 hnames
    rw [List.find?_cons, List.mem_cons]
    by_cases hname : entry.1 = name
    · subst hname
      have hnot : (entry.1, value) ∉ rest := fun h => hentry (List.mem_map.2 ⟨_, h, rfl⟩)
      simp [hnot, Prod.ext_iff, eq_comm]
    · have hne : (entry.1 == name) = false := by simpa using hname
      have hother : (name, value) ≠ entry := fun h => hname (h ▸ rfl)
      simp [hne, hother, ih hrest]

/-- the entries of one name among entries in any order, each name once -/
theorem filter_eq_of_mem {l : List (String × α)} (hnames : (l.map (·.1)).Nodup) {name : String} {value : α}
    (h : (name, value) ∈ l) : l.filter (·.1 == name) = [(name, value)] := by
  induction l with
  | nil => cases h
  | cons entry rest ih =>
    obtain ⟨hentry, hrest⟩ := List.nodup_cons.1 hnames
    rw [List.filter_cons]
    rcases List.mem_cons.1 h with rfl | h
    · have hnone : rest.filter (·.1 == name) = [] := by
        refine List.filter_eq_nil_iff.2 fun other hother heq => hentry (List.mem_map.2 ⟨other, hother, ?_⟩)
        exact beq_iff_eq.1 heq
      rw [if_pos (beq_self_eq_true name), hnone]
    · have hne : entry.1 ≠ name := fun heq => hentry (List.mem_map.2 ⟨_, h, heq.symm⟩)
      rw [if_neg (by simpa using hne), ih hrest h]

theorem get?_ofList {l : List (String × α)} (hnames : (l.map (·.1)).Nodup) {name : String} {value : α} :
    (ofList l).get? name = some value ↔ (name, value) ∈ l := by
  rw [ofList, get?_inserts l hnames, get?_empty, Option.or_none, find?_iff_mem hnames]

theorem get?_mapWithName (f : String → α → β) (m : NameMap α) (name : String) :
    (m.mapWithName f).get? name = (m.get? name).map (f name) := by
  unfold get? mapWithName
  simp only [List.find?_map, Option.map_map]
  cases hfind : m.entries.find? (·.1 == name) with
  | none => simp [Function.comp_def, hfind]
  | some entry =>
    have hname : entry.1 = name := by simpa using List.find?_some hfind
    simp [Function.comp_def, hfind, hname]

theorem get?_map (f : α → β) (m : NameMap α) (name : String) : (m.map f).get? name = (m.get? name).map f :=
  get?_mapWithName _ m name

theorem get?_modify (m : NameMap α) (name other : String) (f : α → α) :
    (m.modify name f).get? other = (m.get? other).map fun a => if other = name then f a else a :=
  get?_mapWithName _ m other

theorem names_modify (m : NameMap α) (name : String) (f : α → α) : (m.modify name f).names = m.names := by
  simp [names, modify, mapWithName]

theorem find?_tryMapEntries {f : String → α → Except ε β} {l : List (String × α)} {l' : List (String × β)}
    (h : tryMapEntries f l = .ok l') (name : String) (b : β) :
    (l'.find? (·.1 == name)).map (·.2) = some b ↔
      ∃ a, (l.find? (·.1 == name)).map (·.2) = some a ∧ f name a = .ok b := by
  induction l generalizing l' with
  | nil =>
    cases h
    simp
  | cons entry rest ih =>
    obtain ⟨first, a⟩ := entry
    unfold tryMapEntries at h
    split at h
    · cases h
    · next b' hb =>
      split at h
      · cases h
      · next rest' hrest =>
        cases h
        by_cases hname : first = name
        · subst hname
          simp [hb]
        · have hne : (first == name) = false := by simpa using hname
          simpa [List.find?_cons, hne] using ih hrest

theorem get?_tryMap {f : String → α → Except ε β} {m : NameMap α} {m' : NameMap β} (h : m.tryMap f = .ok m')
    (name : String) (b : β) : m'.get? name = some b ↔ ∃ a, m.get? name = some a ∧ f name a = .ok b := by
  unfold tryMap at h
  split at h
  · cases h
  · next hentries =>
    cases h
    exact find?_tryMapEntries hentries name b

theorem names_tryMap {f : String → α → Except ε β} {m : NameMap α} {m' : NameMap β} (h : m.tryMap f = .ok m') :
    m'.names = m.names := by
  unfold tryMap at h
  split at h
  · cases h
  · next hentries =>
    cases h
    exact names_tryMapEntries hentries

theorem tryMapEntries_ok {f : String → α → Except ε β} {l : List (String × α)} :
    (∃ l', tryMapEntries f l = .ok l') ↔ ∀ entry ∈ l, ∃ b, f entry.1 entry.2 = .ok b := by
  induction l with
  | nil => simp [tryMapEntries]
  | cons entry rest ih =>
    rw [List.forall_mem_cons, ← ih]
    cases hentry : f entry.1 entry.2 with
    | error e => simp [tryMapEntries, hentry]
    | ok b => cases hrest : tryMapEntries f rest <;> simp [tryMapEntries, hentry, hrest]

theorem tryMap_ok {f : String → α → Except ε β} {m : NameMap α} :
    (∃ m', m.tryMap f = .ok m') ↔ ∀ entry ∈ m.entries, ∃ b, f entry.1 entry.2 = .ok b := by
  rw [← tryMapEntries_ok]
  unfold tryMap
  split
  · next h => simp [h]
  · next h => simp [h]

theorem tryMapEntries_error {f : String → α → Except ε β} {l : List (String × α)} {e : ε}
    (h : tryMapEntries f l = .error e) : ∃ before entry after, l = before ++ entry :: after ∧
      f entry.1 entry.2 = .error e ∧ ∀ other ∈ before, ∃ b, f other.1 other.2 = .ok b := by
  induction l with
  | nil => cases h
  | cons entry rest ih =>
    cases hentry : f entry.1 entry.2 with
    | error e' =>
      simp only [tryMapEntries, hentry, Except.error.injEq] at h
      exact ⟨[], entry, rest, rfl, h ▸ hentry, by simp⟩
    | ok b =>
      cases hrest : tryMapEntries f rest with
      | ok l => simp [tryMapEntries, hentry, hrest] at h
      | error e' =>
        simp only [tryMapEntries, hentry, hrest, Except.error.injEq] at h
        obtain ⟨before, bad, after, hsplit, hbad, hbefore⟩ := ih (hrest.trans (congrArg Except.error h))
        exact ⟨entry :: before, bad, after, by rw [hsplit]; rfl, hbad, List.forall_mem_cons.2 ⟨⟨b, hentry⟩, hbefore⟩⟩

theorem tryMap_error {f : String → α → Except ε β} {m : NameMap α} {e : ε} (h : m.tryMap f = .error e) :
    ∃ name a, m.get? name = some a ∧ f name a = .error e ∧
      ∀ other b, m.get? other = some b → other < name → ∃ c, f other b = .ok c := by
  unfold tryMap at h
  split at h
  · next hentries =>
    cases h
    obtain ⟨before, entry, after, hsplit, hbad, hbefore⟩ := tryMapEntries_error hentries
    refine ⟨entry.1, entry.2, (m.mem_entries_iff _ _).1 (by simp [hsplit]), hbad, ?_⟩
    intro other b hb hlt
    apply hbefore (other, b)
    -- what comes after the entry has a greater name
    have hmem := (m.mem_entries_iff _ _).2 hb
    have hsorted := m.sorted
    rw [hsplit] at hmem hsorted
    obtain ⟨-, hafter, -⟩ := List.pairwise_append.1 hsorted
    rcases List.mem_append.1 hmem with hmem | hmem
    · exact hmem
    · rcases List.mem_cons.1 hmem with rfl | hmem
      · exact absurd hlt (String.lt_irrefl _)
      · exact absurd ((List.pairwise_cons.1 hafter).1 _ hmem) (String.lt_asymm hlt)
  · cases h

theorem ext {m n : NameMap α} (h : m.entries = n.entries) : m = n := by
  cases m
  cases n
  simp_all

end NameMap

end EntityGateway
