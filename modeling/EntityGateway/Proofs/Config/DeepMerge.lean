/-
Merging, seen from every path.

A path of names leads into the objects of a value. What is at a path after one value was merged into another follows
from what was there in each of the two: objects on both sides come together, anything else that the second has takes the
place of what the first had, and where the second says nothing the first stays.

- `lookup_mergeMembers`: the members of one name, after a merge;
- `isMerge_merge`: what is at each path after a merge;
- `merge_merge`, `merge_self`: a second merge of the same value changes nothing;
- `IsMerge.eq_merge`: no other value has this at each path;
- `merging_goes_path_by_path`: the whole of it, for values and for their texts.
-/
import EntityGateway.Proofs.Config.Request
import EntityGateway.Proofs.Json.Rearrangement

namespace EntityGateway

namespace Json

/-! ## Values at paths -/

/-- the value that a path of names leads to -/
def at? : List String → Json → Option Json
  | [], v => some v
  | name :: path, v => (v.get? name).bind (at? path)

def IsObject (v : Json) : Prop := ∃ members, v = .object members

/-- what is at each path after one value was merged into another -/
structure IsMerge (base overrides merged : Json) : Prop where
  /-- two objects come to an object that has the names of both and no others -/
  joined : ∀ path b o, base.at? path = some (.object b) → overrides.at? path = some (.object o) →
    ∃ m, merged.at? path = some (.object m) ∧
      ∀ name, name ∈ m.map (·.1) ↔ name ∈ b.map (·.1) ∨ name ∈ o.map (·.1)
  /-- any other value of the overrides takes the place of what was there -/
  replaced : ∀ path v, overrides.at? path = some v →
    (∀ b, base.at? path = some b → ¬ (b.IsObject ∧ v.IsObject)) → merged.at? path = some v
  /-- where the overrides have nothing, but nothing else than objects on the way there, the base stays -/
  kept : ∀ path, overrides.at? path = none →
    (∀ front v, front <+: path → overrides.at? front = some v → v.IsObject) → merged.at? path = base.at? path
  /-- below a value of the overrides that is no object there is nothing -/
  hidden : ∀ path, overrides.at? path = none →
    (∃ front v, front <+: path ∧ overrides.at? front = some v ∧ ¬ v.IsObject) → merged.at? path = none

section Members

variable {name : String} {v w : Json} {members : List (String × Json)}

theorem lookup_insertEntry (name other : String) (v : Json) (members : List (String × Json)) :
    lookup other (insertEntry name v members) = if other = name then some v else lookup other members := by
  unfold lookup
  by_cases h : other = name
  · rw [if_pos h, h, NameMap.find?_insertEntry_self]
    rfl
  · rw [if_neg h, NameMap.find?_insertEntry_of_ne h]

theorem members_ext {members' : List (String × Json)} (h : members.Pairwise fun m n => m.1 < n.1)
    (h' : members'.Pairwise fun m n => m.1 < n.1) (hlookup : ∀ name, lookup name members = lookup name members') :
    members = members' := by
  have hmaps : (⟨members, h⟩ : NameMap Json) = ⟨members', h'⟩ := by
    refine NameMap.ext_get? fun name v => ?_
    exact iff_of_eq (congrArg (· = some v) (hlookup name))
  exact congrArg NameMap.entries hmaps

theorem nodup_of_sorted (h : members.Pairwise fun m n => m.1 < n.1) : (members.map (·.1)).Nodup :=
  NameMap.nodup_names ⟨members, h⟩

theorem not_isObject_of_get? (h : ¬ v.IsObject) : v.get? name = none := by
  cases v with
  | object members => exact absurd ⟨members, rfl⟩ h
  | null | boolean | number | string | array => rfl

theorem WellFormed.sorted (h : (Json.object members).WellFormed) : members.Pairwise fun m n => m.1 < n.1 := by
  cases h with
  | object hsorted _ => exact hsorted

theorem WellFormed.get? (h : v.WellFormed) (hw : v.get? name = some w) : w.WellFormed := by
  cases h with
  | object hsorted hmembers => exact hmembers _ ((NameMap.mem_entries_iff ⟨_, hsorted⟩ _ _).2 hw)
  | null | boolean | number | string | array => cases hw

/-! ## Members after a merge -/

theorem sorted_mergeMembers (overrides : List (String × Json)) (h : members.Pairwise fun m n => m.1 < n.1) :
    (mergeMembers members overrides).Pairwise fun m n => m.1 < n.1 := by
  induction overrides generalizing members with
  | nil => exact h
  | cons entry rest ih =>
    rw [mergeMembers]
    exact ih (sorted_insertEntry h)

/-- **The members of one name, after a merge**: those of both sides merged, or the one there is -/
theorem lookup_mergeMembers {overrides : List (String × Json)} (hnames : (overrides.map (·.1)).Nodup)
    (members : List (String × Json)) (name : String) : lookup name (mergeMembers members overrides) =
      Option.merge merge (lookup name members) (lookup name overrides) := by
  induction overrides generalizing members with
  | nil =>
    rw [mergeMembers]
    cases lookup name members <;> rfl
  | cons entry rest ih =>
    obtain ⟨first, v⟩ := entry
    obtain ⟨hfirst, hrest⟩ := List.nodup_cons.1 hnames
    rw [mergeMembers, ih hrest, lookup_insertEntry]
    by_cases h : name = first
    · subst h
      have hnone : lookup name rest = none := lookup_eq_none_iff.2 hfirst
      have hhead : lookup name ((name, v) :: rest) = some v := by simp [lookup]
      rw [if_pos rfl, hnone, hhead]
      cases lookup name members <;> rfl
    · have htail : lookup name ((first, v) :: rest) = lookup name rest := by simp [lookup, Ne.symm h]
      rw [if_neg h, htail]

/-- a merge that does not join two objects is the overrides -/
theorem merge_eq_right (h : ¬ (v.IsObject ∧ w.IsObject)) : v.merge w = w := by
  cases w with
  | object o =>
    cases v with
    | object b => exact absurd ⟨⟨b, rfl⟩, ⟨o, rfl⟩⟩ h
    | null | boolean | number | string | array => rw [merge]; simp
  | null | boolean | number | string | array => rw [merge]; simp

theorem merge_object (b o : List (String × Json)) : (Json.object b).merge (.object o) = .object (mergeMembers b o) := by
  rw [merge]

theorem get?_merge (hw : w.WellFormed) (hobject : w.IsObject) (v : Json) (name : String) :
    (v.merge w).get? name = Option.merge merge (v.get? name) (w.get? name) := by
  obtain ⟨o, rfl⟩ := hobject
  by_cases hv : v.IsObject
  · obtain ⟨b, rfl⟩ := hv
    rw [merge_object]
    exact lookup_mergeMembers (nodup_of_sorted hw.sorted) b name
  · rw [merge_eq_right fun h => hv h.1, not_isObject_of_get? hv, Option.merge_none_left]

end Members

/-! ## Paths after a merge -/

section Paths

variable {base overrides v w : Json} {name : String} {path : List String}

theorem at?_cons (name : String) (path : List String) (v : Json) :
    v.at? (name :: path) = (v.get? name).bind (at? path) := rfl

theorem at?_cons_eq_some : v.at? (name :: path) = some w ↔ ∃ x, v.get? name = some x ∧ x.at? path = some w :=
  Option.bind_eq_some_iff

theorem isObject_of_get? (h : v.get? name = some w) : v.IsObject := by
  by_contra hv
  rw [not_isObject_of_get? hv] at h
  cases h

theorem at?_singleton (name : String) (v : Json) : v.at? [name] = v.get? name := by
  rw [at?_cons]
  cases v.get? name <;> rfl

theorem at?_merge_of_both {x y : Json} (ho : overrides.WellFormed) (hx : base.get? name = some x)
    (hy : overrides.get? name = some y) (path : List String) :
    (base.merge overrides).at? (name :: path) = (x.merge y).at? path := by
  rw [at?_cons, get?_merge ho (isObject_of_get? hy), hx, hy]
  rfl

theorem at?_merge_of_right {y : Json} (ho : overrides.WellFormed) (hx : base.get? name = none)
    (hy : overrides.get? name = some y) (path : List String) :
    (base.merge overrides).at? (name :: path) = y.at? path := by
  rw [at?_cons, get?_merge ho (isObject_of_get? hy), hx, hy]
  rfl

theorem at?_merge_of_left (ho : overrides.WellFormed) (hobject : overrides.IsObject)
    (hy : overrides.get? name = none) (path : List String) :
    (base.merge overrides).at? (name :: path) = base.at? (name :: path) := by
  rw [at?_cons, get?_merge ho hobject, hy, Option.merge_none_right, at?_cons]

theorem mem_names_iff {members : List (String × Json)} :
    name ∈ members.map (·.1) ↔ ∃ v, lookup name members = some v := by
  rw [← Option.isSome_iff_exists, Option.isSome_iff_ne_none, Ne, lookup_eq_none_iff, not_not]

theorem names_mergeMembers {b o : List (String × Json)} (ho : (o.map (·.1)).Nodup) (name : String) :
    name ∈ (mergeMembers b o).map (·.1) ↔ name ∈ b.map (·.1) ∨ name ∈ o.map (·.1) := by
  rw [mem_names_iff, mem_names_iff, mem_names_iff, lookup_mergeMembers ho]
  cases lookup name b <;> cases lookup name o <;> simp

theorem joined_merge (ho : overrides.WellFormed) {b o : List (String × Json)}
    (hb : base.at? path = some (.object b)) (hpath : overrides.at? path = some (.object o)) :
    ∃ m, (base.merge overrides).at? path = some (.object m) ∧
      ∀ name, name ∈ m.map (·.1) ↔ name ∈ b.map (·.1) ∨ name ∈ o.map (·.1) := by
  induction path generalizing base overrides with
  | nil =>
    cases hb
    cases hpath
    exact ⟨_, congrArg some (merge_object b o), names_mergeMembers (nodup_of_sorted ho.sorted)⟩
  | cons name path ih =>
    obtain ⟨x, hx, hb⟩ := at?_cons_eq_some.1 hb
    obtain ⟨y, hy, hpath⟩ := at?_cons_eq_some.1 hpath
    rw [at?_merge_of_both ho hx hy]
    exact ih (ho.get? hy) hb hpath

theorem replaced_merge (ho : overrides.WellFormed) (hpath : overrides.at? path = some v)
    (hnot : ∀ b, base.at? path = some b → ¬ (b.IsObject ∧ v.IsObject)) :
    (base.merge overrides).at? path = some v := by
  induction path generalizing base overrides with
  | nil =>
    cases hpath
    exact congrArg some (merge_eq_right (hnot base rfl))
  | cons name path ih =>
    obtain ⟨y, hy, hpath⟩ := at?_cons_eq_some.1 hpath
    cases hx : base.get? name with
    | none => rw [at?_merge_of_right ho hx hy, hpath]
    | some x =>
      rw [at?_merge_of_both ho hx hy]
      refine ih (ho.get? hy) hpath fun b hb => hnot b ?_
      exact at?_cons_eq_some.2 ⟨x, hx, hb⟩

theorem kept_merge (ho : overrides.WellFormed) (hpath : overrides.at? path = none)
    (hway : ∀ front v, front <+: path → overrides.at? front = some v → v.IsObject) :
    (base.merge overrides).at? path = base.at? path := by
  induction path generalizing base overrides with
  | nil => cases hpath
  | cons name path ih =>
    have hobject : overrides.IsObject := hway [] overrides List.nil_prefix rfl
    cases hy : overrides.get? name with
    | none => exact at?_merge_of_left ho hobject hy path
    | some y =>
      have hy' : y.at? path = none := by simpa [at?_cons, hy] using hpath
      cases hx : base.get? name with
      | none => rw [at?_merge_of_right ho hx hy, hy', at?_cons, hx, Option.bind_none]
      | some x =>
        rw [at?_merge_of_both ho hx hy, at?_cons, hx, Option.bind_some]
        refine ih (ho.get? hy) hy' fun front v hfront hv => ?_
        exact hway (name :: front) v (List.cons_prefix_cons.2 ⟨rfl, hfront⟩) (at?_cons_eq_some.2 ⟨y, hy, hv⟩)

theorem hidden_merge (ho : overrides.WellFormed) (hpath : overrides.at? path = none) {front : List String}
    (hfront : front <+: path) (hv : overrides.at? front = some v) (hobject : ¬ v.IsObject) :
    (base.merge overrides).at? path = none := by
  induction front generalizing base overrides path with
  | nil =>
    cases hv
    rw [merge_eq_right fun h => hobject h.2, hpath]
  | cons name front ih =>
    obtain ⟨path, rfl⟩ := hfront
    obtain ⟨y, hy, hv⟩ := at?_cons_eq_some.1 hv
    have hy' : y.at? (front ++ path) = none := by simpa [at?_cons, hy] using hpath
    cases hx : base.get? name with
    | none => exact (at?_merge_of_right ho hx hy _).trans hy'
    | some x => exact (at?_merge_of_both ho hx hy _).trans (ih (ho.get? hy) hy' (List.prefix_append _ _) hv)

/-- **What is at each path after a merge** -/
theorem isMerge_merge (ho : overrides.WellFormed) (base : Json) : IsMerge base overrides (base.merge overrides) where
  joined _ _ _ hb hpath := joined_merge ho hb hpath
  replaced _ _ hpath hnot := replaced_merge ho hpath hnot
  kept _ hpath hway := kept_merge ho hpath hway
  hidden _ hpath hway := by
    obtain ⟨front, v, hfront, hv, hobject⟩ := hway
    exact hidden_merge ho hpath hfront hv hobject

end Paths

/-! ## Merging again -/

section Again

variable {v w : Json}

/-- **A value merged into itself** stays as it is -/
theorem merge_self (h : v.WellFormed) : v.merge v = v := by
  induction h with
  | object hsorted hmembers ih =>
    rw [merge_object]
    refine congrArg object (members_ext (sorted_mergeMembers _ hsorted) hsorted fun name => ?_)
    rw [lookup_mergeMembers (nodup_of_sorted hsorted)]
    cases hlookup : lookup name _ with
    | none => rfl
    | some x => exact congrArg some (ih _ ((NameMap.mem_entries_iff ⟨_, hsorted⟩ _ _).2 hlookup))
  | null | boolean | number | string | array => exact merge_eq_right fun h => by obtain ⟨⟨_, h⟩, -⟩ := h; cases h

/-- **A second merge of the same value** changes nothing -/
theorem merge_merge (hv : v.WellFormed) (hw : w.WellFormed) : (v.merge w).merge w = v.merge w := by
  induction hw generalizing v with
  | @object o hsorted hmembers ih =>
    by_cases hobject : v.IsObject
    · obtain ⟨b, rfl⟩ := hobject
      have hmerged := sorted_mergeMembers o hv.sorted
      rw [merge_object, merge_object]
      refine congrArg object (members_ext (sorted_mergeMembers o hmerged) hmerged fun name => ?_)
      rw [lookup_mergeMembers (nodup_of_sorted hsorted), lookup_mergeMembers (nodup_of_sorted hsorted)]
      cases hy : lookup name o with
      | none => rw [Option.merge_none_right]
      | some y =>
        have hmem : (name, y) ∈ o := (NameMap.mem_entries_iff ⟨o, hsorted⟩ name y).2 hy
        cases hx : lookup name b with
        | none => exact congrArg some (merge_self (hmembers _ hmem))
        | some x => exact congrArg some (ih _ hmem (hv.get? hx))
    · rw [merge_eq_right fun h => hobject h.1, merge_self (.object hsorted hmembers)]
  | null | boolean | number | string => rfl
  | array _ => rfl

theorem wellFormed_merge (hv : v.WellFormed) (hw : w.WellFormed) : (v.merge w).WellFormed := by
  induction hw generalizing v with
  | @object o hsorted hmembers ih =>
    by_cases hobject : v.IsObject
    · obtain ⟨b, rfl⟩ := hobject
      have hmerged := sorted_mergeMembers o hv.sorted
      rw [merge_object]
      refine .object hmerged fun m hm => ?_
      have hlookup : lookup m.1 (mergeMembers b o) = some m.2 := (NameMap.mem_entries_iff ⟨_, hmerged⟩ _ _).1 hm
      rw [lookup_mergeMembers (nodup_of_sorted hsorted)] at hlookup
      cases hx : lookup m.1 b with
      | none =>
        rw [hx, Option.merge_none_left] at hlookup
        exact hmembers _ ((NameMap.mem_entries_iff ⟨o, hsorted⟩ _ _).2 hlookup)
      | some x =>
        cases hy : lookup m.1 o with
        | none =>
          rw [hx, hy] at hlookup
          cases hlookup
          exact hv.get? hx
        | some y =>
          rw [hx, hy, Option.merge_some_some, Option.some.injEq] at hlookup
          rw [← hlookup]
          exact ih _ ((NameMap.mem_entries_iff ⟨o, hsorted⟩ _ _).2 hy) (hv.get? hx)
    · rw [merge_eq_right fun h => hobject h.1]
      exact .object hsorted hmembers
  | null => exact .null
  | boolean b => exact .boolean b
  | number n => exact .number n
  | string s => exact .string s
  | array hitems _ => exact .array hitems

theorem merge_empty (h : v.IsObject) : v.merge (.object []) = v := by
  obtain ⟨members, rfl⟩ := h
  rw [merge_object, mergeMembers]

end Again

/-! ## No other merge -/

section Unique

variable {base overrides merged x y z : Json} {name : String}

/-- below a name that all three have, a merge is a merge -/
theorem IsMerge.below (h : IsMerge base overrides merged) (hx : base.get? name = some x)
    (hy : overrides.get? name = some y) (hz : merged.get? name = some z) : IsMerge x y z := by
  have hbase : ∀ path, base.at? (name :: path) = x.at? path := fun path => by rw [at?_cons, hx, Option.bind_some]
  have hoverrides : ∀ path, overrides.at? (name :: path) = y.at? path := fun path => by
    rw [at?_cons, hy, Option.bind_some]
  have hmerged : ∀ path, merged.at? (name :: path) = z.at? path := fun path => by rw [at?_cons, hz, Option.bind_some]
  refine ⟨fun path b o hb ho => ?_, fun path v hv hnot => ?_, fun path hnone hway => ?_, fun path hnone hway => ?_⟩
  · rw [← hmerged]
    exact h.joined _ b o (by rw [hbase, hb]) (by rw [hoverrides, ho])
  · rw [← hmerged]
    exact h.replaced _ v (by rw [hoverrides, hv]) fun b hb => hnot b (by rw [← hbase, hb])
  · rw [← hmerged, ← hbase]
    refine h.kept _ (by rw [hoverrides, hnone]) fun front v hfront hv => ?_
    cases front with
    | nil =>
      cases hv
      exact isObject_of_get? hy
    | cons first front =>
      obtain ⟨rfl, hrest⟩ := List.cons_prefix_cons.1 hfront
      exact hway front v hrest (by rw [← hoverrides, hv])
  · obtain ⟨front, v, hfront, hv, hobject⟩ := hway
    rw [← hmerged]
    refine h.hidden _ (by rw [hoverrides, hnone]) ⟨name :: front, v, ?_, by rw [hoverrides, hv], hobject⟩
    exact List.cons_prefix_cons.2 ⟨rfl, hfront⟩

/-- where two objects do not meet, the overrides are all there is -/
theorem IsMerge.eq_of_not_both (h : IsMerge base overrides merged) (hboth : ¬ (base.IsObject ∧ overrides.IsObject)) :
    merged = base.merge overrides := by
  have hroot : merged.at? [] = some overrides := by
    refine h.replaced [] overrides rfl fun b hb => ?_
    cases hb
    exact hboth
  rw [merge_eq_right hboth]
  exact Option.some.inj hroot

/-- **What is at each path leaves no choice** -/
theorem IsMerge.eq_merge (h : IsMerge base overrides merged) (hm : merged.WellFormed) (hb : base.WellFormed)
    (ho : overrides.WellFormed) : merged = base.merge overrides := by
  induction ho generalizing base merged with
  | @object o hsorted hmembers ih =>
    by_cases hobject : base.IsObject
    · obtain ⟨b, rfl⟩ := hobject
      obtain ⟨m, hroot, hnames⟩ := h.joined [] b o rfl rfl
      obtain rfl : merged = .object m := Option.some.inj hroot
      rw [merge_object]
      refine congrArg object (members_ext hm.sorted (sorted_mergeMembers o hb.sorted) fun name => ?_)
      rw [lookup_mergeMembers (nodup_of_sorted hsorted)]
      cases hy : lookup name o with
      | none =>
        have hkept := h.kept [name] (by rw [at?_singleton]; exact hy) fun front v hfront hv => ?_
        · rw [Option.merge_none_right]
          rwa [at?_singleton, at?_singleton] at hkept
        · -- the way to a name is the object itself, or ends at the name
          cases front with
          | nil =>
            cases hv
            exact ⟨o, rfl⟩
          | cons first front =>
            obtain ⟨rfl, -⟩ := List.cons_prefix_cons.1 hfront
            obtain ⟨y, hy', -⟩ := at?_cons_eq_some.1 hv
            cases hy.symm.trans hy'
      | some y =>
        have hy' : (object o).at? [name] = some y := by rw [at?_singleton]; exact hy
        cases hx : lookup name b with
        | none =>
          have hreplaced := h.replaced [name] y hy' fun b' hb' => ?_
          · rwa [at?_singleton] at hreplaced
          · rw [at?_singleton] at hb'
            cases hx.symm.trans hb'
        | some x =>
          have hname : name ∈ m.map (·.1) := (hnames name).2 (.inl ?_)
          · obtain ⟨z, hz⟩ := mem_names_iff.1 hname
            have hmem : (name, y) ∈ o := (NameMap.mem_entries_iff ⟨o, hsorted⟩ name y).2 hy
            rw [hz, Option.merge_some_some]
            exact congrArg some (ih _ hmem (h.below hx hy hz) (hm.get? hz) (hb.get? hx))
          · exact mem_names_iff.2 ⟨x, hx⟩
    · exact h.eq_of_not_both fun hboth => hobject hboth.1
  | null | boolean | number | string | array =>
    refine h.eq_of_not_both fun hboth => ?_
    obtain ⟨-, _, ho⟩ := hboth
    cases ho

end Unique

/-! ## Texts -/

theorem wellFormed_parse {s : String} {v : Json} (h : parse s = .ok v) : v.WellFormed := by
  unfold parse at h
  cases hvalue : (readNode s.toList).1.value maxDepth with
  | error e =>
    simp only [hvalue] at h
    cases h
  | ok w =>
    simp only [hvalue] at h
    cases hending : ending (readNode s.toList).2 with
    | error e =>
      rw [hending] at h
      cases h
    | ok u =>
      rw [hending] at h
      cases h
      exact wellFormed_value _ hvalue

/-- **Merging goes path by path.** What is at each path after a merge is what the two values say there, and no other
value is like that; merging again changes nothing; and texts are merged by their values, of which blank overrides leave
the first -/
theorem merging_goes_path_by_path :
    (∀ base overrides : Json, base.WellFormed → overrides.WellFormed →
      IsMerge base overrides (base.merge overrides) ∧ (base.merge overrides).WellFormed ∧
      (∀ merged, merged.WellFormed → IsMerge base overrides merged → merged = base.merge overrides) ∧
      (base.merge overrides).merge overrides = base.merge overrides ∧
      (base.IsObject → base.merge (.object []) = base ∧ base.merge base = base)) ∧
    ∀ base overrides : String, (∀ v, parse base = .ok v → v.WellFormed) ∧
      ∀ text, RuntimeConfig.mergeTexts base overrides = .ok text ↔ ∃ b, parse base = .ok b ∧
        ((Text.isBlank overrides = true ∧ text = b.compact) ∨
          (Text.isBlank overrides = false ∧ ∃ o, parse overrides = .ok o ∧ text = (b.merge o).compact)) := by
  constructor
  · intro base overrides hbase hoverrides
    have hmerge : IsMerge base overrides (base.merge overrides) := isMerge_merge hoverrides base
    have hunique : ∀ merged, merged.WellFormed → IsMerge base overrides merged → merged = base.merge overrides :=
      fun merged hmerged h => h.eq_merge hmerged hbase hoverrides
    exact ⟨hmerge, wellFormed_merge hbase hoverrides, hunique, merge_merge hbase hoverrides,
      fun hobject => ⟨merge_empty hobject, merge_self hbase⟩⟩
  · intro base overrides
    exact ⟨fun v => wellFormed_parse, fun text => FirstConfig.mergeTexts_eq_ok_iff⟩

/-- a host whose options are changed in all three ways: one that is an object on both sides, one that is replaced by
another kind of value, and one that is new -/
theorem host_options_are_merged :
    let base : Json := .object [("host", .object [("mode", .string "production"), ("origins", .array [.string "a"])]),
      ("rest", .object [("path", .string "/api")])]
    let overrides : Json := .object [("graphql", .boolean true), ("host", .object [("mode", .string "development")]),
      ("rest", .null)]
    RuntimeConfig.mergeTexts base.compact overrides.compact =
        .ok "\x7b\"graphql\":true,\"host\":\x7b\"mode\":\"development\",\"origins\":[\"a\"]\x7d,\"rest\":null\x7d" ∧
      IsMerge base overrides (base.merge overrides) ∧
      (base.merge overrides).at? ["host", "origins"] = some (.array [.string "a"]) ∧
      (base.merge overrides).at? ["rest", "path"] = none ∧
      (base.merge overrides).merge overrides = base.merge overrides := by
  intro base overrides
  have hbase : base.WellFormed := by
    refine .object (by decide) ?_
    simp only [List.forall_mem_cons, List.not_mem_nil, false_implies, implies_true, and_true]
    refine ⟨.object (by decide) ?_, .object (by decide) ?_⟩
    · simpa using ⟨Json.WellFormed.string _, .array (by simpa using .string _)⟩
    · simpa using .string _
  have hoverrides : overrides.WellFormed := by
    refine .object (by decide) ?_
    simp only [List.forall_mem_cons, List.not_mem_nil, false_implies, implies_true, and_true]
    exact ⟨.boolean _, .object (by decide) (by simpa using .string _), .null⟩
  obtain ⟨hvalues, htexts⟩ := merging_goes_path_by_path
  obtain ⟨hmerge, -, -, hagain, -⟩ := hvalues base overrides hbase hoverrides
  refine ⟨((htexts _ _).2 _).2 ⟨base, ?_, .inr ⟨?_, overrides, ?_, ?_⟩⟩, hmerge, ?_, ?_, hagain⟩
  · rw [parse_compact hbase (by simp [base, leaves, leavesOfMembers, leavesOfItems]), if_pos (by decide)]
  · decide +kernel
  · rw [parse_compact hoverrides (by simp [overrides, leaves, leavesOfMembers]), if_pos (by decide)]
  · decide +kernel
  · rfl
  · exact hmerge.hidden _ rfl ⟨["rest"], .null, by decide, rfl, fun ⟨_, h⟩ => by cases h⟩

end Json

end EntityGateway
