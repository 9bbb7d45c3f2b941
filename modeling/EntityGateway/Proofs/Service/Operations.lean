/-
The operations of a document.

Every entity that has a route offers operations: a procedure one at its route, a table or view two at its route and four
at the route of one item below it. No two entities have one route, but nobody looks at the routes of items, and a route
may be written in any way. A document has one operation for each method of a path, and the first one stays, so what a
second entity offers at the same place is lost.

- `isMade_foldl`: what is in a document that is made of paths, one after the other;
- `place_of_id`: the name of an operation tells its place;
- `document_is_complete_iff`: when a document has all that is offered, told from the configuration alone;
- `routesApart_of_plain`: it has if no route has a closing brace and no key an opening one;
- `list_is_lost_to_item`: a configuration with the right properties, and an operation that its document lacks.
-/
import EntityGateway.Proofs.Config.Conditions
import EntityGateway.Proofs.Service.RootFields
import EntityGateway.Service.OpenApi

namespace EntityGateway.OpenApi

/-! ## What is offered -/

def itemPath (c : RuntimeConfig) (name : String) (e : Entity) : String := itemRoute (route c name e) (keySegment e)

/-- an entity offers an operation for a method of a path -/
inductive Offers (c : RuntimeConfig) (name : String) (e : Entity) : String → Method → Operation → Prop
  | execute (h : e.isProcedure = true) : Offers c name e (route c name e) .post ⟨name, "execute", none⟩
  | list (h : e.isProcedure = false) : Offers c name e (route c name e) .get ⟨name, "list", none⟩
  | create (h : e.isProcedure = false) : Offers c name e (route c name e) .post ⟨name, "create", none⟩
  | get (h : e.isProcedure = false) : Offers c name e (itemPath c name e) .get ⟨name, "get", some (keySegment e)⟩
  | replace (h : e.isProcedure = false) :
    Offers c name e (itemPath c name e) .put ⟨name, "replace", some (keySegment e)⟩
  | update (h : e.isProcedure = false) :
    Offers c name e (itemPath c name e) .patch ⟨name, "update", some (keySegment e)⟩
  | delete (h : e.isProcedure = false) :
    Offers c name e (itemPath c name e) .delete ⟨name, "delete", some (keySegment e)⟩

/-- an entity that has a route offers an operation -/
def Offered (c : RuntimeConfig) (path : String) (m : Method) (o : Operation) : Prop :=
  ∃ name e, c.entities.get? name = some e ∧ e.rest.enabled = true ∧ Offers c name e path m o

def Document.Has (d : Document) (path : String) (m : Method) (o : Operation) : Prop :=
  (m, o) ∈ (d.paths.get? path).getD []

def Document.ids (d : Document) : List String := d.paths.entries.flatMap fun p => p.2.map fun m => m.2.id

/-- nothing in a configuration makes two operations meet: neither is the route of a table or view the route of an item
of one, nor have items of two entities one route -/
structure RoutesApart (c : RuntimeConfig) : Prop where
  lists : ∀ x ∈ routed c, ∀ y ∈ routed c, x.2.isProcedure = false → y.2.isProcedure = false →
    itemRoute (RuntimeConfig.restPath x.1 x.2) (keySegment x.2) ≠ RuntimeConfig.restPath y.1 y.2
  items : ∀ x ∈ routed c, ∀ y ∈ routed c, x.2.isProcedure = false → y.2.isProcedure = false →
    itemRoute (RuntimeConfig.restPath x.1 x.2) (keySegment x.2) =
      itemRoute (RuntimeConfig.restPath y.1 y.2) (keySegment y.2) → x = y

section Offers

variable {c : RuntimeConfig} {name : String} {e : Entity} {path : String} {m : Method} {o : Operation}

theorem mem_routed {x : String × Entity} :
    x ∈ routed c ↔ c.entities.get? x.1 = some x.2 ∧ x.2.rest.enabled = true := by
  rw [routed, List.mem_filter, ← NameMap.mem_entries_iff]

theorem offered_iff : Offered c path m o ↔ ∃ x ∈ routed c, Offers c x.1 x.2 path m o := by
  constructor
  · rintro ⟨name, e, he, henabled, h⟩
    exact ⟨(name, e), mem_routed.2 ⟨he, henabled⟩, h⟩
  · rintro ⟨x, hx, h⟩
    obtain ⟨he, henabled⟩ := mem_routed.1 hx
    exact ⟨x.1, x.2, he, henabled, h⟩

theorem offers_iff : Offers c name e path m o ↔ ∃ item, (path, item) ∈ pathsOf c name e ∧ (m, o) ∈ item := by
  constructor
  · intro h
    cases h with
    | execute h => simp [pathsOf, h]
    | list h | create h | get h | replace h | update h | delete h => simp [pathsOf, h, itemPath]
  · rintro ⟨item, hpath, hm⟩
    unfold pathsOf at hpath
    by_cases h : e.isProcedure = true
    · simp only [h, if_true, List.mem_singleton, Prod.mk.injEq] at hpath
      obtain ⟨rfl, rfl⟩ := hpath
      simp only [List.mem_singleton, Prod.mk.injEq] at hm
      obtain ⟨rfl, rfl⟩ := hm
      exact .execute h
    · rw [Bool.not_eq_true] at h
      simp only [h, Bool.false_eq_true, if_false, List.mem_cons, List.not_mem_nil, or_false, Prod.mk.injEq] at hpath
      rcases hpath with ⟨rfl, rfl⟩ | ⟨rfl, rfl⟩
      · simp only [List.mem_cons, List.not_mem_nil, or_false, Prod.mk.injEq] at hm
        rcases hm with ⟨rfl, rfl⟩ | ⟨rfl, rfl⟩
        · exact .list h
        · exact .create h
      · simp only [List.mem_cons, List.not_mem_nil, or_false, Prod.mk.injEq] at hm
        rcases hm with ⟨rfl, rfl⟩ | ⟨rfl, rfl⟩ | ⟨rfl, rfl⟩ | ⟨rfl, rfl⟩
        · exact .get h
        · exact .replace h
        · exact .update h
        · exact .delete h

theorem itemRoute_ne (route key : String) : itemRoute route key ≠ route := by
  intro h
  have hlength := congrArg String.length h
  have hslash : "/".length = 1 := by decide
  simp only [itemRoute, String.length_append] at hlength
  omega

theorem itemRoute_append (base path key : String) : itemRoute (base ++ path) key = base ++ itemRoute path key := by
  simp only [itemRoute, String.append_assoc]

theorem nodup_pathsOf (c : RuntimeConfig) (name : String) (e : Entity) :
    ((pathsOf c name e).map (·.1)).Nodup ∧ ∀ p ∈ pathsOf c name e, (p.2.map (·.1)).Nodup := by
  have hne : route c name e ≠ itemRoute (route c name e) (keySegment e) := (itemRoute_ne _ _).symm
  unfold pathsOf
  by_cases h : e.isProcedure = true
  · simp [h]
  · simp [h, hne]

theorem Offers.unique {o' : Operation} (h : Offers c name e path m o) (h' : Offers c name e path m o') : o = o' := by
  obtain ⟨hpaths, hmethods⟩ := nodup_pathsOf c name e
  obtain ⟨item, hitem, ho⟩ := offers_iff.1 h
  obtain ⟨item', hitem', ho'⟩ := offers_iff.1 h'
  have hsame : item = item' := congrArg (·.2) (List.inj_on_of_nodup_map hpaths hitem hitem' rfl)
  subst hsame
  exact congrArg (·.2) (List.inj_on_of_nodup_map (hmethods _ hitem) ho ho' rfl)

/-- the verbs of operations; no two of them begin with one letter -/
def verbs : List String := ["execute", "list", "create", "get", "replace", "update", "delete"]

/-- the verbs of an entity with their methods and paths -/
def places (c : RuntimeConfig) (name : String) (e : Entity) : List (String × Method × String) :=
  [("execute", .post, route c name e), ("list", .get, route c name e), ("create", .post, route c name e),
    ("get", .get, itemPath c name e), ("replace", .put, itemPath c name e), ("update", .patch, itemPath c name e),
    ("delete", .delete, itemPath c name e)]

theorem Offers.mem_places (h : Offers c name e path m o) : (o.verb, m, path) ∈ places c name e := by
  cases h <;> simp [places]

theorem Offers.verb_mem (h : Offers c name e path m o) : o.verb ∈ verbs := by
  cases h <;> simp [verbs]

theorem Offers.entity_eq (h : Offers c name e path m o) : o.entity = name := by
  cases h <;> rfl

/-- the verb of an operation tells its place -/
theorem Offers.place_unique {path' : String} {m' : Method} {o' : Operation} (h : Offers c name e path m o)
    (h' : Offers c name e path' m' o') (hverb : o.verb = o'.verb) : path = path' ∧ m = m' := by
  have hnodup : ((places c name e).map (·.1)).Nodup := show verbs.Nodup by decide
  have hsame := List.inj_on_of_nodup_map hnodup h.mem_places h'.mem_places hverb
  simp only [Prod.mk.injEq] at hsame
  exact ⟨hsame.2.2, hsame.2.1⟩

theorem place_of_id {path' : String} {m' : Method} {o' : Operation} (h : Offered c path m o)
    (h' : Offered c path' m' o') (hid : o.id = o'.id) : path = path' ∧ m = m' := by
  obtain ⟨name, e, he, -, h⟩ := h
  obtain ⟨name', e', he', -, h'⟩ := h'
  unfold Operation.id at hid
  rw [String.append_assoc, String.append_assoc] at hid
  obtain ⟨hverb, hrest⟩ := TypeCatalog.word_unique (by decide) h.verb_mem h'.verb_mem hid
  have hentity : o.entity = o'.entity := (String.append_right_inj _).1 hrest
  have hname : name = name' := by rw [← h.entity_eq, ← h'.entity_eq, hentity]
  subst hname
  obtain rfl : e = e' := Option.some.inj (he.symm.trans he')
  exact h.place_unique h' hverb

/-- what an entity offers is at its route or, if it is a table or view, at the route of one item -/
theorem Offers.path_eq (h : Offers c name e path m o) :
    (path = route c name e ∧ (m = .post ∨ m = .get ∧ e.isProcedure = false)) ∨
      (path = itemPath c name e ∧ m ≠ .post ∧ e.isProcedure = false) := by
  cases h with
  | execute h => exact .inl ⟨rfl, .inl rfl⟩
  | list h => exact .inl ⟨rfl, .inr ⟨rfl, h⟩⟩
  | create h => exact .inl ⟨rfl, .inl rfl⟩
  | get h | replace h | update h | delete h => exact .inr ⟨rfl, nofun, h⟩

end Offers

/-! ## What is in a document -/

/-- a document made of paths with operations: it has nothing else, and one operation wherever there is one -/
structure IsMade (parts : List (String × PathItem)) (d : Document) : Prop where
  sound : ∀ path m o, d.Has path m o → ∃ item, (path, item) ∈ parts ∧ (m, o) ∈ item
  taken : ∀ path item m o, (path, item) ∈ parts → (m, o) ∈ item → ∃ o', d.Has path m o'
  single : ∀ path item, d.paths.get? path = some item → (item.map (·.1)).Nodup

section Made

variable {d : Document} {path : String} {item old new : PathItem} {m : Method} {o : Operation}
  {parts : List (String × PathItem)}

theorem mem_mergeItem : (m, o) ∈ mergeItem old new ↔ (m, o) ∈ old ∨ ((m, o) ∈ new ∧ ∀ o', (m, o') ∉ old) := by
  have hfree : (!old.any (·.1 == m)) = true ↔ ∀ o', (m, o') ∉ old := by
    simp only [Bool.not_eq_true', List.any_eq_false, beq_iff_eq, Prod.forall]
    constructor
    · exact fun h o' ho' => h m o' ho' rfl
    · rintro h a o' ho' rfl
      exact h o' ho'
  rw [mergeItem, List.mem_append, List.mem_filter, hfree]

theorem nodup_mergeItem (hold : (old.map (·.1)).Nodup) (hnew : (new.map (·.1)).Nodup) :
    ((mergeItem old new).map (·.1)).Nodup := by
  unfold mergeItem
  rw [List.map_append, List.nodup_append]
  refine ⟨hold, hnew.sublist (List.filter_sublist.map _), ?_⟩
  rintro m hm _ hm' rfl
  obtain ⟨old', hold', rfl⟩ := List.mem_map.1 hm
  obtain ⟨new', hnew', hsame⟩ := List.mem_map.1 hm'
  have hfree := (List.mem_filter.1 hnew').2
  rw [Bool.not_eq_true', List.any_eq_false] at hfree
  exact hfree old' hold' (beq_iff_eq.2 hsame.symm)

theorem get?_add (d : Document) (path other : String) (item : PathItem) : (d.add path item).paths.get? other =
    if other = path then some (mergeItem ((d.paths.get? path).getD []) item) else d.paths.get? other :=
  NameMap.get?_insert _ _ _ _

theorem has_add {other : String} : (d.add path item).Has other m o ↔
    d.Has other m o ∨ (other = path ∧ (m, o) ∈ item ∧ ∀ o', ¬ d.Has path m o') := by
  unfold Document.Has
  rw [get?_add]
  by_cases h : other = path
  · subst h
    rw [if_pos rfl, Option.getD_some, mem_mergeItem]
    simp
  · simp [h]

theorem isMade_empty : IsMade [] ⟨.empty⟩ where
  sound path m o h := absurd h List.not_mem_nil
  taken path item m o h := absurd h List.not_mem_nil
  single path item h := by cases h

theorem IsMade.add (h : IsMade parts d) (hitem : (item.map (·.1)).Nodup) :
    IsMade (parts ++ [(path, item)]) (d.add path item) := by
  refine ⟨fun other m o hhas => ?_, fun other item' m o hpart ho => ?_, fun other item' hget => ?_⟩
  · rcases has_add.1 hhas with hhas | ⟨rfl, ho, -⟩
    · obtain ⟨item', hpart, ho⟩ := h.sound other m o hhas
      exact ⟨item', List.mem_append_left _ hpart, ho⟩
    · exact ⟨item, List.mem_append_right _ List.mem_cons_self, ho⟩
  · rcases List.mem_append.1 hpart with hpart | hpart
    · obtain ⟨o', ho'⟩ := h.taken other item' m o hpart ho
      exact ⟨o', has_add.2 (.inl ho')⟩
    · obtain ⟨rfl, rfl⟩ := Prod.mk.inj (List.mem_singleton.1 hpart)
      by_cases htaken : ∃ o', d.Has other m o'
      · obtain ⟨o', ho'⟩ := htaken
        exact ⟨o', has_add.2 (.inl ho')⟩
      · exact ⟨o, has_add.2 (.inr ⟨rfl, ho, not_exists.1 htaken⟩)⟩
  · rw [get?_add] at hget
    split_ifs at hget with hpath
    · cases hget
      refine nodup_mergeItem ?_ hitem
      cases hold : d.paths.get? path with
      | none => exact List.nodup_nil
      | some old => exact h.single path old hold
    · exact h.single other item' hget

/-- **What is in a document that is made of paths**, one after the other -/
theorem isMade_foldl (hparts : ∀ p ∈ parts, (p.2.map (·.1)).Nodup) :
    IsMade parts (parts.foldl (fun d p => d.add p.1 p.2) ⟨.empty⟩) := by
  induction parts using List.reverseRecOn with
  | nil => exact isMade_empty
  | append_singleton parts p ih =>
    rw [List.foldl_append]
    exact (ih fun q hq => hparts q (List.mem_append_left _ hq)).add
      (hparts p (List.mem_append_right _ List.mem_cons_self))

theorem IsMade.unique (h : IsMade parts d) {o' : Operation} (ho : d.Has path m o) (ho' : d.Has path m o') :
    o = o' := by
  unfold Document.Has at ho ho'
  cases hitem : d.paths.get? path with
  | none =>
    rw [hitem] at ho
    cases ho
  | some item =>
    rw [hitem, Option.getD_some] at ho ho'
    exact congrArg (·.2) (List.inj_on_of_nodup_map (h.single path item hitem) ho ho' rfl)

/-- **Operations have different names**, if a name tells its place -/
theorem IsMade.nodup_ids (h : IsMade parts d) (hplace : ∀ path m o path' m' o', d.Has path m o → d.Has path' m' o' →
    o.id = o'.id → path = path' ∧ m = m') : d.ids.Nodup := by
  have hhas : ∀ p ∈ d.paths.entries, ∀ x ∈ p.2, d.Has p.1 x.1 x.2 := by
    intro p hp x hx
    rw [Document.Has, (NameMap.mem_entries_iff d.paths p.1 p.2).1 hp]
    exact hx
  refine List.nodup_flatMap.2 ⟨fun p hp => ?_, ?_⟩
  · have hmethods := h.single p.1 p.2 ((NameMap.mem_entries_iff d.paths p.1 p.2).1 hp)
    refine (List.nodup_map_iff_inj_on hmethods.of_map).2 fun x hx y hy hid => ?_
    have hsame := (hplace _ _ _ _ _ _ (hhas p hp x hx) (hhas p hp y hy) hid).2
    exact List.inj_on_of_nodup_map hmethods hx hy hsame
  · refine d.paths.sorted.imp_of_mem fun {p q} hp hq hlt id hid hid' => ?_
    obtain ⟨x, hx, rfl⟩ := List.mem_map.1 hid
    obtain ⟨y, hy, hsame⟩ := List.mem_map.1 hid'
    have hpath := (hplace _ _ _ _ _ _ (hhas p hp x hx) (hhas q hq y hy) hsame.symm).1
    exact String.lt_irrefl _ (hpath ▸ hlt)

end Made

/-! ## Whether anything is lost -/

section Complete

variable {c : RuntimeConfig} {path : String} {m : Method} {o : Operation}

theorem route_eq_iff {x y : String × Entity} :
    route c x.1 x.2 = route c y.1 y.2 ↔ RuntimeConfig.restPath x.1 x.2 = RuntimeConfig.restPath y.1 y.2 :=
  String.append_right_inj _

theorem itemPath_eq (c : RuntimeConfig) (x : String × Entity) : itemPath c x.1 x.2 =
    Text.trimEnd (· = '/') c.runtime.rest.path ++ itemRoute (RuntimeConfig.restPath x.1 x.2) (keySegment x.2) :=
  itemRoute_append _ _ _

theorem itemPath_eq_route_iff {x y : String × Entity} : itemPath c x.1 x.2 = route c y.1 y.2 ↔
    itemRoute (RuntimeConfig.restPath x.1 x.2) (keySegment x.2) = RuntimeConfig.restPath y.1 y.2 := by
  rw [itemPath_eq]
  exact String.append_right_inj _

theorem itemPath_eq_iff {x y : String × Entity} : itemPath c x.1 x.2 = itemPath c y.1 y.2 ↔
    itemRoute (RuntimeConfig.restPath x.1 x.2) (keySegment x.2) =
      itemRoute (RuntimeConfig.restPath y.1 y.2) (keySegment y.2) := by
  rw [itemPath_eq, itemPath_eq]
  exact String.append_right_inj _

/-- an entity has its route to itself -/
theorem eq_of_route_eq (hc : c.WellFormed) {x y : String × Entity} (hx : x ∈ routed c) (hy : y ∈ routed c)
    (h : RuntimeConfig.restPath x.1 x.2 = RuntimeConfig.restPath y.1 y.2) : x = y := by
  obtain ⟨hget, henabled⟩ := mem_routed.1 hx
  obtain ⟨hget', henabled'⟩ := mem_routed.1 hy
  have hname := hc.routes _ _ _ _ hget hget' henabled henabled' h
  rw [← hname, hget] at hget'
  exact Prod.ext hname (Option.some.inj hget')

theorem RoutesApart.eq_of_offers (h : RoutesApart c) (hc : c.WellFormed) {x y : String × Entity} (hx : x ∈ routed c)
    (hy : y ∈ routed c) {o' : Operation} (ho : Offers c x.1 x.2 path m o) (ho' : Offers c y.1 y.2 path m o') :
    x = y := by
  rcases ho.path_eq with ⟨rfl, hm⟩ | ⟨rfl, hm, hx'⟩
  · rcases ho'.path_eq with ⟨hpath, -⟩ | ⟨hpath, hm', hy'⟩
    · exact eq_of_route_eq hc hx hy (route_eq_iff.1 hpath)
    · have hx' := (hm.resolve_left hm').2
      exact absurd (itemPath_eq_route_iff.1 hpath.symm) (h.lists y hy x hx hy' hx')
  · rcases ho'.path_eq with ⟨hpath, hm'⟩ | ⟨hpath, -, hy'⟩
    · exact absurd (itemPath_eq_route_iff.1 hpath) (h.lists x hx y hy hx' (hm'.resolve_left hm).2)
    · exact h.items x hx y hy hx' hy' (itemPath_eq_iff.1 hpath)

theorem append_cons_unique {α : Type} {a a' b b' : List α} {x : α} (hb : x ∉ b) (hb' : x ∉ b')
    (h : a ++ x :: b = a' ++ x :: b') : a = a' ∧ b = b' := by
  have hnil : ∀ {b b' t : List α}, x ∉ b → x :: b = t ++ x :: b' → t = [] := by
    intro b b' t hb ht
    cases t with
    | nil => rfl
    | cons y t =>
      obtain ⟨-, rfl⟩ := List.cons.inj ht
      exact absurd (List.mem_append_right t List.mem_cons_self) hb
  rcases List.append_eq_append_iff.1 h with ⟨t, rfl, ht⟩ | ⟨t, rfl, ht⟩
  · obtain rfl := hnil hb ht
    simpa using ht
  · obtain rfl := hnil hb' ht
    simpa using ht.symm

/-- the route of an item is that of one entity, and has one key, if keys have no opening brace -/
theorem itemRoute_unique {r r' key key' : String} (hkey : '{' ∉ key.toList) (hkey' : '{' ∉ key'.toList)
    (h : itemRoute r key = itemRoute r' key') : r = r' ∧ key = key' := by
  have hchars (r key : String) : (itemRoute r key).toList =
      (r.toList ++ '/' :: (key.toList ++ ['/'])) ++ '{' :: (key.toList ++ ['}']) := by
    simp [itemRoute]
  have hclosed : ∀ {k : String}, '{' ∉ k.toList → '{' ∉ k.toList ++ ['}'] := by
    intro k hk
    simp [hk]
  have heq := congrArg String.toList h
  rw [hchars, hchars] at heq
  obtain ⟨hfront, hback⟩ := append_cons_unique (hclosed hkey) (hclosed hkey') heq
  obtain rfl : key = key' := String.toList_injective (List.append_cancel_right hback)
  exact ⟨String.toList_injective (List.append_cancel_right hfront), rfl⟩

/-- routes are apart if no route of an entity has a closing brace and no key an opening one -/
theorem routesApart_of_plain (hc : c.WellFormed)
    (hroutes : ∀ x ∈ routed c, '}' ∉ (RuntimeConfig.restPath x.1 x.2).toList)
    (hkeys : ∀ x ∈ routed c, '{' ∉ (keySegment x.2).toList) : RoutesApart c := by
  refine ⟨fun x hx y hy _ _ hpath => ?_, fun x hx y hy _ _ hpath => ?_⟩
  · refine hroutes y hy ?_
    rw [← hpath]
    simp [itemRoute]
  · obtain ⟨hroute, -⟩ := itemRoute_unique (hkeys x hx) (hkeys y hy) hpath
    exact eq_of_route_eq hc hx hy hroute

def allPaths (c : RuntimeConfig) : List (String × PathItem) := (routed c).flatMap fun x => pathsOf c x.1 x.2

theorem offered_iff_mem : Offered c path m o ↔ ∃ item, (path, item) ∈ allPaths c ∧ (m, o) ∈ item := by
  simp only [allPaths, offered_iff, offers_iff, List.mem_flatMap]
  constructor
  · rintro ⟨x, hx, item, hitem, ho⟩
    exact ⟨item, ⟨x, hx, hitem⟩, ho⟩
  · rintro ⟨item, ⟨x, hx, hitem⟩, ho⟩
    exact ⟨x, hx, item, hitem, ho⟩

theorem build_ok (hrest : c.runtime.rest.enabled = true) (hrouted : routed c ≠ []) :
    ∃ d, build c = .ok d ∧ IsMade (allPaths c) d := by
  have hmethods : ∀ p ∈ allPaths c, (p.2.map (·.1)).Nodup := by
    intro p hp
    obtain ⟨x, -, hp⟩ := List.mem_flatMap.1 hp
    exact (nodup_pathsOf c x.1 x.2).2 p hp
  refine ⟨(allPaths c).foldl (fun d p => d.add p.1 p.2) ⟨.empty⟩, ?_, isMade_foldl hmethods⟩
  simp [build, hrest, hrouted, allPaths]

variable {d : Document}

/-- a document has everything if nothing meets -/
theorem IsMade.has_of_apart (hd : IsMade (allPaths c) d) (hc : c.WellFormed) (h : RoutesApart c)
    (ho : Offered c path m o) : d.Has path m o := by
  obtain ⟨item, hitem, hmem⟩ := offered_iff_mem.1 ho
  obtain ⟨o', ho'⟩ := hd.taken path item m o hitem hmem
  obtain ⟨x, hx, hox⟩ := offered_iff.1 ho
  obtain ⟨y, hy, hoy⟩ := offered_iff.1 (offered_iff_mem.2 (hd.sound path m o' ho'))
  obtain rfl := h.eq_of_offers hc hx hy hox hoy
  exact hox.unique hoy ▸ ho'

/-- what meets cannot both be in a document -/
theorem IsMade.apart_of_has (hd : IsMade (allPaths c) d) (h : ∀ path m o, Offered c path m o → d.Has path m o) :
    RoutesApart c := by
  have hget : ∀ x ∈ routed c, x.2.isProcedure = false →
      d.Has (itemPath c x.1 x.2) .get ⟨x.1, "get", some (keySegment x.2)⟩ :=
    fun x hx htable => h _ _ _ (offered_iff.2 ⟨x, hx, .get htable⟩)
  refine ⟨fun x hx y hy hx' hy' hpath => ?_, fun x hx y hy hx' hy' hpath => ?_⟩
  · have hlist : d.Has (route c y.1 y.2) .get ⟨y.1, "list", none⟩ := h _ _ _ (offered_iff.2 ⟨y, hy, .list hy'⟩)
    rw [← itemPath_eq_route_iff.2 hpath] at hlist
    have hverb := congrArg Operation.verb (hd.unique (hget x hx hx') hlist)
    exact absurd hverb (show "get" ≠ "list" by decide)
  · have hitem := hget y hy hy'
    rw [← itemPath_eq_iff.2 hpath] at hitem
    have hname : x.1 = y.1 := congrArg Operation.entity (hd.unique (hget x hx hx') hitem)
    have hentity := (mem_routed.1 hx).1.symm.trans (hname ▸ (mem_routed.1 hy).1)
    exact Prod.ext hname (Option.some.inj hentity)

/-- **When a document is complete**

A configuration with the right properties and an entity that has a route has a document. All that is in it is offered,
and at every place where something is offered it has an operation; its operations have different names. It has
everything that is offered just if routes are apart. -/
theorem document_is_complete_iff (hproper : c.checkProperties = .ok ()) (hrest : c.runtime.rest.enabled = true)
    (hrouted : ∃ name e, c.entities.get? name = some e ∧ e.rest.enabled = true) :
    ∃ d, build c = .ok d ∧ (∀ path m o, d.Has path m o → Offered c path m o) ∧
      (∀ path m o, Offered c path m o → ∃ o', d.Has path m o') ∧ d.ids.Nodup ∧
      ((∀ path m o, Offered c path m o → d.Has path m o) ↔ RoutesApart c) := by
  have hc : c.WellFormed := (RuntimeConfig.wellFormed_iff c).2 ((RuntimeConfig.decides_checkProperties c).ok.1 hproper)
  have hsome : routed c ≠ [] := by
    obtain ⟨name, e, he, henabled⟩ := hrouted
    exact List.ne_nil_of_mem (mem_routed.2 ⟨he, henabled⟩ : (name, e) ∈ routed c)
  obtain ⟨d, hbuild, hd⟩ := build_ok hrest hsome
  have hsound : ∀ path m o, d.Has path m o → Offered c path m o :=
    fun path m o h => offered_iff_mem.2 (hd.sound path m o h)
  refine ⟨d, hbuild, hsound, fun path m o ho => ?_, ?_, hd.apart_of_has, fun h path m o => hd.has_of_apart hc h⟩
  · obtain ⟨item, hitem, hmem⟩ := offered_iff_mem.1 ho
    exact hd.taken path item m o hitem hmem
  · exact hd.nodup_ids fun path m o path' m' o' ho ho' => place_of_id (hsound _ _ _ ho) (hsound _ _ _ ho')

end Complete

/-! ### Books and their items -/

/-- two tables and a procedure; the second table may say what its route is -/
def booksRouted (itemsPath : Option String) : RuntimeConfig where
  schema := none
  defaultDataSource := "default"
  dataSources := NameMap.empty.insert "default" { databaseType := .postgres, connectionString := "host" }
  runtime := {}
  entities := ((NameMap.empty.insert
    "Book" { source := { object := "books" }, rest := { path := some "/books" } }).insert
    "Items" { source := { object := "items" }, rest := { path := itemsPath } }).insert
    "lend" { source := { object := "lend", kind := .storedProcedure } }

theorem books_are_documented : ∃ d, build (booksRouted none) = .ok d ∧
    (∀ path m o, d.Has path m o ↔ Offered (booksRouted none) path m o) ∧
    d.ids = ["list_Items", "create_Items", "get_Items", "replace_Items", "update_Items", "delete_Items", "list_Book",
      "create_Book", "get_Book", "replace_Book", "update_Book", "delete_Book", "execute_lend"] := by
  have hproper : (booksRouted none).checkProperties = .ok () := by decide
  have hc := (RuntimeConfig.wellFormed_iff _).2 ((RuntimeConfig.decides_checkProperties _).ok.1 hproper)
  have hapart : RoutesApart (booksRouted none) := routesApart_of_plain hc (by decide) (by decide)
  obtain ⟨d, hbuild, hsound, -, -, hcomplete⟩ := document_is_complete_iff hproper rfl ⟨"Book", _, rfl, rfl⟩
  refine ⟨d, hbuild, fun path m o => ⟨hsound path m o, hcomplete.2 hapart path m o⟩, ?_⟩
  cases hbuild
  decide

/-- **A list that is lost**: the route that the second table has is that of an item of the first one, and the document
has the operation on the item there -/
theorem list_is_lost_to_item : ∃ d,
    (booksRouted (some "/books/id/\x7bid\x7d")).checkProperties = .ok () ∧
    build (booksRouted (some "/books/id/\x7bid\x7d")) = .ok d ∧
    Offered (booksRouted (some "/books/id/\x7bid\x7d")) "/api/books/id/\x7bid\x7d" .get ⟨"Items", "list", none⟩ ∧
    ¬ d.Has "/api/books/id/\x7bid\x7d" .get ⟨"Items", "list", none⟩ ∧
    d.Has "/api/books/id/\x7bid\x7d" .get ⟨"Book", "get", some "id"⟩ ∧ "list_Items" ∉ d.ids := by
  refine ⟨_, by decide, rfl, ⟨"Items", _, rfl, rfl, .list rfl⟩, ?_, ?_, ?_⟩
  · unfold Document.Has
    decide
  · unfold Document.Has
    decide
  · decide

end EntityGateway.OpenApi
