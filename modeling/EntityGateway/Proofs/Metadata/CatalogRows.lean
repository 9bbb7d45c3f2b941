/-
How PostgreSQL's objects are put together from rows.

References are looked up one after another, each with as many queries as are needed, and everything that is answered is
used: columns, keys and parameters are the rows in their order, and rows about foreign keys are brought together by
their constraints, wherever they stand. A reference about which there are no rows has no object. After a query that
fails nothing more is asked.

- `Proceeds`: what a conversation asks, what it is answered and what it comes to, with a rule for each way to go on;
- `areKeysOf_groupRows`: rows about foreign keys are neither lost nor mixed up;
- `proceeds_load`, `proceeds_loadAll`: one reference, and all of them;
- `catalog_rows_become_objects`: what an introspection comes to.
-/
import EntityGateway.Metadata.Postgres
import Mathlib.Tactic
import Mathlib.Data.List.Dedup

namespace EntityGateway.Postgres

/-! ## Conversations -/

/-- a query that was sent, and its answer -/
structure Exchange where
  {α : Type}
  query : CatalogQuery α
  answer : Except DatabaseError α

/-- a query that does not fail -/
def Exchange.Succeeds (x : Exchange) : Prop := ∃ a, x.answer = .ok a

section Conversations

variable {σ α β : Type} {s : Server σ}

/-- a server answers one query after another -/
inductive Server.Answers (s : Server σ) : σ → List Exchange → σ → Prop
  | done (st : σ) : s.Answers st [] st
  | next {γ : Type} {q : CatalogQuery γ} {a : Except DatabaseError γ} {st mid st' : σ} {log : List Exchange}
      (h : s.answer q st = (a, mid)) (hlog : s.Answers mid log st') : s.Answers st (⟨q, a⟩ :: log) st'

theorem Server.Answers.append {st mid st' : σ} {log more : List Exchange} (hlog : s.Answers st log mid)
    (hmore : s.Answers mid more st') : s.Answers st (log ++ more) st' := by
  induction hlog with
  | done => exact hmore
  | next h _ ih => exact .next h (ih hmore)

/-- in whatever state the server is, the queries of a conversation with their answers, and what it comes to, are as
said, and the server is left in the state after the last of them -/
def Proceeds (s : Server σ) (c : Conversation σ α) (Q : List Exchange → Except DatabaseError α → Prop) : Prop :=
  ∀ st, ∃ log, s.Answers st log (c.run st).2 ∧ Q log (c.run st).1

theorem proceeds_pure {a : α} {Q : List Exchange → Except DatabaseError α → Prop} (h : Q [] (.ok a)) :
    Proceeds s (pure a) Q := fun st => ⟨[], .done st, h⟩

theorem proceeds_query (q : CatalogQuery α) : Proceeds s (s.query q) fun log a => log = [⟨q, a⟩] :=
  fun st => ⟨[⟨q, (s.answer q st).1⟩], .next rfl (.done _), rfl⟩

/-- a conversation goes on after a part that went well, and ends with one that did not -/
theorem Proceeds.bind {x : Conversation σ α} {f : α → Conversation σ β}
    {P : List Exchange → Except DatabaseError α → Prop} {Q : List Exchange → Except DatabaseError β → Prop}
    (hx : Proceeds s x P) (herror : ∀ log e, P log (.error e) → Q log (.error e))
    (hok : ∀ log a, P log (.ok a) → Proceeds s (f a) fun more b => Q (log ++ more) b) : Proceeds s (x >>= f) Q := by
  intro st
  obtain ⟨log, hlog, hP⟩ := hx st
  have hbind : (x >>= f).run st = ExceptT.bindCont f (x.run st).1 (x.run st).2 := rfl
  rw [hbind]
  generalize x.run st = part at hlog hP ⊢
  rcases part with ⟨e | a, mid⟩
  · exact ⟨log, hlog, herror log e hP⟩
  · obtain ⟨more, hmore, hQ⟩ := hok log a hP mid
    exact ⟨log ++ more, hlog.append hmore, hQ⟩

theorem proceeds_query_bind {q : CatalogQuery α} {f : α → Conversation σ β}
    {Q : List Exchange → Except DatabaseError β → Prop} (herror : ∀ e, Q [⟨q, .error e⟩] (.error e))
    (hok : ∀ a, Proceeds s (f a) fun more b => Q (⟨q, .ok a⟩ :: more) b) : Proceeds s (s.query q >>= f) Q := by
  refine (proceeds_query q).bind ?_ ?_
  · rintro log e rfl
    exact herror e
  · rintro log a rfl
    exact hok a

end Conversations

/-! ## Foreign keys -/

def rowsOf (rows : List ForeignKeyRow) (constraint : String) : List ForeignKeyRow :=
  rows.filter (·.constraint = constraint)

/-- the names of constraints, each once, in the order in which rows have them first -/
structure AreConstraintsOf (rows : List ForeignKeyRow) (names : List String) : Prop where
  mem : ∀ c, c ∈ names ↔ c ∈ rows.map (·.constraint)
  order : names.Pairwise fun c d => (rows.map (·.constraint)).idxOf c < (rows.map (·.constraint)).idxOf d

/-- a foreign key is that of a constraint: it leads to where the first of its rows leads, and has the pairs of columns
of all of them in their order -/
structure IsKeyOf (rows : List ForeignKeyRow) (constraint : String) (k : ForeignKey) : Prop where
  target : ∃ r, (rowsOf rows constraint).head? = some r ∧ k.schema = some r.schema ∧ k.name = r.name
  columns : k.columns = (rowsOf rows constraint).map (·.column)
  referencedColumns : k.referencedColumns = (rowsOf rows constraint).map (·.referencedColumn)

/-- foreign keys are those of some rows, one for each constraint, with nothing lost -/
structure AreKeysOf (rows : List ForeignKeyRow) (keys : List ForeignKey) : Prop where
  each : ∃ names, AreConstraintsOf rows names ∧ List.Forall₂ (IsKeyOf rows) names keys
  paired : ∀ k ∈ keys, k.columns.length = k.referencedColumns.length
  total : (keys.map (·.columns.length)).sum = rows.length

section Grouping

variable {rows : List ForeignKeyRow} {r : ForeignKeyRow} {names : List String} {c : String} {k : ForeignKey}
  {keys : List (String × ForeignKey)}

theorem rowsOf_concat (rows : List ForeignKeyRow) (r : ForeignKeyRow) (c : String) :
    rowsOf (rows ++ [r]) c = if r.constraint = c then rowsOf rows c ++ [r] else rowsOf rows c := by
  unfold rowsOf
  rw [List.filter_append]
  split_ifs with hc <;> simp [hc]

theorem rowsOf_eq_nil (h : c ∉ rows.map (·.constraint)) : rowsOf rows c = [] := by
  refine List.filter_eq_nil_iff.2 fun r hr => ?_
  simp only [decide_eq_true_eq]
  rintro rfl
  exact h (List.mem_map_of_mem hr)

/-- one more row of its constraint -/
theorem IsKeyOf.extend (h : IsKeyOf rows r.constraint k) : IsKeyOf (rows ++ [r]) r.constraint (r.extend k) := by
  have hrows : rowsOf (rows ++ [r]) r.constraint = rowsOf rows r.constraint ++ [r] := by
    rw [rowsOf_concat, if_pos rfl]
  obtain ⟨first, hfirst, htarget⟩ := h.target
  refine ⟨⟨first, ?_, htarget⟩, ?_, ?_⟩
  · rw [hrows, List.head?_append, hfirst]
    rfl
  · rw [hrows, List.map_append, ← h.columns]
    rfl
  · rw [hrows, List.map_append, ← h.referencedColumns]
    rfl

theorem IsKeyOf.other (h : IsKeyOf rows c k) (hc : c ≠ r.constraint) : IsKeyOf (rows ++ [r]) c k := by
  have hrows : rowsOf (rows ++ [r]) c = rowsOf rows c := by rw [rowsOf_concat, if_neg (Ne.symm hc)]
  exact ⟨hrows ▸ h.target, hrows ▸ h.columns, hrows ▸ h.referencedColumns⟩

theorem isKeyOf_start (h : r.constraint ∉ rows.map (·.constraint)) :
    IsKeyOf (rows ++ [r]) r.constraint r.start := by
  have hrows : rowsOf (rows ++ [r]) r.constraint = [r] := by
    rw [rowsOf_concat, if_pos rfl, rowsOf_eq_nil h, List.nil_append]
  refine ⟨⟨r, ?_, rfl, rfl⟩, ?_, ?_⟩ <;> rw [hrows] <;> rfl

theorem AreConstraintsOf.order_concat (h : AreConstraintsOf rows names) (r : ForeignKeyRow) :
    names.Pairwise fun c d =>
      ((rows ++ [r]).map (·.constraint)).idxOf c < ((rows ++ [r]).map (·.constraint)).idxOf d := by
  refine h.order.imp_of_mem ?_
  intro c d hc hd hlt
  rwa [List.map_append, List.idxOf_append_of_mem ((h.mem c).1 hc), List.idxOf_append_of_mem ((h.mem d).1 hd)]

theorem AreConstraintsOf.again (h : AreConstraintsOf rows names) (hc : r.constraint ∈ names) :
    AreConstraintsOf (rows ++ [r]) names where
  mem d := by
    rw [List.map_append, List.mem_append, h.mem d, List.map_singleton, List.mem_singleton]
    refine ⟨.inl, ?_⟩
    rintro (hd | rfl)
    · exact hd
    · exact (h.mem _).1 hc
  order := h.order_concat r

theorem AreConstraintsOf.fresh (h : AreConstraintsOf rows names) (hc : r.constraint ∉ names) :
    AreConstraintsOf (rows ++ [r]) (names ++ [r.constraint]) where
  mem d := by simp only [List.map_append, List.mem_append, h.mem d, List.map_singleton]
  order := by
    have hnew : r.constraint ∉ rows.map (·.constraint) := fun hmem => hc ((h.mem _).2 hmem)
    refine List.pairwise_append.2 ⟨h.order_concat r, List.pairwise_singleton .., ?_⟩
    intro d hd d' hd'
    rw [List.mem_singleton] at hd'
    subst hd'
    have hlt := List.idxOf_lt_length_of_mem ((h.mem d).1 hd)
    rw [List.map_append, List.idxOf_append_of_mem ((h.mem d).1 hd), List.idxOf_append_of_notMem hnew]
    omega

/-- keys are kept under the names of their constraints -/
structure Grouped (rows : List ForeignKeyRow) (keys : List (String × ForeignKey)) : Prop where
  names : AreConstraintsOf rows (keys.map (·.1))
  each : ∀ k ∈ keys, IsKeyOf rows k.1 k.2

theorem Grouped.extended (h : Grouped rows keys) (hc : r.constraint ∈ keys.map (·.1)) :
    Grouped (rows ++ [r]) (keys.map fun k => if k.1 = r.constraint then (k.1, r.extend k.2) else k) := by
  have hnames : (keys.map fun k => if k.1 = r.constraint then (k.1, r.extend k.2) else k).map (·.1) =
      keys.map (·.1) := by
    rw [List.map_map]
    refine List.map_congr_left fun k _ => ?_
    simp only [Function.comp]
    split_ifs <;> rfl
  refine ⟨hnames ▸ h.names.again hc, ?_⟩
  intro _ hchanged
  obtain ⟨k, hk, rfl⟩ := List.mem_map.1 hchanged
  have hkey := h.each k hk
  split_ifs with hsame
  · rw [hsame] at hkey ⊢
    exact hkey.extend
  · exact hkey.other hsame

theorem Grouped.started (h : Grouped rows keys) (hc : r.constraint ∉ keys.map (·.1)) :
    Grouped (rows ++ [r]) (keys ++ [(r.constraint, r.start)]) := by
  refine ⟨?_, ?_⟩
  · rw [List.map_append]
    exact h.names.fresh hc
  · intro k hk
    rcases List.mem_append.1 hk with hk | hk
    · refine (h.each k hk).other ?_
      intro hsame
      exact hc (hsame ▸ List.mem_map_of_mem hk)
    · rw [List.mem_singleton.1 hk]
      exact isKeyOf_start fun hmem => hc ((h.names.mem _).2 hmem)

/-- **One more row** goes to the key of its constraint, or makes a new key -/
theorem grouped_addRow (h : Grouped rows keys) (r : ForeignKeyRow) : Grouped (rows ++ [r]) (addRow keys r) := by
  have hknown : keys.any (·.1 == r.constraint) = true ↔ r.constraint ∈ keys.map (·.1) := by
    simp only [List.any_eq_true, beq_iff_eq, List.mem_map]
  unfold addRow
  split_ifs with hany
  · exact h.extended (hknown.1 hany)
  · exact h.started (mt hknown.2 hany)

theorem grouped_rows (rows : List ForeignKeyRow) : Grouped rows (rows.foldl addRow []) := by
  induction rows using List.reverseRecOn with
  | nil => exact ⟨⟨fun _ => Iff.rfl, .nil⟩, List.forall_mem_nil _⟩
  | append_singleton rows r ih =>
    rw [List.foldl_append]
    exact grouped_addRow ih r

/-- every row is one of its constraint and of no other -/
theorem length_rows (h : AreConstraintsOf rows names) :
    (names.map fun c => (rowsOf rows c).length).sum = rows.length := by
  have hnodup : names.Nodup := by
    refine h.order.imp ?_
    rintro c d hlt rfl
    exact lt_irrefl _ hlt
  have hperm : names.Perm (rows.map (·.constraint)).dedup :=
    (List.perm_ext_iff_of_nodup hnodup (List.nodup_dedup _)).2 fun c => by rw [h.mem, List.mem_dedup]
  have hcount : ∀ c, (rowsOf rows c).length = (rows.map (·.constraint)).count c := by
    intro c
    rw [rowsOf, ← List.countP_eq_length_filter, List.count, List.countP_map]
    refine List.countP_congr fun r _ => ?_
    simp
  simp only [hcount]
  rw [(hperm.map _).sum_eq, List.sum_map_count_dedup_eq_length, List.length_map]

/-- **Rows about foreign keys are neither lost nor mixed up** -/
theorem areKeysOf_groupRows (rows : List ForeignKeyRow) : AreKeysOf rows (groupRows rows) := by
  obtain ⟨hnames, heach⟩ := grouped_rows rows
  unfold groupRows
  generalize rows.foldl addRow [] = keys at hnames heach
  refine ⟨⟨_, hnames, ?_⟩, ?_, ?_⟩
  · rw [List.forall₂_map_left_iff, List.forall₂_map_right_iff, List.forall₂_same]
    exact heach
  · intro _ hkey
    obtain ⟨k, hk, rfl⟩ := List.mem_map.1 hkey
    rw [(heach k hk).columns, (heach k hk).referencedColumns, List.length_map, List.length_map]
  · rw [← length_rows hnames, List.map_map, List.map_map]
    refine congrArg List.sum (List.map_congr_left fun k hk => ?_)
    simp only [Function.comp, (heach k hk).columns, List.length_map]

end Grouping

/-! ## References -/

/-- the schema in which a reference is looked up -/
def schemaOf (r : ObjectRef) : String := r.schema.getD publicSchema

/-- the queries about a reference with their answers, and the object that they tell of, if there is one -/
inductive Tells (r : ObjectRef) : List Exchange → Option DatabaseObject → Prop
  | noColumns (hkind : r.kind ≠ .storedProcedure) : Tells r [⟨.columns (schemaOf r) r.name, .ok []⟩] none
  | relation (hkind : r.kind ≠ .storedProcedure) {columns : List Column} {primaryKey : List String}
      {rows : List ForeignKeyRow} {foreignKeys : List ForeignKey} (hcolumns : columns ≠ [])
      (hkeys : AreKeysOf rows foreignKeys) :
      Tells r [⟨.columns (schemaOf r) r.name, .ok columns⟩, ⟨.primaryKey (schemaOf r) r.name, .ok primaryKey⟩,
          ⟨.foreignKeys (schemaOf r) r.name, .ok rows⟩]
        (some { schema := some (schemaOf r), name := r.name, kind := r.kind, columns, primaryKey, foreignKeys })
  | noRoutine (hkind : r.kind = .storedProcedure) : Tells r [⟨.routine (schemaOf r) r.name, .ok none⟩] none
  | routine (hkind : r.kind = .storedProcedure) {specific : String} {parameters : List Parameter} :
      Tells r [⟨.routine (schemaOf r) r.name, .ok (some specific)⟩,
          ⟨.parameters (schemaOf r) specific, .ok parameters⟩]
        (some { schema := some (schemaOf r), name := r.name, kind := r.kind, parameters })

/-- the queries about a reference with their answers, up to one that fails -/
inductive BreaksOff (r : ObjectRef) (e : DatabaseError) : List Exchange → Prop
  | columns (hkind : r.kind ≠ .storedProcedure) : BreaksOff r e [⟨.columns (schemaOf r) r.name, .error e⟩]
  | primaryKey (hkind : r.kind ≠ .storedProcedure) {columns : List Column} (hcolumns : columns ≠ []) :
      BreaksOff r e [⟨.columns (schemaOf r) r.name, .ok columns⟩, ⟨.primaryKey (schemaOf r) r.name, .error e⟩]
  | foreignKeys (hkind : r.kind ≠ .storedProcedure) {columns : List Column} {primaryKey : List String}
      (hcolumns : columns ≠ []) :
      BreaksOff r e [⟨.columns (schemaOf r) r.name, .ok columns⟩, ⟨.primaryKey (schemaOf r) r.name, .ok primaryKey⟩,
        ⟨.foreignKeys (schemaOf r) r.name, .error e⟩]
  | routine (hkind : r.kind = .storedProcedure) : BreaksOff r e [⟨.routine (schemaOf r) r.name, .error e⟩]
  | parameters (hkind : r.kind = .storedProcedure) {specific : String} :
      BreaksOff r e [⟨.routine (schemaOf r) r.name, .ok (some specific)⟩,
        ⟨.parameters (schemaOf r) specific, .error e⟩]

/-- what is asked about one reference -/
def TellsOf (r : ObjectRef) (log : List Exchange) : Except DatabaseError (Option DatabaseObject) → Prop
  | .ok o => Tells r log o
  | .error e => BreaksOff r e log

/-- what is asked about references, one after another: what is told about each of them, with the objects in the order of
the references; or what is told about some, and what is asked about the next one up to a query that fails -/
inductive TellsAllOf (refs : List ObjectRef) : List Exchange → Except DatabaseError (List DatabaseObject) → Prop
  | objects {parts : List (List Exchange × Option DatabaseObject)}
      (htold : List.Forall₂ (fun r part => Tells r part.1 part.2) refs parts) :
      TellsAllOf refs (parts.flatMap (·.1)) (.ok (parts.filterMap (·.2)))
  | failure {before after : List ObjectRef} {r : ObjectRef} {parts : List (List Exchange × Option DatabaseObject)}
      {log : List Exchange} {e : DatabaseError} (hrefs : refs = before ++ r :: after)
      (htold : List.Forall₂ (fun r part => Tells r part.1 part.2) before parts) (hlast : BreaksOff r e log) :
      TellsAllOf refs (parts.flatMap (·.1) ++ log) (.error e)

section References

variable {σ : Type} {s : Server σ} {r : ObjectRef} {refs : List ObjectRef}

theorem proceeds_loadRelation (hkind : r.kind ≠ .storedProcedure) :
    Proceeds s (loadRelation s (schemaOf r) r.name r.kind) (TellsOf r) := by
  unfold loadRelation
  refine proceeds_query_bind (fun e => .columns hkind) fun columns => ?_
  split_ifs with hempty
  · obtain rfl := List.isEmpty_iff.1 hempty
    exact proceeds_pure (.noColumns hkind)
  · have hcolumns : columns ≠ [] := mt List.isEmpty_iff.2 hempty
    refine proceeds_query_bind (fun e => .primaryKey hkind hcolumns) fun primaryKey => ?_
    refine proceeds_query_bind (fun e => .foreignKeys hkind hcolumns) fun rows => ?_
    exact proceeds_pure (.relation hkind hcolumns (areKeysOf_groupRows rows))

theorem proceeds_loadRoutine (hkind : r.kind = .storedProcedure) :
    Proceeds s (loadRoutine s (schemaOf r) r.name) (TellsOf r) := by
  unfold loadRoutine
  refine proceeds_query_bind (fun e => .routine hkind) fun specific? => ?_
  cases specific? with
  | none => exact proceeds_pure (.noRoutine hkind)
  | some specific =>
    refine proceeds_query_bind (fun e => .parameters hkind) fun parameters => ?_
    rw [← hkind]
    exact proceeds_pure (.routine hkind)

/-- **One reference** is looked up as its kind wants it -/
theorem proceeds_load (r : ObjectRef) : Proceeds s (load s r) (TellsOf r) := by
  obtain ⟨schema, name, kind⟩ := r
  cases kind with
  | storedProcedure => exact proceeds_loadRoutine (r := ⟨schema, name, .storedProcedure⟩) rfl
  | table => exact proceeds_loadRelation (r := ⟨schema, name, .table⟩) nofun
  | view => exact proceeds_loadRelation (r := ⟨schema, name, .view⟩) nofun

theorem TellsAllOf.cons {log more : List Exchange} {o : Option DatabaseObject}
    {result : Except DatabaseError (List DatabaseObject)} (h : Tells r log o) (hmore : TellsAllOf refs more result) :
    TellsAllOf (r :: refs) (log ++ more) (result.map (o.toList ++ ·)) := by
  cases hmore with
  | @objects parts htold =>
    have hobjects : ((log, o) :: parts).filterMap (·.2) = o.toList ++ parts.filterMap (·.2) := by cases o <;> rfl
    have hall := TellsAllOf.objects (List.Forall₂.cons (a := r) (b := (log, o)) h htold)
    rw [hobjects] at hall
    exact hall
  | @failure before after r' parts last e hrefs htold hlast =>
    have hrefs : r :: refs = (r :: before) ++ r' :: after := by rw [hrefs, List.cons_append]
    have hall := TellsAllOf.failure hrefs (.cons (b := (log, o)) h htold) hlast
    rw [List.flatMap_cons, List.append_assoc] at hall
    exact hall

/-- **References are looked up one after another**, up to the first query that fails -/
theorem proceeds_loadAll (refs : List ObjectRef) : Proceeds s (loadAll s refs) (TellsAllOf refs) := by
  induction refs with
  | nil => exact proceeds_pure (.objects .nil)
  | cons r refs ih =>
    unfold loadAll
    refine (proceeds_load r).bind ?_ ?_
    · intro log e hlast
      exact .failure (List.nil_append (r :: refs)).symm .nil hlast
    · intro log o htold
      refine ih.bind ?_ ?_
      · intro more e hmore
        exact hmore.cons htold
      · intro more objects hmore
        refine proceeds_pure ?_
        rw [List.append_nil]
        exact hmore.cons htold

theorem Tells.succeeds {log : List Exchange} {o : Option DatabaseObject} (h : Tells r log o) :
    ∀ x ∈ log, x.Succeeds := by
  cases h with
  | noColumns => exact List.forall_mem_singleton.2 ⟨_, rfl⟩
  | relation => simp [Exchange.Succeeds]
  | noRoutine => exact List.forall_mem_singleton.2 ⟨_, rfl⟩
  | routine => simp [Exchange.Succeeds]

/-- of the queries up to one that fails, that is the only one -/
theorem BreaksOff.last {log : List Exchange} {e : DatabaseError} (h : BreaksOff r e log) :
    ∃ front last, log = front ++ [last] ∧ (∀ x ∈ front, x.Succeeds) ∧ last.answer = .error e := by
  cases h with
  | columns => exact ⟨[], _, rfl, List.forall_mem_nil _, rfl⟩
  | primaryKey => exact ⟨[_], _, rfl, List.forall_mem_singleton.2 ⟨_, rfl⟩, rfl⟩
  | foreignKeys => exact ⟨[_, _], _, rfl, by simp [Exchange.Succeeds], rfl⟩
  | routine => exact ⟨[], _, rfl, List.forall_mem_nil _, rfl⟩
  | parameters => exact ⟨[_], _, rfl, List.forall_mem_singleton.2 ⟨_, rfl⟩, rfl⟩

theorem succeeds_of_told {parts : List (List Exchange × Option DatabaseObject)}
    (htold : List.Forall₂ (fun r part => Tells r part.1 part.2) refs parts) :
    ∀ x ∈ parts.flatMap (·.1), x.Succeeds := by
  induction htold with
  | nil => exact List.forall_mem_nil _
  | cons h _ ih =>
    rw [List.flatMap_cons]
    exact List.forall_mem_append.2 ⟨h.succeeds, ih⟩

/-- **Nothing is asked after a query that fails**, and its error is the result -/
theorem TellsAllOf.verdict {log : List Exchange} {result : Except DatabaseError (List DatabaseObject)}
    (h : TellsAllOf refs log result) :
    ((∀ x ∈ log, x.Succeeds) ∧ ∃ objects, result = .ok objects) ∨
      ∃ front last e, log = front ++ [last] ∧ (∀ x ∈ front, x.Succeeds) ∧ last.answer = .error e ∧
        result = .error e := by
  cases h with
  | objects htold => exact .inl ⟨succeeds_of_told htold, _, rfl⟩
  | @failure before after r parts last e _ htold hlast =>
    obtain ⟨front, x, rfl, hfront, hx⟩ := hlast.last
    refine .inr ⟨parts.flatMap (·.1) ++ front, x, e, (List.append_assoc ..).symm, ?_, hx, rfl⟩
    exact List.forall_mem_append.2 ⟨succeeds_of_told htold, hfront⟩

end References

/-! ## Introspections -/

/-- **Rows become objects**: with a connection, references are looked up one after another. If all queries succeed there
is one object for each reference about which there are rows, in the order of the references; if one fails its error is
the result, and nothing is asked any more. Without a connection nothing is asked at all. -/
theorem catalog_rows_become_objects {σ : Type} (s : Server σ) (source : DataSource) (refs : List ObjectRef)
    (session : Session σ) :
    (∀ e opened, connect s source session = (.error e, opened) →
      introspect s source refs session = (.error e, opened)) ∧
    ∀ opened, connect s source session = (.ok (), opened) → ∃ log st,
      s.Answers opened.server log st ∧ (introspect s source refs session).2 = { opened with server := st } ∧
      TellsAllOf refs log (introspect s source refs session).1 ∧
      (((∀ x ∈ log, x.Succeeds) ∧ ∃ objects, (introspect s source refs session).1 = .ok objects) ∨
        ∃ front last e, log = front ++ [last] ∧ (∀ x ∈ front, x.Succeeds) ∧ last.answer = .error e ∧
          (introspect s source refs session).1 = .error e) := by
  constructor
  · intro e opened hconnect
    unfold introspect
    rw [hconnect]
  · intro opened hconnect
    obtain ⟨log, hlog, htold⟩ := proceeds_loadAll (s := s) refs opened.server
    have hresult : introspect s source refs session = (((loadAll s refs).run opened.server).1,
        { opened with server := ((loadAll s refs).run opened.server).2 }) := by
      unfold introspect
      rw [hconnect]
      rfl
    rw [hresult]
    exact ⟨log, _, hlog, rfl, htold, htold.verdict⟩

/-! ### Lines and bills -/

/-- the references to a table, to a view and to a procedure -/
def ledgerRefs : List ObjectRef :=
  [⟨none, "lines", .table⟩, ⟨some "audit", "totals", .view⟩, ⟨some "audit", "bill", .storedProcedure⟩]

/-- the rows of a database without the view; two foreign keys of the table are mixed -/
def ledgerRows {α : Type} : CatalogQuery α → α
  | .columns _ name => if name = "lines" then [⟨"id", "integer", false, true⟩, ⟨"day", "date", false, false⟩] else []
  | .primaryKey _ _ => ["id"]
  | .foreignKeys _ _ =>
    [⟨"in_book", "public", "books", "day", "opened"⟩, ⟨"in_page", "audit", "pages", "day", "day"⟩,
      ⟨"in_book", "public", "books", "id", "line"⟩]
  | .routine _ name => some (name ++ "_1")
  | .parameters _ _ => [⟨"day", "date"⟩]

/-- a server of that database, which counts its queries -/
def ledgerServer : Server Nat where
  login _ _ n := (.ok (), n)
  answer q n := (.ok (ledgerRows q), n + 1)

theorem ledger_rows_become_objects : ∃ log,
    connect ledgerServer { databaseType := .postgres, connectionString := "host" } ⟨[], 0⟩ = (.ok (), ⟨["host"], 0⟩) ∧
    ledgerServer.Answers 0 log 6 ∧ (∀ x ∈ log, x.Succeeds) ∧
    TellsAllOf ledgerRefs log (.ok
      [{ schema := some "public", name := "lines", primaryKey := ["id"],
         columns := [⟨"id", "integer", false, true⟩, ⟨"day", "date", false, false⟩],
         foreignKeys := [⟨some "public", "books", ["day", "id"], ["opened", "line"]⟩,
           ⟨some "audit", "pages", ["day"], ["day"]⟩] },
       { schema := some "audit", name := "bill", kind := .storedProcedure, parameters := [⟨"day", "date"⟩] }]) := by
  obtain ⟨log, st, hlog, hstate, htold, hverdict⟩ := (catalog_rows_become_objects ledgerServer
    { databaseType := .postgres, connectionString := "host" } ledgerRefs ⟨[], 0⟩).2 ⟨["host"], 0⟩ rfl
  obtain rfl : 6 = st := congrArg Session.server hstate
  refine ⟨log, rfl, hlog, ?_, htold⟩
  rcases hverdict with ⟨hall, -⟩ | ⟨_, _, _, -, -, -, herror⟩
  · exact hall
  · cases herror

end EntityGateway.Postgres
