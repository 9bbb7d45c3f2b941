/-
Sets of metadata that are built from a snapshot.

Such a set has a provider for each data source of the snapshot, made from its configuration. What is learned of the
databases changes the providers, but not what they are made from.

- `builtFrom_ofSnapshot`, `builtFrom_launch`, `builtFrom_settle`: a set that is made stays built from its snapshot;
- `builtFrom_step`: so does one in its place, whatever happens to the gateway;
- `settles_filter`, `get?_learned`: initializations end in any order, and what is learned of a data source is how its
  own one ends.
-/
import EntityGateway.Proofs.Orchestration.Soundness

namespace EntityGateway

/-! ## Sets of metadata -/

/-- a set has a provider for each data source of a snapshot, made from its configuration -/
structure ProviderSet.BuiltFrom (set : ProviderSet) (s : Snapshot) : Prop where
  snapshot : set.snapshot = some s
  names : set.providers.names = s.config.dataSources.names
  configs : ∀ entry ∈ set.providers.entries, entry.2.config = s.config

section Sets

variable {set launched : ProviderSet} {s : Snapshot}

theorem config_makeProvider {i : Introspectors ι} {c : RuntimeConfig} {name : String} {source : DataSource}
    {p : Provider} (h : ProviderSet.makeProvider i c name source = .ok p) : p.config = c := by
  unfold ProviderSet.makeProvider at h
  split at h
  · cases h
  · split_ifs at h
    cases h
    rfl

theorem builtFrom_ofSnapshot {i : Introspectors ι} (h : ProviderSet.ofSnapshot i s = .ok set) : set.BuiltFrom s := by
  unfold ProviderSet.ofSnapshot at h
  split at h
  · rename_i providers hproviders
    cases h
    refine ⟨rfl, NameMap.names_tryMap hproviders, fun entry he => ?_⟩
    have hfound := (NameMap.mem_entries_iff _ _ _).1 he
    obtain ⟨source, -, hmade⟩ := (NameMap.get?_tryMap hproviders entry.1 entry.2).1 hfound
    exact config_makeProvider hmade
  · cases h

theorem builtFrom_modify (h : set.BuiltFrom s) (name : String) {f : Provider → Provider}
    (hf : ∀ p, p.config = s.config → (f p).config = s.config) :
    ProviderSet.BuiltFrom { set with providers := set.providers.modify name f } s := by
  refine ⟨h.snapshot, ?_, fun entry he => ?_⟩
  · rw [← h.names]
    exact NameMap.names_modify ..
  · obtain ⟨old, hold, rfl⟩ := List.mem_map.1 he
    have hconfig := h.configs old hold
    show (if old.1 = name then f old.2 else old.2).config = s.config
    split_ifs
    · exact hf _ hconfig
    · exact hconfig

theorem begin_eq (p : Provider) : ∃ state, p.begin.1 = { p with state } := by
  unfold Provider.begin
  simp only
  split
  · split <;> exact ⟨_, rfl⟩
  · split <;> exact ⟨_, rfl⟩

theorem config_begin (p : Provider) : p.begin.1.config = p.config := by
  obtain ⟨state, hbegin⟩ := begin_eq p
  rw [hbegin]

theorem name_begin (p : Provider) : p.begin.1.name = p.name := by
  obtain ⟨state, hbegin⟩ := begin_eq p
  rw [hbegin]

theorem config_launch (i : Introspectors ι) (limit : Duration) (now : Nat) (p : Provider) (memory : ι) :
    (p.launch i limit now memory).1.config = p.config := by
  rw [← config_begin p]
  unfold Provider.launch
  split
  · rename_i h
    rw [h]
  · rename_i h
    rw [h]

theorem config_launchEach (i : Introspectors ι) (limit : Duration) (now : Nat) {c : RuntimeConfig} (l : List Provider)
    (memory : ι) (h : ∀ p ∈ l, p.config = c) : ∀ p ∈ (ProviderSet.launchEach i limit now l memory).1, p.config = c := by
  induction l generalizing memory with
  | nil => simp [ProviderSet.launchEach]
  | cons p l ih =>
    intro q hq
    simp only [ProviderSet.launchEach, List.mem_cons] at hq
    rcases hq with rfl | hq
    · rw [config_launch]
      exact h p List.mem_cons_self
    · exact ih _ (fun p hp => h p (List.mem_cons_of_mem _ hp)) q hq

theorem builtFrom_puts (l : List Provider) (h : set.BuiltFrom s) (hl : ∀ p ∈ l, p.config = s.config) :
    (l.foldl ProviderSet.put set).BuiltFrom s := by
  induction l generalizing set with
  | nil => exact h
  | cons p l ih =>
    have hput : (set.put p).BuiltFrom s := builtFrom_modify h p.name fun _ _ => hl p List.mem_cons_self
    exact ih hput fun q hq => hl q (List.mem_cons_of_mem _ hq)

theorem builtFrom_launch {i : Introspectors ι} {limit : Duration} {now : Nat} {memory asked : ι}
    {tasks : List SourceTask} (h : set.BuiltFrom s)
    (hlaunch : set.launch i limit now memory = (launched, tasks, asked)) : launched.BuiltFrom s := by
  simp only [ProviderSet.launch] at hlaunch
  cases hlaunch
  refine builtFrom_puts _ h (config_launchEach i limit now _ memory fun p hp => ?_)
  obtain ⟨entry, he, rfl⟩ := List.mem_map.1 hp
  exact h.configs entry he

theorem finish_eq (p : Provider) (e : Ending) : ∃ state, p.finish e = { p with state } := by
  unfold Provider.finish
  split
  · unfold Provider.publishFound
    split <;> exact ⟨_, rfl⟩
  all_goals exact ⟨_, rfl⟩

theorem finishAlone_eq (p : Provider) (e : Ending) : ∃ state, p.finishAlone e = { p with state } := by
  unfold Provider.finishAlone
  split
  · exact ⟨_, rfl⟩
  · exact ⟨_, rfl⟩
  · exact ⟨_, rfl⟩
  · exact finish_eq p _

theorem config_finish (p : Provider) (e : Ending) : (p.finish e).config = p.config := by
  obtain ⟨state, hfinish⟩ := finish_eq p e
  rw [hfinish]

theorem builtFrom_settle (h : set.BuiltFrom s) (t : SourceTask) : (set.settle t).BuiltFrom s :=
  builtFrom_modify h t.name fun p hp => (config_finish p t.ending).trans hp

theorem config_finishAlone (p : Provider) (e : Ending) : (p.finishAlone e).config = p.config := by
  obtain ⟨state, hfinish⟩ := finishAlone_eq p e
  rw [hfinish]

theorem builtFrom_settleAlone (h : set.BuiltFrom s) (t : SourceTask) : (set.settleAlone t).BuiltFrom s :=
  builtFrom_modify h t.name fun p hp => (config_finishAlone p t.ending).trans hp

end Sets

/-! ## Initializations in any order -/

namespace ProviderSet

/-- two initializations of different data sources end in either order -/
theorem settle_comm (set : ProviderSet) {t u : SourceTask} (h : t.name ≠ u.name) :
    (set.settle t).settle u = (set.settle u).settle t := by
  unfold settle
  refine congrArg (ProviderSet.mk set.snapshot) (NameMap.ext ?_)
  simp only [NameMap.modify, NameMap.mapWithName, List.map_map]
  refine List.map_congr_left fun entry _ => Prod.ext rfl ?_
  by_cases ht : entry.1 = t.name
  · have hu : entry.1 ≠ u.name := fun hu => h (ht.symm.trans hu)
    simp [ht, ht ▸ hu]
  · simp [ht]

/-- **An initialization that ends before its turn** makes no difference in the end -/
theorem settles_filter {l : List SourceTask} (hnames : (l.map (·.name)).Nodup) {t : SourceTask} (ht : t ∈ l)
    (set : ProviderSet) : (l.filter (·.name ≠ t.name)).foldl settle (set.settle t) = l.foldl settle set := by
  induction l generalizing set with
  | nil => cases ht
  | cons u l ih =>
    obtain ⟨hu, hrest⟩ := List.nodup_cons.1 hnames
    rcases List.mem_cons.1 ht with rfl | ht
    · have hfilter : l.filter (·.name ≠ t.name) = l := by
        refine List.filter_eq_self.2 fun v hv => decide_eq_true ?_
        exact fun he => hu (List.mem_map.2 ⟨v, hv, he⟩)
      rw [List.filter_cons_of_neg (by simp), hfilter, List.foldl_cons]
    · have hne : u.name ≠ t.name := fun he => hu (List.mem_map.2 ⟨t, ht, he.symm⟩)
      rw [List.filter_cons_of_pos (by simpa using hne), List.foldl_cons, List.foldl_cons, settle_comm set hne.symm]
      exact ih hrest ht _

theorem name_makeProvider {i : Introspectors ι} {c : RuntimeConfig} {name : String} {source : DataSource} {p : Provider}
    (h : makeProvider i c name source = .ok p) : p.name = name ∧ p.state = {} := by
  unfold makeProvider at h
  split at h
  · cases h
  · split_ifs at h
    cases h
    exact ⟨rfl, rfl⟩

/-- the providers of a new set, by name; nothing is known of their objects -/
theorem made_ofSnapshot {i : Introspectors ι} {s : Snapshot} {set : ProviderSet} (h : ofSnapshot i s = .ok set) :
    ∀ entry ∈ set.providers.entries, entry.2.name = entry.1 ∧ entry.2.state = {} := by
  unfold ofSnapshot at h
  split at h
  · rename_i providers hproviders
    cases h
    intro entry he
    have hfound := (NameMap.mem_entries_iff _ _ _).1 he
    obtain ⟨source, -, hmade⟩ := (NameMap.get?_tryMap hproviders entry.1 entry.2).1 hfound
    exact name_makeProvider hmade
  · cases h

/-- providers are kept under their own names -/
def Named (set : ProviderSet) : Prop := ∀ entry ∈ set.providers.entries, entry.2.name = entry.1

theorem named_ofSnapshot {i : Introspectors ι} {s : Snapshot} {set : ProviderSet} (h : ofSnapshot i s = .ok set) :
    set.Named := fun entry he => (made_ofSnapshot h entry he).1

end ProviderSet

theorem launch_eq (i : Introspectors ι) (limit : Duration) (now : Nat) (p : Provider) (memory : ι) :
    (p.launch i limit now memory).1 = p.begin.1 ∧ (p.launch i limit now memory).2.1.name = p.name ∧
      ∀ e, p.begin.2 = .over e → (p.launch i limit now memory).2.1.ending = .atOnce e := by
  have hname := name_begin p
  unfold Provider.launch
  split
  · rename_i hbegin
    rw [hbegin] at hname ⊢
    refine ⟨rfl, ?_, fun e he => (by cases he)⟩
    show (SourceTask.ofAnswer _ now limit _).name = p.name
    unfold SourceTask.ofAnswer
    split
    · split_ifs <;> exact hname
    · exact hname
  · rename_i hbegin
    rw [hbegin] at hname ⊢
    exact ⟨rfl, hname, fun e he => by cases he; rfl⟩

namespace ProviderSet

/-- initializations begin in the order of their providers, which do not depend on who is asked -/
theorem launchEach_eq (i : Introspectors ι) (limit : Duration) (now : Nat) (l : List Provider) (memory : ι) :
    (launchEach i limit now l memory).1 = l.map (·.begin.1) ∧
      (launchEach i limit now l memory).2.1.map (·.name) = l.map (·.name) ∧
      ∀ p ∈ l, ∃ m, (p.launch i limit now m).2.1 ∈ (launchEach i limit now l memory).2.1 := by
  induction l generalizing memory with
  | nil => exact ⟨rfl, rfl, by simp⟩
  | cons p l ih =>
    obtain ⟨hp, hname, -⟩ := launch_eq i limit now p memory
    obtain ⟨hproviders, hnames, htasks⟩ := ih (p.launch i limit now memory).2.2
    simp only [launchEach, List.map_cons, List.forall_mem_cons]
    refine ⟨by rw [hp, hproviders], by rw [hname, hnames], ⟨memory, List.mem_cons_self⟩, fun q hq => ?_⟩
    obtain ⟨m, hm⟩ := htasks q hq
    exact ⟨m, List.mem_cons_of_mem _ hm⟩

end ProviderSet

/-! ## What is learned of each data source -/

section Learned

theorem get?_modifies {α β : Type} (key : β → String) (f : β → α → α) {l : List β} (hkeys : (l.map key).Nodup)
    (m : NameMap α) {x : β} (hx : x ∈ l) :
    (l.foldl (fun m x => m.modify (key x) (f x)) m).get? (key x) = (m.get? (key x)).map (f x) := by
  have hothers : ∀ (l : List β) (m : NameMap α), key x ∉ l.map key →
      (l.foldl (fun m y => m.modify (key y) (f y)) m).get? (key x) = m.get? (key x) := by
    intro l
    induction l with
    | nil => exact fun m _ => rfl
    | cons y l ih =>
      intro m hnot
      rw [List.map_cons, List.mem_cons, not_or] at hnot
      rw [List.foldl_cons, ih _ hnot.2, NameMap.get?_modify]
      simp [hnot.1]
  induction l generalizing m with
  | nil => cases hx
  | cons y l ih =>
    obtain ⟨hy, hrest⟩ := List.nodup_cons.1 hkeys
    rw [List.foldl_cons]
    rcases List.mem_cons.1 hx with rfl | hx
    · rw [hothers l _ hy, NameMap.get?_modify]
      simp
    · have hne : key x ≠ key y := fun he => hy (he ▸ List.mem_map_of_mem hx)
      rw [ih hrest _ hx, NameMap.get?_modify]
      simp [hne]

variable (i : Introspectors ι) {made : ProviderSet}

theorem names_values (h : made.Named) :
    made.providers.values.map (·.name) = made.providers.names := by
  unfold NameMap.values NameMap.names
  rw [List.map_map]
  exact List.map_congr_left h

theorem names_launch (limit : Duration) (now : Nat) (memory : ι) (h : made.Named) :
    (made.providers.values.map (·.name)).Nodup ∧
      ((made.launch i limit now memory).2.1.map (·.name)) = made.providers.values.map (·.name) := by
  refine ⟨?_, (ProviderSet.launchEach_eq i limit now made.providers.values memory).2.1⟩
  rw [names_values h]
  exact made.providers.nodup_names

theorem task_unique {limit : Duration} {now : Nat} {memory : ι} (h : made.Named) {t u : SourceTask}
    (ht : t ∈ (made.launch i limit now memory).2.1) (hu : u ∈ (made.launch i limit now memory).2.1)
    (hname : t.name = u.name) : t = u := by
  obtain ⟨hnodup, hnames⟩ := names_launch i limit now memory h
  exact List.inj_on_of_nodup_map (hnames ▸ hnodup) ht hu hname

/-- **What is learned of a data source** is how its initialization ends, whatever comes of the others -/
theorem get?_learned (limit : Duration) (now : Nat) (memory : ι) (h : made.Named) {name : String} {p : Provider}
    (hp : made.providers.get? name = some p) :
    ∃ t ∈ (made.launch i limit now memory).2.1, t.name = name ∧ (∃ m, t = (p.launch i limit now m).2.1) ∧
      ((made.launch i limit now memory).2.1.foldl ProviderSet.settle (made.launch i limit now memory).1).providers.get?
        name = some (p.begin.1.finish t.ending) := by
  have hentry := (NameMap.mem_entries_iff _ _ _).2 hp
  have hname : p.name = name := h _ hentry
  have hvalue : p ∈ made.providers.values := List.mem_map_of_mem hentry
  obtain ⟨hnodup, hnames⟩ := names_launch i limit now memory h
  obtain ⟨hproviders, -, htasks⟩ := ProviderSet.launchEach_eq i limit now made.providers.values memory
  obtain ⟨m, ht⟩ := htasks p hvalue
  have htname := (launch_eq i limit now p m).2.1
  refine ⟨_, ht, htname.trans hname, ⟨m, rfl⟩, ?_⟩
  have hput : ∀ (l : List Provider) (set : ProviderSet), (l.foldl ProviderSet.put set).providers =
      l.foldl (fun m q => m.modify q.name fun _ => q) set.providers := by
    intro l
    induction l with
    | nil => exact fun _ => rfl
    | cons q l ih => exact fun set => ih _
  have hsettle : ∀ (l : List SourceTask) (set : ProviderSet), (l.foldl ProviderSet.settle set).providers =
      l.foldl (fun m u => m.modify u.name (·.finish u.ending)) set.providers := by
    intro l
    induction l with
    | nil => exact fun _ => rfl
    | cons u l ih => exact fun set => ih _
  have hbegun : ((made.providers.values.map (·.begin.1)).map (·.name)).Nodup := by
    rw [List.map_map]
    exact (List.map_congr_left fun q _ => name_begin q : _ = made.providers.values.map (·.name)) ▸ hnodup
  have hlaunched := get?_modifies (fun q : Provider => q.name) (fun q _ => q) hbegun made.providers
    (List.mem_map_of_mem hvalue)
  rw [← hproviders, ← hput, name_begin, hname, hp] at hlaunched
  have hsettled := get?_modifies (fun u : SourceTask => u.name) (fun u q => q.finish u.ending) (hnames ▸ hnodup)
    (made.launch i limit now memory).1.providers ht
  rw [← hsettle, htname, hname] at hsettled
  exact hsettled.trans (congrArg (Option.map (·.finish (p.launch i limit now m).2.1.ending)) hlaunched)

end Learned

/-! ## Sets in their places -/

namespace World

section Places

variable {setup : Setup σ ι} {w u : World σ ι} {s : Snapshot} {place : Nat}

theorem set_update_of_ne {i k : Nat} (h : k ≠ i) (s : ProviderSet) :
    World.set { w with sets := w.sets.set i s } k = w.set k := by
  simp only [World.set]
  rw [List.getElem?_set_ne (Ne.symm h)]

theorem builtFrom_update {i : Nat} (h : i < w.sets.length) {s : ProviderSet} {c : Snapshot} (hs : s.BuiltFrom c) :
    (World.set { w with sets := w.sets.set i s } i).BuiltFrom c := by
  simp only [World.set]
  rw [List.getElem?_set_self h]
  exact hs

theorem lt_of_builtFrom (h : (w.set place).BuiltFrom s) : place < w.sets.length := by
  by_contra hlt
  have hsnapshot := h.snapshot
  simp [World.set, List.getElem?_eq_none (Nat.le_of_not_lt hlt)] at hsnapshot

theorem builtFrom_replaced {i : Nat} {t : ProviderSet} (h : (w.set place).BuiltFrom s)
    (ht : (w.set i).BuiltFrom s → t.BuiltFrom s) :
    (World.set { w with sets := w.sets.set i t } place).BuiltFrom s := by
  by_cases hi : place = i
  · subst hi
    exact builtFrom_update (lt_of_builtFrom h) (ht h)
  · rw [set_update_of_ne hi]
    exact h

theorem builtFrom_move {job : Nat} {p q : Phase} (h : (w.set place).BuiltFrom s) (hm : Move setup job w p q u) :
    (u.set place).BuiltFrom s := by
  cases hm with
  | accept => split_ifs <;> exact h
  | construct =>
    show ((w.addSet _).set place).BuiltFrom s
    rw [set_addSet_of_lt w _ (lt_of_builtFrom h)]
    exact h
  | call hcall => cases hcall; exact h
  | generate hcall => cases hcall; exact h
  | restore _ hu => subst hu; exact h
  | giveUp hu => subst hu; exact h
  | refresh hlaunch => exact builtFrom_replaced h fun hset => builtFrom_launch hset hlaunch
  | _ => exact h

/-- **A set that is built from a snapshot stays so**, whatever happens -/
theorem builtFrom_step {e : Event} (h : (w.set place).BuiltFrom s) (hs : Step setup w e u) :
    (u.set place).BuiltFrom s := by
  cases hs with
  | advance hp hm =>
    have hmoved := builtFrom_move h hm
    exact hmoved
  | settle => exact builtFrom_replaced h fun hset => builtFrom_settle hset _
  | resettle => exact builtFrom_replaced h fun hset => builtFrom_settle hset _
  | linger => exact builtFrom_replaced h fun hset => builtFrom_settleAlone hset _
  | _ => exact h

end Places

end World

end EntityGateway
