/-
A change is made if its snapshot meets what is required, and otherwise it is refused at the stage of the first
requirement that is not met.

The snapshot is applied to a holder while no other change is made; after that anything may happen but that the holder is
given something else. What databases have to do with it is asked of them at one moment, when the metadata are begun, and
nothing that they or others do later changes what comes of it. The one exception is a change whose metadata are not
there in time.

- `OnTrack`: what is known about a snapshot in each phase of its change;
- `onTrack_move`, `onTrack_rests`: the change keeps to this, and all others leave it alone;
- `requirements_decide`: a change comes to a result, and its result is as it is required.
-/
import EntityGateway.Proofs.Orchestration.Asking
import EntityGateway.Proofs.Served.Coherence
import EntityGateway.Proofs.Served.Criteria

namespace EntityGateway

open Http

/-! ## Results -/

namespace JobResult

/-- what was decided about a change -/
def verdict? : JobResult → Option (Except ChangeError Unit)
  | .changed result => some (result.map fun _ => ())
  | _ => none

/-- whether a change came to nothing because the metadata were not there in time -/
def IsLate (result : JobResult) : Prop := ∃ limit, result = .changed (.error (.timeout .rebuildingMetadata limit))

end JobResult

/-- a result is as it is required -/
structure Judged (l : List (Stage × Prop)) (result : JobResult) : Prop where
  made : (∃ report, result = .changed (.ok report)) ↔ AllMet l
  refused : ¬ AllMet l → ∃ e stage, result = .changed (.error e) ∧ e.stage? = some stage ∧ FirstUnmet l stage

namespace World

/-! ## A snapshot that a holder can be given -/

/-- a snapshot is older than those to come, and the one that a holder holds if that has its number -/
def Owns (w : World σ ι) (i : Nat) (s : Snapshot) : Prop :=
  s.id < w.fresh ∧ ∀ t, (w.holder i).held = some t → t.id = s.id → t = s

section Owns

variable {setup : Setup σ ι} {job i : Nat} {w u : World σ ι} {p q : Phase} {e : Event} {s : Snapshot}

theorem held_hold_of_owns (h : w.Owns i s) : (hold (w.holder i) s).held = some s := by
  cases hheld : (w.holder i).held with
  | none => simp [hold, ConfigHolder.holds, hheld, ConfigHolder.replace]
  | some t => exact held_hold hheld (h.2 t hheld)

theorem held_setHolder_cases {k : Nat} {h : ConfigHolder} {t : Snapshot}
    (hheld : ((w.setHolder k h).holder i).held = some t) : h.held = some t ∨ (w.holder i).held = some t := by
  by_cases hk : i = k
  · subst hk
    by_cases hlt : i < w.holders.length
    · rw [holder_setHolder_self hlt] at hheld
      exact Or.inl hheld
    · simp [holder, setHolder, hlt] at hheld
  · rw [holder_setHolder_of_ne w hk] at hheld
    exact Or.inr hheld

theorem owns_of_free (h : w.Owns i s) (hm : Move setup job w p q u) (hp : p.isLocked = false) : u.Owns i s := by
  obtain ⟨hlt, hsame⟩ := h
  cases hm with
  | install =>
    refine ⟨Nat.lt_succ_of_lt hlt, fun t ht hid => ?_⟩
    rcases held_setHolder_cases (w := w) ht with ht | ht
    · obtain rfl := Option.some.inj ht
      exact absurd hid (Nat.ne_of_gt hlt)
    · exact hsame t ht hid
  | mark =>
    refine ⟨hlt, fun t ht => hsame t ?_⟩
    rw [← ht]
    exact (held_setHolder (h := (w.holder _).markLate) rfl i).symm
  | accept =>
    split_ifs
    · refine ⟨hlt, fun t ht => hsame t ?_⟩
      rw [← ht]
      exact (held_setHolder (h := (w.holder _).markLate) rfl i).symm
    · exact ⟨hlt, hsame⟩
  | edit => exact ⟨Nat.lt_succ_of_lt hlt, hsame⟩
  | _ => first | exact ⟨hlt, hsame⟩ | contradiction

/-- while a job has the lock, the others give its holder no other snapshot of that number -/
theorem owns_of_other (h : w.Owns i s) (hw : w.Sound) (hrun : w.running = some job) (hs : Step setup w e u)
    (hother : e.mover? ≠ some job) (hkept : ∀ t, e ≠ .replace i t) : u.Owns i s := by
  cases hs with
  | advance hp hm =>
    have hmoved := owns_of_free h hm (hw.free_of_other hrun hp fun hk => hother (congrArg some hk))
    exact hmoved
  | replace =>
    rename_i k t
    refine ⟨h.1, fun t ht => h.2 t ?_⟩
    have hne : i ≠ k := by
      rintro rfl
      exact hkept _ rfl
    rw [holder_setHolder_of_ne w hne] at ht
    exact ht
  | _ => exact h

end Owns

end World

/-! ## Wires that are taken -/

/-- a service can derive what it needs from a snapshot -/
def Wire.Takes [Pattern.Engine] (s : Snapshot) : Wire → Prop
  | .rebind .validator => ∃ rules, RuleBook.ofConfig s.config = .ok rules
  | .rebind .schema =>
    ∃ learned types, ProviderSet.BuiltFrom learned s ∧ TypeCatalog.ofConfig s.config learned = .ok types
  | _ => True

section Wires

variable {s : Snapshot} {set : ProviderSet} {v v' : Services} {h : ConfigHolder} {wire : Wire}

/-- rules are made before types -/
theorem validator_mem_of_schema {done todo : List Wire} (hall : done ++ .rebind .schema :: todo = Wire.all) :
    .rebind .validator ∈ done := by
  have hprefix : done <+: Wire.all := ⟨_, hall⟩
  have hmem : done ∈ Wire.all.inits := (List.mem_inits _ _).2 hprefix
  fin_cases hmem <;> simp_all [Wire.all]

variable [Pattern.Engine]

theorem takes_of_answer (hheld : h.held = some s) (hbuilt : set.BuiltFrom s)
    (hanswer : v.answer (wire.call h set s) = .ok v') : wire.Takes s := by
  have hdone := (answer_ok hheld hanswer).1
  cases wire with
  | permissions => trivial
  | rebind who =>
    cases who with
    | authorization => trivial
    | validator =>
      obtain ⟨rules, hrules, -⟩ := hdone
      exact ⟨rules, hrules⟩
    | schema => exact ⟨set, v'.types, hbuilt, hdone⟩

/-- only rules and types can be refused -/
theorem answer_error (hheld : h.held = some s) {e : GatewayError} (hanswer : v.answer (wire.call h set s) = .error e) :
    (wire = .rebind .validator ∧ RuleBook.ofConfig s.config = .error e) ∨
      (wire = .rebind .schema ∧ TypeCatalog.ofConfig s.config set = .error e) := by
  have hmap : ∀ {α β : Type} {x : Except GatewayError α} {f : α → β}, x.map f = .error e → x = .error e := by
    intro α β x f hx
    cases x <;> simp_all [Except.map]
  cases wire with
  | permissions => cases hanswer
  | rebind who =>
    cases who with
    | authorization =>
      have hconfig := hmap hanswer
      rw [config_of_held hheld] at hconfig
      cases hconfig
    | validator => exact Or.inl ⟨rfl, rules_of_held hheld ▸ hmap hanswer⟩
    | schema => exact Or.inr ⟨rfl, types_of_held hheld ▸ hmap hanswer⟩

end Wires

namespace World

/-! ## What is known in each phase -/

section OnTrack

variable [Pattern.Engine] (introspectors : Introspectors ι) (limit : Duration) (time : Nat) (memory : ι) (i : Nat)
  (s : Snapshot)

/-- a change that is about to give a snapshot to a holder -/
structure Brings (w : World Services ι) (r : Run) : Prop where
  holder : r.holder = i
  snapshot : r.snapshot = s
  owns : w.Owns i s

/-- initializations come to what they come to if the metadata are prepared by themselves -/
structure Gathers (w : World Services ι) (job : Nat) (g : Gathering) : Prop where
  secluded : w.Secluded job g.set
  names : (g.waiting.map (·.name)).Nodup
  prepares : ∃ rest, ProviderSet.prepare introspectors limit time s memory =
    .ok (g.waiting.foldl ProviderSet.settle (w.set g.set), rest)

/-- the metadata are those that are prepared by themselves -/
structure Gathered (w : World Services ι) (job place : Nat) : Prop where
  secluded : w.Secluded job place
  prepared : ∃ rest, ProviderSet.prepare introspectors limit time s memory = .ok (w.set place, rest)

/-- services are pointed at a snapshot that is held, and at metadata built from it -/
structure Points (w : World Services ι) (rw : Rewiring) : Prop where
  holder : rw.holder = i
  snapshot : rw.snapshot = s
  held : (w.holder i).held = some s
  built : w.currentSet.BuiltFrom s
  related : Related introspectors limit time memory s

/-- services are pointed at a snapshot, or back after its refusal -/
structure Rewires (w : World Services ι) (rw : Rewiring) (progress : Prop) : Prop where
  serves : ∀ c, rw.purpose = .serve c → w.Points introspectors limit time memory i s rw ∧ progress
  restores : ∀ fault, rw.purpose = .restore fault → Refused introspectors limit time memory s fault

/-- a call was answered at once: the service took the snapshot, or the snapshot is refused for it -/
structure Replied (w : World Services ι) (wire : Wire) (p : Pending) : Prop where
  atOnce : p.answersAt.any (· ≤ w.now) = true
  taken : (p.result = .ok () ∧ wire.Takes s) ∨
    ∃ e, p.result = .error e ∧ Refused introspectors limit time memory s (rewiringError wire.who e)

/-- a change fails because of its snapshot, or because the metadata were not there in time -/
def Fails (fault : ChangeError) : Prop :=
  Refused introspectors limit time memory s fault ∨ ∃ d, fault = .timeout .rebuildingMetadata d

/-- what is known about a snapshot in a phase of its change -/
def OnTrack (w : World Services ι) (job : Nat) : Phase → Prop
  | .validating r => w.Brings i s r
  | .constructing r => w.Brings i s r ∧ checkSnapshot s.config = .ok ()
  | .preparing r g _ =>
    w.Brings i s r ∧ checkSnapshot s.config = .ok () ∧ w.Gathers introspectors limit time memory s job g
  | .relating r place _ =>
    w.Brings i s r ∧ checkSnapshot s.config = .ok () ∧ s.config.isDevelopment = true ∧
      w.Gathered introspectors limit time memory s job place
  | .committing r place _ =>
    w.Brings i s r ∧ Related introspectors limit time memory s ∧ (w.set place).BuiltFrom s
  | .calling rw todo =>
    w.Rewires introspectors limit time memory i s rw (∃ done, done ++ todo = Wire.all ∧ ∀ x ∈ done, x.Takes s)
  | .awaiting rw wire todo p =>
    w.Rewires introspectors limit time memory i s rw
      ((∃ done, done ++ wire :: todo = Wire.all ∧ ∀ x ∈ done, x.Takes s) ∧
        w.Replied introspectors limit time memory s wire p)
  | .generating .. | .documenting .. | .concluding .. | .finished (.changed (.ok _)) =>
    Accepted introspectors limit time memory s
  | .rollingBack _ fault => Refused introspectors limit time memory s fault
  | .failing _ fault | .finished (.changed (.error fault)) => Fails introspectors limit time memory s fault
  | .dropped => True
  | _ => False

end OnTrack

/-! ## The moves of a change -/

section Moves

variable {settings : Settings} {env : Environment} {introspectors : Introspectors ι} {limit : Duration}
  {time : Nat} {memory : ι} {i job : Nat} {s : Snapshot} {w u : World Services ι} {p q : Phase} {e : Event}

theorem Brings.moved {r : Run} (h : w.Brings i s r) (hholders : u.holders = w.holders) (hfresh : u.fresh = w.fresh) :
    u.Brings i s r := by
  refine ⟨h.holder, h.snapshot, ?_⟩
  unfold Owns World.holder
  rw [hholders, hfresh]
  exact h.owns

theorem Brings.kept {r : Run} (h : w.Brings i s r) (howns : u.Owns i s) : u.Brings i s r :=
  ⟨h.holder, h.snapshot, howns⟩

theorem gathers_begun {built launched : ProviderSet} {tasks : List SourceTask} {asked : ι} (hw : w.Sound)
    (hset : ProviderSet.ofSnapshot introspectors s = .ok built)
    (hlaunch : built.launch introspectors limit w.now w.memory = (launched, tasks, asked)) :
    World.Gathers introspectors limit w.now w.memory s
      (World.setPhase { w.addSet launched with memory := asked } job q) job
      ⟨w.sets.length, tasks, tasks.map (·.name)⟩ := by
  refine ⟨secluded_new hw, ?_, ?_⟩
  · obtain ⟨hnodup, hnames⟩ := names_launch _ limit w.now w.memory (ProviderSet.named_ofSnapshot hset)
    rw [hlaunch] at hnames
    rw [waiting_begun, hnames]
    exact hnodup
  · refine ⟨(ProviderSet.report tasks, ProviderSet.endOf w.now tasks, asked), ?_⟩
    have hplace : World.set (World.setPhase { w.addSet launched with memory := asked } job q) w.sets.length =
        launched := set_addSet_self w launched
    rw [waiting_begun, hplace, prepare_of_made hset]
    simp [ProviderSet.initializeAll, hlaunch]

theorem gathers_settled {g : Gathering} {t : SourceTask} {source : String}
    (h : w.Gathers introspectors limit time memory s job g) (hdue : g.due? w.now source = some t) :
    World.Gathers introspectors limit time memory s
      (World.setPhase { w with sets := w.sets.set g.set ((w.set g.set).settle t) } job q) job (g.without source) := by
  refine ⟨h.secluded.moved rfl rfl (by simp) rfl, ?_, ?_⟩
  · rw [Gathering.waiting_without]
    exact h.names.sublist (List.filter_sublist.map _)
  · show ∃ rest, _ = Except.ok (List.foldl ProviderSet.settle (World.set _ g.set) _, rest)
    rw [settles_due h.secluded.there h.names hdue]
    exact h.prepares

/-- initializations that came to their ends have led to the metadata that are prepared -/
theorem Gathers.prepared {g : Gathering} (h : w.Gathers introspectors limit time memory s job g)
    (hpending : g.pending = []) :
    ∃ rest, ProviderSet.prepare introspectors limit time s memory = .ok (w.set g.set, rest) := by
  obtain ⟨rest, hprepare⟩ := h.prepares
  rw [waiting_of_pending hpending] at hprepare
  exact ⟨rest, hprepare⟩

variable [Pattern.Engine]

theorem replied_call {rw : Rewiring} {wire : Wire} {todo done : List Wire} {answer : Pending}
    (hpoints : w.Points introspectors limit time memory i s rw) (hall : done ++ wire :: todo = Wire.all)
    (htakes : ∀ x ∈ done, x.Takes s)
    (hcall : w.makeCall (Server.setup settings env introspectors)
      (wire.call (w.holder rw.holder) w.currentSet rw.snapshot) = (answer, u)) :
    (u.setPhase job q).Points introspectors limit time memory i s rw ∧
      (u.setPhase job q).Replied introspectors limit time memory s wire answer := by
  obtain ⟨holder, snapshot, hheld, hbuilt, hrelated⟩ := hpoints
  obtain ⟨v, rfl, hat, hanswer⟩ := makeCall_answer hcall
  rw [holder, snapshot] at hanswer
  refine ⟨⟨holder, snapshot, hheld, hbuilt, hrelated⟩, by simp [hat, setPhase], ?_⟩
  rcases hanswer with ⟨hok, hanswer⟩ | ⟨e, herror, hanswer, -⟩
  · exact Or.inl ⟨hok, takes_of_answer hheld hbuilt hanswer⟩
  · refine Or.inr ⟨e, herror, ?_⟩
    rcases answer_error hheld hanswer with ⟨rfl, hrules⟩ | ⟨rfl, htypes⟩
    · exact .unruled hrelated hrules
    · obtain ⟨rules, hrules⟩ := htakes _ (validator_mem_of_schema hall)
      exact .untyped hrelated hrules hbuilt htypes

theorem Replied.takes {wire : Wire} {answer : Pending} {reply : Option (Except GatewayError Unit)}
    (h : w.Replied introspectors limit time memory s wire answer) (hreply : w.replied? answer = some reply)
    (hok : callFailure (Server.setup settings env introspectors) wire reply = none) : wire.Takes s := by
  obtain rfl := replied_atOnce h.atOnce hreply
  have hresult := callFailure_eq_none.1 hok
  rcases h.taken with ⟨-, htaken⟩ | ⟨e, herror, -⟩
  · exact htaken
  · rw [hresult] at herror
    cases herror

/-- a call fails with the error for which the snapshot is refused: it is never late -/
theorem Replied.refuses {wire : Wire} {answer : Pending} {reply : Option (Except GatewayError Unit)}
    {fault : ChangeError} (h : w.Replied introspectors limit time memory s wire answer)
    (hreply : w.replied? answer = some reply)
    (hbad : callFailure (Server.setup settings env introspectors) wire reply = some fault) :
    Refused introspectors limit time memory s fault := by
  obtain rfl := replied_atOnce h.atOnce hreply
  rcases h.taken with ⟨hok, -⟩ | ⟨e, herror, hrefused⟩
  · rw [hok] at hbad
    cases hbad
  · rw [herror] at hbad
    cases hbad
    exact hrefused

theorem accepted_of_taken {rw : Rewiring} (hpoints : w.Points introspectors limit time memory i s rw)
    (htaken : ∃ done, done ++ [] = Wire.all ∧ ∀ x ∈ done, x.Takes s) :
    Accepted introspectors limit time memory s := by
  obtain ⟨done, hall, htakes⟩ := htaken
  rw [List.append_nil] at hall
  subst hall
  exact ⟨hpoints.related, htakes (.rebind .validator) (by decide), htakes (.rebind .schema) (by decide)⟩

/-- **A change keeps to what is known about its snapshot** -/
theorem onTrack_move (hw : w.Sound) (hi : i < w.holders.length)
    (hm : Move (Server.setup settings env introspectors) job w p q u)
    (h : w.OnTrack introspectors settings.introspectionTimeout time memory i s job p)
    (hasked : ∀ r, p = .constructing r → w.now = time ∧ w.memory = memory) :
    (u.setPhase job q).OnTrack introspectors settings.introspectionTimeout time memory i s job q := by
  cases hm with
  | invalid hcheck =>
    rw [h.snapshot] at hcheck
    exact Or.inl (.invalid hcheck)
  | valid hcheck =>
    rw [h.snapshot] at hcheck
    exact ⟨h.moved rfl rfl, hcheck⟩
  | unsupported hset =>
    obtain ⟨hbrings, hvalid⟩ := h
    rw [hbrings.snapshot] at hset
    exact Or.inl (.unserved hvalid hset)
  | construct hset hlaunch =>
    obtain ⟨hbrings, hvalid⟩ := h
    obtain ⟨rfl, rfl⟩ := hasked _ rfl
    rw [hbrings.snapshot] at hset
    exact ⟨hbrings.moved rfl rfl, hvalid, gathers_begun hw hset hlaunch⟩
  | gathered hpending hdev =>
    obtain ⟨hbrings, hvalid, hgathers⟩ := h
    rw [hbrings.snapshot] at hdev
    exact ⟨hbrings.moved rfl rfl, hvalid, hdev, hgathers.secluded.moved rfl rfl le_rfl rfl, hgathers.prepared hpending⟩
  | gatheredInProduction hpending hdev =>
    obtain ⟨hbrings, hvalid, hgathers⟩ := h
    rw [hbrings.snapshot] at hdev
    obtain ⟨rest, hprepare⟩ := hgathers.prepared hpending
    refine ⟨hbrings.moved rfl rfl, related_of_prepare hvalid hprepare fun hdev' => ?_, builtFrom_prepare hprepare⟩
    rw [hdev] at hdev'
    cases hdev'
  | unprepared => exact Or.inr ⟨_, rfl⟩
  | unrelated hcheck =>
    obtain ⟨hbrings, hvalid, hdev, hgathered⟩ := h
    rw [hbrings.snapshot] at hcheck
    obtain ⟨rest, hprepare⟩ := hgathered.prepared
    exact Or.inl (.unrelated hvalid hdev hprepare hcheck)
  | related hcheck =>
    obtain ⟨hbrings, hvalid, -, hgathered⟩ := h
    rw [hbrings.snapshot] at hcheck
    obtain ⟨rest, hprepare⟩ := hgathered.prepared
    exact ⟨hbrings.moved rfl rfl, related_of_prepare hvalid hprepare fun _ => hcheck, builtFrom_prepare hprepare⟩
  | commit =>
    obtain ⟨hbrings, hrelated, hbuilt⟩ := h
    refine ⟨fun c _ => ⟨⟨hbrings.holder, hbrings.snapshot, ?_, hbuilt, hrelated⟩, [], rfl, by simp⟩,
      fun fault hfault => (by cases hfault)⟩
    obtain ⟨rfl, rfl, howns⟩ := hbrings
    have hheld := held_hold_of_owns howns
    rw [← holder_setHolder_self hi (hold (w.holder _) _)] at hheld
    exact hheld
  | call hcall =>
    refine ⟨fun c hc => ?_, h.restores⟩
    obtain ⟨hpoints, done, hall, htakes⟩ := h.serves c hc
    obtain ⟨hpoints', hreplied⟩ := replied_call hpoints hall htakes hcall
    exact ⟨hpoints', ⟨done, hall, htakes⟩, hreplied⟩
  | answered hreply hok =>
    refine ⟨fun c hc => ?_, h.restores⟩
    obtain ⟨⟨h₁, h₂, h₃, h₄, h₅⟩, ⟨done, hall, htakes⟩, hreplied⟩ := h.serves c hc
    refine ⟨⟨h₁, h₂, h₃, h₄, h₅⟩, done ++ [_], by simpa using hall, fun x hx => ?_⟩
    rcases List.mem_append.1 hx with hx | hx
    · exact htakes x hx
    · exact List.mem_singleton.1 hx ▸ hreplied.takes hreply hok
  | refused hreply hbad hpurpose => exact (h.serves _ hpurpose).2.2.refuses hreply hbad
  | lost _ _ hpurpose => exact Or.inl (h.restores _ hpurpose)
  | restored hpurpose => exact Or.inl (h.restores _ hpurpose)
  | document hpurpose =>
    obtain ⟨hpoints, htaken⟩ := h.serves _ hpurpose
    exact accepted_of_taken hpoints htaken
  | skip hpurpose =>
    obtain ⟨hpoints, htaken⟩ := h.serves _ hpurpose
    exact accepted_of_taken hpoints htaken
  | restore =>
    refine ⟨fun c hc => (by cases hc), fun fault hf => ?_⟩
    cases hf
    exact h
  | giveUp => exact Or.inl h
  | generate => exact h
  | documented => exact h
  | succeed => exact h
  | fail => exact h
  | _ => exact h.elim

/-! ## What others leave alone -/

/-- **All others leave alone what is known about a snapshot** -/
theorem onTrack_rests {setup : Setup Services ι} (hw : w.Sound) (hp : w.phase? job = some p) (hs : Step setup w e u)
    (hother : e.mover? ≠ some job) (hkept : ∀ t, e ≠ .replace i t)
    (h : w.OnTrack introspectors limit time memory i s job p) :
    u.OnTrack introspectors limit time memory i s job p := by
  cases hlocked : p.isLocked with
  | false =>
    cases p with
    | finished result =>
      cases result with
      | changed result => cases result <;> exact h
      | _ => exact h.elim
    | dropped => exact h
    | _ => contradiction
  | true =>
    have hrun : w.running = some job := hw.alone job p hp hlocked
    have howns : w.Owns i s → u.Owns i s := fun howns => owns_of_other howns hw hrun hs hother hkept
    have hset : ∀ {place}, w.Secluded job place → u.Secluded job place ∧ u.set place = w.set place :=
      fun hplace => secluded_of_other hplace hs hother
    have hpoints : ∀ rw, w.Points introspectors limit time memory i s rw →
        u.Points introspectors limit time memory i s rw := by
      rintro rw ⟨holder, snapshot, hheld, hbuilt, hrelated⟩
      refine ⟨holder, snapshot, held_of_other hw hrun hs hother hkept hheld, ?_, hrelated⟩
      unfold World.currentSet
      rw [(step_governed hw hrun hs hother).current]
      exact builtFrom_step hbuilt hs
    cases p with
    | validating r => exact h.kept (howns h.owns)
    | constructing r => exact ⟨h.1.kept (howns h.1.owns), h.2⟩
    | preparing r g deadline =>
      obtain ⟨hbrings, hvalid, hsecluded, hnames, hprepares⟩ := h
      obtain ⟨hsecluded', hsame⟩ := hset hsecluded
      exact ⟨hbrings.kept (howns hbrings.owns), hvalid, hsecluded', hnames, hsame ▸ hprepares⟩
    | relating r place report =>
      obtain ⟨hbrings, hvalid, hdev, hsecluded, hprepared⟩ := h
      obtain ⟨hsecluded', hsame⟩ := hset hsecluded
      exact ⟨hbrings.kept (howns hbrings.owns), hvalid, hdev, hsecluded', hsame ▸ hprepared⟩
    | committing r place report =>
      obtain ⟨hbrings, hrelated, hbuilt⟩ := h
      exact ⟨hbrings.kept (howns hbrings.owns), hrelated, builtFrom_step hbuilt hs⟩
    | calling rw todo =>
      refine ⟨fun c hc => ?_, h.restores⟩
      obtain ⟨hpoint, hprogress⟩ := h.serves c hc
      exact ⟨hpoints rw hpoint, hprogress⟩
    | awaiting rw wire todo answer =>
      refine ⟨fun c hc => ?_, h.restores⟩
      obtain ⟨hpoint, hprogress, hat, hresult⟩ := h.serves c hc
      refine ⟨hpoints rw hpoint, hprogress, ?_, hresult⟩
      have hnow := now_le_of_step hs
      cases hanswers : answer.answersAt with
      | none => simp [hanswers] at hat
      | some t =>
        simp only [hanswers, Option.any_some, decide_eq_true_eq] at hat ⊢
        omega
    | _ => first | contradiction | exact h

/-- **Whatever happens, what is known about a snapshot stays right** -/
theorem onTrack_step (hw : w.Sound) (hi : i < w.holders.length) (hp : w.phase? job = some p)
    (hs : Step (Server.setup settings env introspectors) w e u) (hkept : ∀ t, e ≠ .replace i t)
    (hasked : ∀ x, w.askingOf? job e = some x → x = (time, memory))
    (h : w.OnTrack introspectors settings.introspectionTimeout time memory i s job p) :
    ∃ q, u.phase? job = some q ∧ u.OnTrack introspectors settings.introspectionTimeout time memory i s job q := by
  obtain ⟨q, hq, hturn⟩ := turn_of_step hs hp
  refine ⟨q, hq, ?_⟩
  cases hturn with
  | moves hm =>
    refine onTrack_move hw hi hm h fun r hr => ?_
    subst hr
    exact Prod.ext_iff.1 (hasked _ (askingOf?_constructing hp))
  | settles hg hdue =>
    cases p <;> cases hg
    · obtain ⟨hbrings, hvalid, hgathers⟩ := h
      exact ⟨hbrings.moved rfl rfl, hvalid, gathers_settled hgathers hdue⟩
    · exact h.elim
  | drops => trivial
  | rests _ hother => exact onTrack_rests hw hp hs hother hkept h

end Moves

/-! ## A change from its beginning to its end -/

section Decision

variable [Pattern.Engine]

/-- a snapshot is applied to a holder while no change is made, and from then on the holder is given nothing else -/
structure Applied (settings : Settings) (env : Environment) (introspectors : Introspectors ι) (w : World Services ι)
    (job i : Nat) (s : Snapshot) (l : List Event) : Prop where
  reached : ∃ (w₀ : World Services ι) (past : List Event),
    w₀.Idle ∧ w = w₀.run (Server.setup settings env introspectors) past
  free : w.running = none
  asked : w.phase? job = some (.locking (.apply i s))
  there : i < w.holders.length
  owned : w.Owns i s
  kept : ∀ e ∈ l, ∀ t, e ≠ .replace i t

/-- such a change came to a result, not for want of time; if databases were asked, it was at a time and with what
introspectors remembered then -/
structure Decided (settings : Settings) (env : Environment) (introspectors : Introspectors ι) (w : World Services ι)
    (job i : Nat) (s : Snapshot) (l : List Event) (result : JobResult) (time : Nat) (memory : ι) : Prop
    extends Applied settings env introspectors w job i s l where
  ended : (w.run (Server.setup settings env introspectors) (.advance job :: l)).result? job = some result
  inTime : ¬ result.IsLate
  asks : ∀ x ∈ w.askings (Server.setup settings env introspectors) job (.advance job :: l), x = (time, memory)

variable {settings : Settings} {env : Environment} {introspectors : Introspectors ι} {w : World Services ι}
  {job i : Nat} {s : Snapshot} {l : List Event} {result : JobResult} {time : Nat} {memory : ι}

theorem Applied.sound (h : Applied settings env introspectors w job i s l) : w.Sound := by
  obtain ⟨w₀, past, hidle, rfl⟩ := h.reached
  exact sound_run (sound_of_idle hidle) past

theorem Applied.begins (h : Applied settings env introspectors w job i s l) :
    ∃ r, (w.step (Server.setup settings env introspectors) (.advance job)).phase? job = some (.validating r) ∧
      (w.step (Server.setup settings env introspectors) (.advance job)).Brings i s r := by
  have hstep : w.step (Server.setup settings env introspectors) (.advance job) =
      { w.enter .validating with running := some job }.setPhase job (.validating ⟨i, s, w.checkpoint i⟩) := by
    simp [step, step?, advance?, h.asked, next?, lock, h.free, startRun]
  rw [hstep]
  refine ⟨⟨i, s, w.checkpoint i⟩, ?_, rfl, rfl, h.owned⟩
  exact phase?_moved (w := w) (u := { w.enter .validating with running := some job }) rfl h.asked _

/-- **What is known about a snapshot is right whatever happens** -/
theorem Applied.onTrack (h : Applied settings env introspectors w job i s l)
    (hasks : ∀ x ∈ w.askings (Server.setup settings env introspectors) job (.advance job :: l), x = (time, memory)) :
    ∃ p, (w.run (Server.setup settings env introspectors) (.advance job :: l)).phase? job = some p ∧
      (w.run (Server.setup settings env introspectors) (.advance job :: l)).OnTrack introspectors
        settings.introspectionTimeout time memory i s job p := by
  induction l using List.reverseRecOn with
  | nil =>
    obtain ⟨r, hr, hbrings⟩ := h.begins
    exact ⟨_, hr, hbrings⟩
  | append_singleton l e ih =>
    rw [← List.cons_append, askings_append, askings_singleton] at hasks
    obtain ⟨p, hp, htrack⟩ := ih ⟨h.reached, h.free, h.asked, h.there, h.owned,
      fun e he => h.kept e (List.mem_append_left _ he)⟩ fun x hx => hasks x (List.mem_append_left _ hx)
    have hsound : (w.run (Server.setup settings env introspectors) (.advance job :: l)).Sound := sound_run h.sound _
    have hplace : i < (w.run (Server.setup settings env introspectors) (.advance job :: l)).holders.length :=
      invariant_run (P := fun u => i < u.holders.length) (fun _ _ _ hi hs => (step_places hs).1 ▸ hi) h.there _
    rw [← List.cons_append, run_snoc]
    rcases step_eq_or (Server.setup settings env introspectors) (w.run _ (.advance job :: l)) e with hsame | hs
    · rw [hsame]
      exact ⟨p, hp, htrack⟩
    · refine onTrack_step hsound hplace hp hs (h.kept e (by simp)) (fun x hx => hasks x ?_) htrack
      exact List.mem_append_right _ (Option.mem_toList.2 hx)

/-- what came of a change that had the time it needed -/
theorem Decided.verdict (h : Decided settings env introspectors w job i s l result time memory) :
    (∃ report, result = .changed (.ok report) ∧
        Accepted introspectors settings.introspectionTimeout time memory s) ∨
      ∃ e, result = .changed (.error e) ∧ Refused introspectors settings.introspectionTimeout time memory s e := by
  obtain ⟨p, hp, htrack⟩ := h.toApplied.onTrack h.asks
  obtain rfl := Option.some.inj (hp.symm.trans (result?_eq_some.1 h.ended))
  cases result with
  | changed result =>
    cases result with
    | ok report => exact Or.inl ⟨report, rfl, htrack⟩
    | error e => exact Or.inr ⟨e, rfl, htrack.resolve_right fun ⟨d, hd⟩ => h.inTime ⟨d, by rw [hd]⟩⟩
  | _ => exact htrack.elim

theorem Decided.judged (h : Decided settings env introspectors w job i s l result time memory) :
    Judged (requirements introspectors settings.introspectionTimeout time memory s) result := by
  rcases h.verdict with ⟨report, rfl, haccepted⟩ | ⟨e, rfl, hrefused⟩
  · have hall := accepted_iff.1 haccepted
    exact ⟨⟨fun _ => hall, fun _ => ⟨report, rfl⟩⟩, fun hnot => absurd hall hnot⟩
  · obtain ⟨stage, hstage, hfirst⟩ := stage_of_refused hrefused
    have hnot := not_allMet_of_firstUnmet hfirst
    exact ⟨⟨fun ⟨_, hok⟩ => (by cases hok), fun hall => absurd hall hnot⟩, fun _ => ⟨e, stage, rfl, hstage, hfirst⟩⟩

variable {ι' : Type} {settings' : Settings} {env' : Environment} {introspectors' : Introspectors ι'}
  {w' : World Services ι'} {job' i' : Nat} {s' : Snapshot} {l' : List Event} {result' : JobResult} {time' : Nat}
  {memory' : ι'}

/-- in production nothing depends on the databases -/
theorem Decided.same_in_production (h : Decided settings env introspectors w job i s l result time memory)
    (h' : Decided settings' env' introspectors' w' job' i' s' l' result' time' memory')
    (hserves : introspectors'.serves = introspectors.serves) (hconfig : s'.config = s.config)
    (hproduction : s.config.isDevelopment = false) : result'.verdict? = result.verdict? := by
  have hproduction' : s'.config.isDevelopment = false := hconfig ▸ hproduction
  have hjudged := h.judged
  have hjudged' := h'.judged
  rcases h.verdict with ⟨report, rfl, haccepted⟩ | ⟨e, rfl, hrefused⟩
  · obtain ⟨report', rfl⟩ :=
      hjudged'.made.2 (requirements_in_production hserves hconfig hproduction (accepted_iff.1 haccepted))
    rfl
  · rcases h'.verdict with ⟨report', rfl, haccepted'⟩ | ⟨e', rfl, hrefused'⟩
    · obtain ⟨report, hreport⟩ :=
        hjudged.made.2 (requirements_in_production hserves.symm hconfig.symm hproduction' (accepted_iff.1 haccepted'))
      cases hreport
    · rw [refused_in_production hserves hconfig hproduction hrefused hrefused']

/-- **A change is made if and only if its snapshot meets what is required.** A snapshot is applied while no other change
is made. The change can be brought to a result whatever has happened, unless it is given up, and it asks databases at
one moment at most. Unless its metadata are not there in time, it is made just if all requirements are met, and
otherwise it is refused at the stage of the first one that is not. In production two changes to the same configuration
come to the same, whatever the databases answer; and a change of which less is learned, since introspectors fail, break
down or are late, is made if the other one is. -/
theorem requirements_decide (h : Applied settings env introspectors w job i s l) :
    (.drop job ∉ l → ∃ more, (∀ e ∈ more, e.isWaiting = true ∨ e = .advance job) ∧
      ∃ result, (w.run (Server.setup settings env introspectors) (.advance job :: l ++ more)).result? job =
        some (.changed result)) ∧
    (w.askings (Server.setup settings env introspectors) job (.advance job :: l)).length ≤ 1 ∧
    ∀ result time memory, Decided settings env introspectors w job i s l result time memory →
      Judged (requirements introspectors settings.introspectionTimeout time memory s) result ∧
      ∀ {ι' : Type} settings' env' (introspectors' : Introspectors ι') w' job' i' s' l' result' time' memory',
        Decided settings' env' introspectors' w' job' i' s' l' result' time' memory' →
        introspectors'.serves = introspectors.serves → s'.config = s.config →
        (s.config.isDevelopment = false → result'.verdict? = result.verdict?) ∧
        (LearnsLess (endings introspectors' settings'.introspectionTimeout time' memory' s')
            (endings introspectors settings.introspectionTimeout time memory s) →
          (∃ report, result = .changed (.ok report)) → ∃ report, result' = .changed (.ok report)) := by
  obtain ⟨r, hr, -⟩ := h.begins
  obtain ⟨p, hp, honce⟩ := asksOnce_run h.asked hr rfl l
  refine ⟨fun hdrop => ?_, honce.once, fun result time memory hdecided => ⟨hdecided.judged, ?_⟩⟩
  · rcases honce.course with hlocked | ⟨result, rfl⟩ | ⟨-, hdropped⟩
    · obtain ⟨more, hmore, result, hresult⟩ := exists_result (Server.setup settings env introspectors)
        (sound_run h.sound (.advance job :: l)) hp hlocked
      refine ⟨more, hmore, result, ?_⟩
      rw [run_append]
      exact hresult
    · refine ⟨[], by simp, result, ?_⟩
      rw [List.append_nil]
      exact result?_eq_some.2 hp
    · exact absurd (by simpa using hdropped) hdrop
  · intro ι' settings' env' introspectors' w' job' i' s' l' result' time' memory' hdecided' hserves hconfig
    refine ⟨hdecided.same_in_production hdecided' hserves hconfig, fun hless hmade => hdecided'.judged.made.2 ?_⟩
    exact requirements_of_less hserves hconfig hless (hdecided.judged.made.1 hmade)

end Decision

/-! ## Databases that break down -/

open scoped Simulation

/-- introspectors that break down when they are asked -/
def brokenDatabases : Introspectors Unit where
  serves _ := true
  ask _ _ _ memory := (⟨some ⟨0⟩, .aborted "no route"⟩, memory)

def sketchConfig : RuntimeConfig := { plainConfig with runtime := { host := { mode := .development } } }

/-- a gateway that starts with that configuration, and is asked to put it in force -/
def sketchedGateway : World Services Unit :=
  (Gateway.boot (some sketchConfig) ()).world.submit (.change (.apply servedHolder ⟨0, sketchConfig⟩))

/-- what the change does after its first step -/
def sketchEvents : List Event := [.advance 0, .advance 0, .settle 0 "default"] ++ List.replicate 16 (.advance 0)

theorem sketch_applied (introspectors : Introspectors Unit) :
    Applied {} (fun _ => none) introspectors sketchedGateway 0 servedHolder ⟨0, sketchConfig⟩ sketchEvents := by
  refine ⟨⟨(Gateway.boot (some sketchConfig) ()).world, [.submit (.change (.apply servedHolder ⟨0, sketchConfig⟩))],
    idle_boot _ _, rfl⟩, rfl, rfl, Nat.one_pos, ⟨Nat.one_pos, fun t ht _ => (Option.some.inj ht).symm⟩, ?_⟩
  intro e he t
  rcases List.mem_append.1 he with he | he
  · fin_cases he <;> simp
  · rw [List.eq_of_mem_replicate he]
    simp

set_option maxRecDepth 4000 in
theorem broken_database_is_no_obstacle :
    AllMet (requirements brokenDatabases (.ofSeconds 15) 0 () ⟨0, sketchConfig⟩) ∧
      ∃ report, (sketchedGateway.run (Server.setup {} (fun _ => none) brokenDatabases)
        (.advance 0 :: sketchEvents)).result? 0 = some (.changed (.ok report)) := by
  obtain ⟨report, hreport⟩ : ∃ report, (sketchedGateway.run (Server.setup {} (fun _ => none) emptyDatabases)
    (.advance 0 :: sketchEvents)).result? 0 = some (.changed (.ok report)) := ⟨_, rfl⟩
  obtain ⟨result, hresult⟩ : ∃ result, (sketchedGateway.run (Server.setup {} (fun _ => none) brokenDatabases)
    (.advance 0 :: sketchEvents)).result? 0 = some result := ⟨_, rfl⟩
  have hinTime : ¬ result.IsLate := by
    rintro ⟨d, rfl⟩
    cases hresult
  have hempty : Decided {} (fun _ => none) emptyDatabases sketchedGateway 0 servedHolder ⟨0, sketchConfig⟩ sketchEvents
      (.changed (.ok report)) 0 () :=
    ⟨sketch_applied _, hreport, fun ⟨_, h⟩ => (by cases h), fun x hx => List.mem_singleton.1 hx⟩
  have hbroken : Decided {} (fun _ => none) brokenDatabases sketchedGateway 0 servedHolder ⟨0, sketchConfig⟩
      sketchEvents result 0 () := ⟨sketch_applied _, hresult, hinTime, fun x hx => List.mem_singleton.1 hx⟩
  have hless : LearnsLess (endings brokenDatabases (.ofSeconds 15) 0 () ⟨0, sketchConfig⟩)
      (endings emptyDatabases (.ofSeconds 15) 0 () ⟨0, sketchConfig⟩) := by
    intro x hx hsucceeds
    obtain rfl : x = ("default", .answered (.aborted "no route")) := List.mem_singleton.1 hx
    cases hsucceeds
  obtain ⟨-, -, hdecide⟩ := requirements_decide (sketch_applied emptyDatabases)
  obtain ⟨-, hothers⟩ := hdecide _ _ _ hempty
  obtain ⟨report', rfl⟩ := (hothers _ _ _ _ _ _ _ _ _ _ _ hbroken rfl rfl).2 hless ⟨report, rfl⟩
  exact ⟨hbroken.judged.made.1 ⟨report', rfl⟩, report', hresult⟩

end World

end EntityGateway
