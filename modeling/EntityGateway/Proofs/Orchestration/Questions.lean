/-
Which databases a change talks to.

A change asks databases at one moment, when its metadata are begun, and all of them or none. It asks none if it is
refused the lock, if its snapshot is not valid, or if one of the data sources is not served; then it fails because of
the first one that is not. Otherwise each database of the snapshot is asked once, with the data source as it stands in
the snapshot, for the objects of the entities that are bound to it.

- `inquiries`: the questions along a list of events, with the jobs that ask them; `run_memory`: there are no others;
- `AskedIn`: what a change has asked in each phase, with `askedIn_move`;
- `databases_are_asked_as_configured`: the whole of it, at every moment of a change.
-/
import EntityGateway.Proofs.Metadata.Accounting
import EntityGateway.Proofs.Metadata.Inquiries
import EntityGateway.Proofs.Orchestration.EarlyFailure

namespace EntityGateway

/-- whether the next move of a job in this phase may ask databases -/
def Phase.isAsking : Phase → Bool
  | .constructing _ | .refreshing => true
  | _ => false

namespace World

/-! ## Questions along a list of events -/

/-- the questions that an event asks, with the job that asks them -/
def inquiriesOf (setup : Setup σ ι) (w : World σ ι) : Event → List (Nat × Inquiry)
  | .advance job =>
    match w.phase? job with
    | some (.constructing r) =>
      match ProviderSet.ofSnapshot setup.introspectors r.snapshot with
      | .ok made => made.inquiries.map fun q => (job, q)
      | .error _ => []
    | some .refreshing => w.currentSet.inquiries.map fun q => (job, q)
    | _ => []
  | _ => []

/-- the questions along a list of events -/
def inquiries (setup : Setup σ ι) (w : World σ ι) : List Event → List (Nat × Inquiry)
  | [] => []
  | e :: l => w.inquiriesOf setup e ++ (w.step setup e).inquiries setup l

/-- the questions that one job asks along a list of events -/
def inquiriesBy (setup : Setup σ ι) (job : Nat) (w : World σ ι) (l : List Event) : List Inquiry :=
  ((w.inquiries setup l).filter (·.1 == job)).map (·.2)

section Trace

variable {setup : Setup σ ι} {job : Nat} {w u : World σ ι} {p q : Phase} {e : Event} {r : Run}

theorem inquiries_append (w : World σ ι) (a b : List Event) :
    w.inquiries setup (a ++ b) = w.inquiries setup a ++ (w.run setup a).inquiries setup b := by
  induction a generalizing w with
  | nil => rfl
  | cons e a ih =>
    simp only [List.cons_append, inquiries, ih, List.append_assoc]
    rfl

theorem inquiriesBy_concat (w : World σ ι) (l : List Event) (e : Event) :
    w.inquiriesBy setup job (l ++ [e]) = w.inquiriesBy setup job l ++
      (((w.run setup l).inquiriesOf setup e).filter (·.1 == job)).map (·.2) := by
  simp [inquiriesBy, inquiries_append, inquiries]

theorem inquiriesOf_job {x : Nat × Inquiry} (h : x ∈ w.inquiriesOf setup e) : e = .advance x.1 := by
  unfold inquiriesOf at h
  split at h
  · split at h
    · split at h
      · obtain ⟨q, -, rfl⟩ := List.mem_map.1 h
        rfl
      · cases h
    · obtain ⟨q, -, rfl⟩ := List.mem_map.1 h
      rfl
    · cases h
  · cases h

theorem inquiriesBy_of_ne (h : e ≠ .advance job) (l : List Event) :
    w.inquiriesBy setup job (l ++ [e]) = w.inquiriesBy setup job l := by
  have hnone : ((w.run setup l).inquiriesOf setup e).filter (·.1 == job) = [] := by
    refine List.filter_eq_nil_iff.2 ?_
    intro x hx hjob
    exact h (beq_iff_eq.1 hjob ▸ inquiriesOf_job hx)
  rw [inquiriesBy_concat, hnone]
  exact List.append_nil _

theorem inquiriesBy_of_quiet {l : List Event} (hp : (w.run setup l).phase? job = some p) (hquiet : p.isAsking = false)
    (e : Event) : w.inquiriesBy setup job (l ++ [e]) = w.inquiriesBy setup job l := by
  by_cases he : e = .advance job
  · subst he
    have hnone : (w.run setup l).inquiriesOf setup (.advance job) = [] := by
      unfold inquiriesOf
      simp only [hp]
      cases p <;> first | rfl | cases hquiet
    rw [inquiriesBy_concat, hnone]
    exact List.append_nil _
  · exact inquiriesBy_of_ne he l

/-- a job that has nothing else to do than to make its metadata asks the questions of its set -/
theorem inquiriesBy_constructing {l : List Event} (hp : (w.run setup l).phase? job = some (.constructing r)) :
    w.inquiriesBy setup job (l ++ [.advance job]) = w.inquiriesBy setup job l ++
      match ProviderSet.ofSnapshot setup.introspectors r.snapshot with
      | .ok made => made.inquiries
      | .error _ => [] := by
  rw [inquiriesBy_concat]
  unfold inquiriesOf
  simp only [hp]
  cases ProviderSet.ofSnapshot setup.introspectors r.snapshot with
  | ok made => simp [List.filter_map, Function.comp_def]
  | error e => rfl

/-- what introspectors remember after a move are the questions that it asked -/
theorem move_memory (hp : w.phase? job = some p) (hm : Move setup job w p q u) :
    u.memory = setup.introspectors.remembers w.memory ((w.inquiriesOf setup (.advance job)).map (·.2)) := by
  unfold inquiriesOf
  simp only [hp]
  cases hm with
  | accept => split_ifs <;> rfl
  | construct hset hlaunch =>
    simpa [hset, Function.comp_def] using memory_of_launch hlaunch
  | unsupported hset =>
    simp only [hset]
    rfl
  | refresh hlaunch =>
    simpa [Function.comp_def] using memory_of_launch hlaunch
  | call hcall => cases hcall; rfl
  | generate hcall => cases hcall; rfl
  | restore _ hu => subst hu; rfl
  | giveUp hu => subst hu; rfl
  | _ => rfl

theorem step_memory (hs : Step setup w e u) :
    u.memory = setup.introspectors.remembers w.memory ((w.inquiriesOf setup e).map (·.2)) := by
  cases hs with
  | advance hp hm =>
    have hmemory := move_memory hp hm
    exact hmemory
  | _ => rfl

theorem inquiriesOf_of_none (h : w.step? setup e = none) : w.inquiriesOf setup e = [] := by
  refine List.eq_nil_iff_forall_not_mem.2 ?_
  intro x hx
  obtain rfl := inquiriesOf_job hx
  unfold inquiriesOf at hx
  cases hp : w.phase? x.1 with
  | none => simp [hp] at hx
  | some p => cases p <;> first | simp [hp] at hx; done | simp [step?, advance?, hp, next?] at h

/-- **Introspectors remember the questions along a list of events**, one after another, and nothing else -/
theorem run_memory (w : World σ ι) (l : List Event) :
    (w.run setup l).memory = setup.introspectors.remembers w.memory ((w.inquiries setup l).map (·.2)) := by
  induction l generalizing w with
  | nil => rfl
  | cons e l ih =>
    have hstep : (w.step setup e).memory =
        setup.introspectors.remembers w.memory ((w.inquiriesOf setup e).map (·.2)) := by
      rcases step_cases setup w e with ⟨hnone, hw⟩ | hs
      · rw [hw, inquiriesOf_of_none hnone]
        rfl
      · exact step_memory hs
    calc (w.run setup (e :: l)).memory = ((w.step setup e).run setup l).memory := rfl
      _ = setup.introspectors.remembers (w.step setup e).memory (((w.step setup e).inquiries setup l).map (·.2)) :=
        ih (w.step setup e)
      _ = setup.introspectors.remembers w.memory ((w.inquiries setup (e :: l)).map (·.2)) := by
        rw [hstep, ← remembers_append, ← List.map_append]
        rfl

end Trace

end World

/-! ## What a change has asked -/

/-- whether a fault of a change comes before it asks any database -/
def ChangeError.isUnasked : ChangeError → Bool
  | .inProgress | .stage .validating _ | .timeout .validating _ | .stage .rebuildingMetadata _ => true
  | _ => false

namespace Phase

/-- whether the metadata of a change have been begun by this phase -/
def hasBegun : Phase → Bool
  | .preparing .. | .relating .. | .committing .. | .calling .. | .awaiting .. | .rollingBack .. => true
  | .generating .. | .documenting .. | .concluding .. | .finished (.changed (.ok _)) => true
  | .failing _ fault | .finished (.changed (.error fault)) => !fault.isUnasked
  | _ => false

/-- the fault that a change ends with, or is about to end with -/
def fault? : Phase → Option ChangeError
  | .rollingBack _ fault | .failing _ fault | .finished (.changed (.error fault)) => some fault
  | _ => none

end Phase

section Asked

variable (i : Introspectors ι) (s : Snapshot)

/-- a change of a snapshot has asked its questions -/
def HasAsked (asked : List Inquiry) : Prop :=
  World.checkSnapshot s.config = .ok () ∧ ∃ made, ProviderSet.ofSnapshot i s = .ok made ∧ asked = made.inquiries

/-- a change of a snapshot fails before it asks anything -/
inductive EndsUnasked : ChangeError → Prop
  | busy : EndsUnasked .inProgress
  | invalid (hcheck : World.checkSnapshot s.config = .error e) : EndsUnasked (.stage .validating (.config e))
  | unserved (hcheck : World.checkSnapshot s.config = .ok ()) (hset : ProviderSet.ofSnapshot i s = .error e) :
      EndsUnasked (.stage .rebuildingMetadata (.config e))

/-- a change of a snapshot has asked nothing, or everything, by the time of a fault -/
def FailsWith (asked : List Inquiry) (fault : ChangeError) : Prop :=
  (asked = [] ∧ EndsUnasked i s fault) ∨ (HasAsked i s asked ∧ fault.isUnasked = false)

/-- services are called by a change that has asked its questions -/
def CallsWith (asked : List Inquiry) : Purpose → Prop
  | .serve _ => HasAsked i s asked
  | .restore fault => HasAsked i s asked ∧ fault.isUnasked = false

/-- what a change of a snapshot has asked in a phase -/
def AskedIn (asked : List Inquiry) : Phase → Prop
  | .locking t => asked = [] ∧ ∃ holder, t = .apply holder s
  | .validating r => asked = [] ∧ r.snapshot = s
  | .constructing r => asked = [] ∧ r.snapshot = s ∧ World.checkSnapshot s.config = .ok ()
  | .preparing .. | .relating .. | .committing .. | .generating .. | .documenting .. => HasAsked i s asked
  | .concluding .. | .finished (.changed (.ok _)) => HasAsked i s asked
  | .calling rw _ | .awaiting rw _ _ _ => CallsWith i s asked rw.purpose
  | .rollingBack _ fault => HasAsked i s asked ∧ fault.isUnasked = false
  | .failing _ fault | .finished (.changed (.error fault)) => FailsWith i s asked fault
  | .dropped => asked = [] ∨ HasAsked i s asked
  | _ => False

end Asked

namespace World

section Course

variable {setup : Setup σ ι} {job : Nat} {s : Snapshot} {w u : World σ ι} {p q : Phase} {asked : List Inquiry}

/-- **A change asks its questions when it makes its metadata**, and at no other time -/
theorem askedIn_move (hm : Move setup job w p q u) (h : AskedIn setup.introspectors s asked p)
    (hother : p.isAsking = false) : AskedIn setup.introspectors s asked q := by
  cases hm with
  | install => exact h.elim
  | mark => exact h.elim
  | accept => exact h.elim
  | busy => exact .inl ⟨h.1, .busy⟩
  | apply =>
    obtain ⟨hasked, holder, ht⟩ := h
    cases ht
    exact ⟨hasked, rfl⟩
  | reject =>
    obtain ⟨-, holder, ht⟩ := h
    cases ht
  | edit =>
    obtain ⟨-, holder, ht⟩ := h
    cases ht
  | invalid hcheck =>
    obtain ⟨hasked, rfl⟩ := h
    exact .inl ⟨hasked, .invalid hcheck⟩
  | valid hcheck =>
    obtain ⟨hasked, rfl⟩ := h
    exact ⟨hasked, rfl, hcheck⟩
  | unprepared => exact .inr ⟨h, rfl⟩
  | unrelated => exact .inr ⟨h, rfl⟩
  | call hcall => exact h
  | refused hreply hbad hpurpose =>
    have hstage := callFailure_stage hbad
    simp only [AskedIn, hpurpose, CallsWith] at h
    refine ⟨h, ?_⟩
    unfold ChangeError.isUnasked
    split <;> first | rfl | cases hstage
  | lost _ _ hpurpose =>
    simp only [AskedIn, hpurpose, CallsWith] at h
    exact .inr h
  | restored hpurpose =>
    simp only [AskedIn, hpurpose, CallsWith] at h
    exact .inr h
  | document hpurpose =>
    simp only [AskedIn, hpurpose, CallsWith] at h
    exact h
  | skip hpurpose =>
    simp only [AskedIn, hpurpose, CallsWith] at h
    exact h
  | giveUp => exact .inr h
  | unsupported => cases hother
  | construct => cases hother
  | refresh => cases hother
  | _ => exact h

theorem askedIn_construct {r : Run} (hm : Move setup job w (.constructing r) q u)
    (h : AskedIn setup.introspectors s asked (.constructing r)) :
    AskedIn setup.introspectors s (asked ++
      match ProviderSet.ofSnapshot setup.introspectors r.snapshot with
      | .ok made => made.inquiries
      | .error _ => []) q := by
  obtain ⟨rfl, rfl, hcheck⟩ := h
  cases hm with
  | unsupported hset =>
    rw [hset]
    exact .inl ⟨rfl, .unserved hcheck hset⟩
  | construct hset =>
    rw [hset]
    exact ⟨hcheck, _, hset, rfl⟩

variable (setup) in
theorem askedIn_run {holder : Nat} (hp : w.phase? job = some (.locking (.apply holder s))) (l : List Event) :
    ∃ q, (w.run setup l).phase? job = some q ∧
      AskedIn setup.introspectors s (w.inquiriesBy setup job l) q := by
  refine follow_run (I := fun l q => AskedIn setup.introspectors s (w.inquiriesBy setup job l) q) hp ⟨rfl, holder, rfl⟩
    ?_ ?_ l
  · intro l e p h _ hnone _
    rwa [inquiriesBy_concat, inquiriesOf_of_none hnone, List.filter_nil, List.map_nil, List.append_nil]
  · intro l e p u q h hp _ _ hturn
    cases hturn with
    | moves hm =>
      cases hasking : p.isAsking with
      | false =>
        rw [inquiriesBy_of_quiet hp hasking]
        exact askedIn_move hm h hasking
      | true =>
        cases p with
        | constructing r =>
          rw [inquiriesBy_constructing hp]
          exact askedIn_construct hm h
        | refreshing => exact h.elim
        | _ => cases hasking
    | settles hg =>
      rw [inquiriesBy_of_ne (by simp)]
      cases p <;> cases hg <;> exact h
    | drops hcan =>
      rw [inquiriesBy_of_ne (by simp)]
      cases p with
      | locking => exact .inl h.1
      | preparing => exact .inr h
      | awaiting rw =>
        right
        cases hpurpose : rw.purpose with
        | serve c => simpa only [AskedIn, hpurpose, CallsWith] using h
        | restore fault =>
          simp only [AskedIn, hpurpose, CallsWith] at h
          exact h.1
      | documenting => exact .inr h
      | checking => exact h.elim
      | considering => exact h.elim
      | refreshing => exact h.elim
      | gathering => exact h.elim
      | _ => cases hcan
    | rests _ hne =>
      rw [inquiriesBy_of_ne ?_]
      · exact h
      · rintro rfl
        exact hne rfl

end Course

end World

/-! ## Which databases are asked -/

section Inquiring

variable {i : Introspectors ι} {s : Snapshot} {asked : List Inquiry} {p : Phase} {fault : ChangeError}

/-- a change of a snapshot has asked what it is to ask by the time of a phase -/
structure Inquires (i : Introspectors ι) (s : Snapshot) (asked : List Inquiry) (p : Phase) : Prop where
  whole : asked = [] ∨ AreFor s.config asked
  begun : p.hasBegun = true → AreFor s.config asked
  unasked : ∀ fault, p.fault? = some fault → fault.isUnasked = true → asked = []
  /-- a snapshot that is not valid -/
  invalid : ∀ e, World.checkSnapshot s.config = .error e → asked = []
  /-- a data source that is not served -/
  unserved : ∀ name source, s.config.dataSources.get? name = some source → ¬ i.Serves source.databaseType →
    asked = [] ∧ ∃ first unserved, FirstUnserved i s.config first unserved ∧
      ∀ result, World.checkSnapshot s.config = .ok () → p = .finished result →
        result = .changed (.error .inProgress) ∨ result = .changed (.error (.stage .rebuildingMetadata
          (.config (.rebuildFailed (.unsupportedBackend first unserved.databaseType.name)))))
  construction : ∀ cause, p.fault? = some (.stage .rebuildingMetadata cause) → ∃ name source,
    FirstUnserved i s.config name source ∧
      cause = .config (.rebuildFailed (.unsupportedBackend name source.databaseType.name))

theorem areFor_of_hasAsked (h : HasAsked i s asked) : AreFor s.config asked := by
  obtain ⟨-, made, hmade, rfl⟩ := h
  exact areFor_inquiries hmade

theorem isUnasked_of_endsUnasked (h : EndsUnasked i s fault) : fault.isUnasked = true := by
  cases h <;> rfl

/-- a change has asked nothing or everything, and everything if its metadata have been begun -/
theorem askedIn_cases (h : AskedIn i s asked p) : (asked = [] ∧ p.hasBegun = false) ∨ HasAsked i s asked := by
  have hfails : ∀ {fault}, FailsWith i s asked fault →
      (asked = [] ∧ (!fault.isUnasked) = false) ∨ HasAsked i s asked := by
    intro fault h
    rcases h with ⟨hnone, hback⟩ | ⟨hasked, -⟩
    · exact .inl ⟨hnone, by rw [isUnasked_of_endsUnasked hback]; rfl⟩
    · exact .inr hasked
  have hcalls : ∀ {purpose}, CallsWith i s asked purpose → HasAsked i s asked := by
    intro purpose h
    cases purpose with
    | serve => exact h
    | restore => exact h.1
  cases p with
  | locking => exact .inl ⟨h.1, rfl⟩
  | validating => exact .inl ⟨h.1, rfl⟩
  | constructing => exact .inl ⟨h.1, rfl⟩
  | calling => exact .inr (hcalls h)
  | awaiting => exact .inr (hcalls h)
  | rollingBack => exact .inr h.1
  | failing => exact hfails h
  | dropped => exact h.imp_left fun hnone => ⟨hnone, rfl⟩
  | finished result =>
    rcases result with (_ | _) | _ | _ | _
    · exact hfails h
    · exact .inr h
    · exact h.elim
    · exact h.elim
    · exact h.elim
  | preparing => exact .inr h
  | relating => exact .inr h
  | committing => exact .inr h
  | generating => exact .inr h
  | documenting => exact .inr h
  | concluding => exact .inr h
  | _ => exact h.elim

/-- a fault of a change says whether it has asked anything -/
theorem failsWith_of_fault? (h : AskedIn i s asked p) (hfault : p.fault? = some fault) : FailsWith i s asked fault := by
  cases p with
  | rollingBack =>
    cases hfault
    exact .inr h
  | failing =>
    cases hfault
    exact h
  | finished result =>
    rcases result with (_ | _) | _ | _ | _ <;> cases hfault
    exact h
  | _ => cases hfault

theorem inquires_of_askedIn (h : AskedIn i s asked p) : Inquires i s asked p := by
  refine ⟨?_, ?_, ?_, ?_, ?_, ?_⟩
  · exact (askedIn_cases h).imp And.left areFor_of_hasAsked
  · intro hbegun
    rcases askedIn_cases h with ⟨-, hnot⟩ | hasked
    · rw [hbegun] at hnot
      cases hnot
    · exact areFor_of_hasAsked hasked
  · intro fault hfault hunasked
    rcases failsWith_of_fault? h hfault with ⟨hnone, -⟩ | ⟨-, hlate⟩
    · exact hnone
    · rw [hunasked] at hlate
      cases hlate
  · intro e hcheck
    rcases askedIn_cases h with ⟨hnone, -⟩ | ⟨hvalid, -⟩
    · exact hnone
    · rw [hcheck] at hvalid
      cases hvalid
  · intro name source hsource hunserved
    have hno : ¬ HasAsked i s asked := by
      rintro ⟨-, made, hmade, -⟩
      exact hunserved (serves_of_made hmade hsource)
    have hnone : asked = [] := (askedIn_cases h).elim And.left fun hasked => absurd hasked hno
    cases hset : ProviderSet.ofSnapshot i s with
    | ok made => exact absurd (serves_of_made hset hsource) hunserved
    | error e =>
      obtain ⟨first, unserved, hfirst, rfl⟩ := firstUnserved_of_error hset
      refine ⟨hnone, first, unserved, hfirst, ?_⟩
      rintro result hcheck rfl
      rcases result with (fault | _) | _ | _ | _
      · rcases h with ⟨-, hback⟩ | ⟨hasked, -⟩
        · cases hback with
          | busy => exact .inl rfl
          | invalid hinvalid => cases hcheck.symm.trans hinvalid
          | unserved _ hset' =>
            cases hset.symm.trans hset'
            exact .inr rfl
        · exact absurd hasked hno
      · exact absurd h hno
      · exact h.elim
      · exact h.elim
      · exact h.elim
  · intro cause hfault
    rcases failsWith_of_fault? h hfault with ⟨-, hback⟩ | ⟨-, hlate⟩
    · cases hback with
      | unserved _ hset =>
        obtain ⟨name, source, hfirst, rfl⟩ := firstUnserved_of_error hset
        exact ⟨name, source, hfirst, rfl⟩
    · cases hlate

end Inquiring

namespace World

variable {setup : Setup σ ι} {job holder : Nat} {s : Snapshot} {w : World σ ι}

variable (setup) in
/-- **A change asks the databases of its snapshot, each once, or none at all.** Whatever else goes on, introspectors
remember the questions that were asked and nothing else, and at every moment a change has asked what it is to ask. It
has asked nothing if it was refused the lock, if its snapshot is not valid or if it has a data source that is not
served; the first of these by name is what it fails because of. When the metadata have been begun it has asked each
database once, with the data source of the snapshot, for the objects of the entities that are bound to it, each once, in
the order in which entities have them first. -/
theorem databases_are_asked_as_configured (hp : w.phase? job = some (.locking (.apply holder s))) (l : List Event) :
    (w.run setup l).memory = setup.introspectors.remembers w.memory ((w.inquiries setup l).map (·.2)) ∧
    ∃ p, (w.run setup l).phase? job = some p ∧ Inquires setup.introspectors s (w.inquiriesBy setup job l) p := by
  obtain ⟨p, hp', hasked⟩ := askedIn_run setup hp l
  exact ⟨run_memory w l, p, hp', inquires_of_askedIn hasked⟩

/-! ### A library with a second name for its books -/

/-- the books of a library under two names, an archive, and a depot that is not a database -/
def catalogConfig : RuntimeConfig :=
  { stockConfig with
    dataSources := stockConfig.dataSources.insert "depot"
      { databaseType := .documentStore, options := NameMap.empty.insert "database" (.string "depot") },
    entities := stockConfig.entities.insert "tomes" { source := { object := "public.books" } } }

def stockSetup : Setup Unit Unit := { slowSetup with introspectors := stockDatabases }

/-- what a library asks when it is put in force -/
def catalogInquiries : List Inquiry :=
  (emptyGateway.submit (.change (.apply 0 ⟨0, catalogConfig⟩))).inquiriesBy stockSetup 0
    [.advance 0, .advance 0, .advance 0]

theorem books_are_asked_for_once :
    catalogInquiries.map (fun q => (q.source.connectionString, q.refs.map (·.qualifiedName))) =
      [("far", ["public.notes"]), ("host", ["public.books", "public.ghosts", "public.heaps"])] ∧
    AreFor catalogConfig catalogInquiries := by
  refine ⟨rfl, ?_⟩
  have hlocking : (emptyGateway.submit (.change (.apply 0 ⟨0, catalogConfig⟩))).phase? 0 =
      some (.locking (.apply 0 ⟨0, catalogConfig⟩)) := rfl
  obtain ⟨-, p, hp, hasked⟩ :=
    databases_are_asked_as_configured stockSetup hlocking [.advance 0, .advance 0, .advance 0]
  refine hasked.begun ?_
  obtain rfl := Option.some.inj hp
  rfl

end World

end EntityGateway
