/-
The stages of a change, and the calls on its way.

Changes take turns: while one has the lock, every other one is refused at once and changes nothing. The one with the
lock goes through its stages in an order that is known from its configuration and the services; it shows that it is done
if and only if it was made, and that it has failed right after the stage that its error is about. The services are
called one after another, each when the one before it has agreed, with the new configuration in force.

- `shown`: the stages that are seen along some events, the current one first;
- `shown_move`, `called_move`: a move keeps a change on its course, and its calls in their order;
- `underway_run`: so does everything that happens while the change has the lock;
- `changes_take_turns`: the whole of it, for any events.
-/
import EntityGateway.Proofs.Orchestration.Building
import EntityGateway.Proofs.Orchestration.EarlyFailure
import EntityGateway.Proofs.Orchestration.Rollback

namespace EntityGateway

namespace World

/-! ## Stages -/

/-- the stages of a change before anything is put in force -/
def opening (c : RuntimeConfig) : List Stage :=
  [.validating, .rebuildingMetadata] ++ if c.isDevelopment then [.revalidatingRelationships] else []

/-- whether a configuration is documented once the services are pointed at it -/
def isDocumented (setup : Setup σ ι) (c : RuntimeConfig) : Bool :=
  setup.dependents.documents && !c.usesDocumentStore

/-- the stages of a change to which nothing happens, up to the one before its end -/
def course (setup : Setup σ ι) (c : RuntimeConfig) : List Stage :=
  opening c ++ .rewiringDependents :: if isDocumented setup c then [.generatingArtifacts] else []

def stages (setup : Setup σ ι) (w : World σ ι) : List Event → List Stage
  | [] => []
  | e :: l =>
    (if (w.step setup e).stage = w.stage then [] else [(w.step setup e).stage]) ++ (w.step setup e).stages setup l

/-- the stages that are seen along some events, the current one first -/
def shown (setup : Setup σ ι) (w : World σ ι) (l : List Event) : List Stage := w.stage :: w.stages setup l

section Shown

variable {setup : Setup σ ι} {w : World σ ι} {l before : List Event} {e : Event} {s t : Stage} {a : List Stage}

theorem stages_append (w : World σ ι) (a b : List Event) :
    w.stages setup (a ++ b) = w.stages setup a ++ (w.run setup a).stages setup b := by
  induction a generalizing w with
  | nil => rfl
  | cons e a ih =>
    simp only [List.cons_append, stages, ih, List.append_assoc]
    rfl

theorem shown_stays (h : (w.run setup (l ++ [e])).stage = (w.run setup l).stage) :
    w.shown setup (l ++ [e]) = w.shown setup l := by
  rw [run_snoc] at h
  simp only [shown, stages_append, stages, if_pos h, List.append_nil]

theorem shown_enters (h : (w.run setup (l ++ [e])).stage ≠ (w.run setup l).stage) :
    w.shown setup (l ++ [e]) = w.shown setup l ++ [(w.run setup (l ++ [e])).stage] := by
  rw [run_snoc] at h ⊢
  simp only [shown, stages_append, stages, if_neg h, List.append_nil, List.cons_append]

variable (setup) in
theorem getLast?_shown (w : World σ ι) (l : List Event) :
    (w.shown setup l).getLast? = some (w.run setup l).stage := by
  induction l using List.reverseRecOn with
  | nil => rfl
  | append_singleton l e ih =>
    by_cases h : (w.run setup (l ++ [e])).stage = (w.run setup l).stage
    · rw [shown_stays h, ih, h]
    · rw [shown_enters h, List.getLast?_concat]

theorem stage_of_shown (h : w.shown setup l = a ++ [s]) : (w.run setup l).stage = s := by
  have hlast := getLast?_shown setup w l
  rw [h, List.getLast?_concat] at hlast
  exact (Option.some.inj hlast).symm

theorem shown_next (h : w.shown setup l = a ++ [s]) (ht : (w.run setup (l ++ [e])).stage = t) (hne : t ≠ s) :
    w.shown setup (l ++ [e]) = a ++ [s, t] := by
  rw [shown_enters (by rw [ht, stage_of_shown h]; exact hne), h, ht, List.append_assoc, List.singleton_append]

end Shown

end World

/-! ## A change on its course -/

/-- services are pointed at what a change has put in force, or at what was in force before it failed in doing so -/
def Rewiring.On (rw : Rewiring) (r : Run) : Prop :=
  match rw.purpose with
  | .serve _ => rw.holder = r.holder ∧ rw.snapshot = r.snapshot
  | .restore fault => fault.stage? = some .rewiringDependents

namespace World

section Course

variable (setup : Setup σ ι)

/-- what is seen of a change that fails: its course up to the stage of the error, and what is seen then; documentation
is no such stage -/
def StopsAt (c : RuntimeConfig) (fault : ChangeError) (seen last : List Stage) : Prop :=
  ∃ s before after, fault.stage? = some s ∧ s ≠ .generatingArtifacts ∧ course setup c = before ++ s :: after ∧
    seen = before ++ s :: last

/-- what is seen of a change, given where it is -/
def Shown (r : Run) (seen : List Stage) : Phase → Prop
  | .validating _ => seen = [.validating]
  | .constructing _ | .preparing .. => seen = [.validating, .rebuildingMetadata]
  | .relating .. => r.snapshot.config.isDevelopment = true ∧ seen = opening r.snapshot.config
  | .committing .. => seen = opening r.snapshot.config
  | .calling rw _ | .awaiting rw _ _ _ => rw.On r ∧ seen = opening r.snapshot.config ++ [.rewiringDependents]
  | .rollingBack _ fault =>
    fault.stage? = some .rewiringDependents ∧ seen = opening r.snapshot.config ++ [.rewiringDependents]
  | .generating .. | .documenting .. =>
    isDocumented setup r.snapshot.config = true ∧ seen = course setup r.snapshot.config
  | .concluding .. => seen = course setup r.snapshot.config
  | .failing _ fault => StopsAt setup r.snapshot.config fault seen []
  | _ => False

end Course

section Move

variable {setup : Setup σ ι} {v u : World σ ι} {job : Nat} {r : Run} {l : List Event} {p q : Phase} {seen : List Stage}
  {fault : ChangeError}

/-- an error in rewiring comes right after what is put in force -/
theorem stopsAt_rewiring (h : fault.stage? = some .rewiringDependents)
    (hseen : seen = opening r.snapshot.config ++ [.rewiringDependents]) :
    StopsAt setup r.snapshot.config fault seen [] :=
  ⟨.rewiringDependents, _, _, h, by decide, rfl, hseen⟩

theorem opening_of_development {c : RuntimeConfig} (h : c.isDevelopment = true) :
    opening c = [.validating, .rebuildingMetadata, .revalidatingRelationships] := by
  rw [opening, if_pos h]
  rfl

theorem opening_of_production {c : RuntimeConfig} (h : c.isDevelopment = false) :
    opening c = [.validating, .rebuildingMetadata] := by
  rw [opening, if_neg (by simp [h])]
  rfl

/-- the last stage before something is put in force -/
theorem exists_opening (c : RuntimeConfig) : ∃ a s, opening c = a ++ [s] ∧ s ≠ .rewiringDependents := by
  cases h : c.isDevelopment with
  | true => exact ⟨[.validating, .rebuildingMetadata], _, opening_of_development h, by decide⟩
  | false => exact ⟨[.validating], _, opening_of_production h, by decide⟩

theorem course_of_documented {c : RuntimeConfig} (h : isDocumented setup c = true) :
    course setup c = opening c ++ [.rewiringDependents, .generatingArtifacts] := by
  rw [course, if_pos h]

theorem course_of_undocumented {c : RuntimeConfig} (h : isDocumented setup c = false) :
    course setup c = opening c ++ [.rewiringDependents] := by
  rw [course, if_neg (by simp [h])]

/-- **A move keeps a change on its course** -/
theorem shown_move (hm : Move setup job (v.run setup l) p q u)
    (hu : v.run setup (l ++ [.advance job]) = u.setPhase job q) (hrun : p.run? = some r)
    (hs : Shown setup r (v.shown setup l) p) (hq : q.isLocked = true) :
    Shown setup r (v.shown setup (l ++ [.advance job])) q := by
  have hstage : (v.run setup (l ++ [.advance job])).stage = u.stage := by
    rw [hu]
    rfl
  have hstays : u.stage = (v.run setup l).stage → v.shown setup (l ++ [.advance job]) = v.shown setup l :=
    fun h => shown_stays (hstage.trans h)
  cases hm with
  | invalid => exact ⟨.validating, [], _, rfl, by decide, rfl, (hstays rfl).trans hs⟩
  | valid => exact shown_next (a := []) hs hstage (by decide)
  | unsupported => exact ⟨.rebuildingMetadata, [.validating], _, rfl, by decide, rfl, (hstays rfl).trans hs⟩
  | construct => exact (hstays rfl).trans hs
  | gathered hpending hdev =>
    cases hrun
    refine ⟨hdev, ?_⟩
    rw [opening_of_development hdev]
    exact shown_next (a := [.validating]) hs hstage (by decide)
  | gatheredInProduction hpending hdev =>
    cases hrun
    exact ((hstays rfl).trans hs).trans (opening_of_production hdev).symm
  | unprepared => exact ⟨.rebuildingMetadata, [.validating], _, rfl, by decide, rfl, (hstays rfl).trans hs⟩
  | unrelated =>
    obtain ⟨hdev, hseen⟩ := hs
    rw [opening_of_development hdev] at hseen
    have hcourse : course setup r.snapshot.config = [.validating, .rebuildingMetadata] ++
        .revalidatingRelationships :: (course setup r.snapshot.config).drop 3 := by
      rw [course, opening_of_development hdev]
      rfl
    exact ⟨.revalidatingRelationships, _, _, rfl, by decide, hcourse, (hstays rfl).trans hseen⟩
  | related => exact (hstays rfl).trans hs.2
  | commit =>
    cases hrun
    obtain ⟨a, s, hopening, hne⟩ := exists_opening r.snapshot.config
    refine ⟨⟨rfl, rfl⟩, ?_⟩
    rw [shown_next (hs.trans hopening) hstage hne.symm, hopening, List.append_assoc]
    rfl
  | call hcall => cases hcall; exact ⟨hs.1, (hstays rfl).trans hs.2⟩
  | answered => exact ⟨hs.1, (hstays rfl).trans hs.2⟩
  | refused hreply hbad hpurpose => exact ⟨callFailure_stage hbad, (hstays rfl).trans hs.2⟩
  | lost hreply hbad hpurpose =>
    obtain ⟨hon, hseen⟩ := hs
    simp only [Rewiring.On, hpurpose] at hon
    exact stopsAt_rewiring hon ((hstays rfl).trans hseen)
  | restored hpurpose =>
    obtain ⟨hon, hseen⟩ := hs
    simp only [Rewiring.On, hpurpose] at hon
    exact stopsAt_rewiring hon ((hstays rfl).trans hseen)
  | document hpurpose hdocs hstore =>
    rename_i rw c
    cases hrun
    obtain ⟨hon, hseen⟩ := hs
    simp only [Rewiring.On, hpurpose] at hon
    rw [hon.2] at hstore
    have hdocumented : isDocumented setup rw.run.snapshot.config = true := by simp [isDocumented, hdocs, hstore]
    refine ⟨hdocumented, ?_⟩
    rw [shown_next (t := .generatingArtifacts) hseen hstage (by decide), course_of_documented hdocumented]
  | skip hpurpose hdocs =>
    cases hrun
    obtain ⟨hon, hseen⟩ := hs
    simp only [Rewiring.On, hpurpose] at hon
    rw [hon.2] at hdocs
    refine ((hstays rfl).trans hseen).trans (course_of_undocumented ?_).symm
    rcases hdocs with h | h <;> simp [isDocumented, h]
  | generate hcall => cases hcall; exact ⟨hs.1, (hstays rfl).trans hs.2⟩
  | documented => exact (hstays rfl).trans hs.2
  | restore hready hu' => subst hu'; exact ⟨hs.1, (hstays rfl).trans hs.2⟩
  | giveUp hu' => subst hu'; exact stopsAt_rewiring hs.1 ((hstays rfl).trans hs.2)
  | succeed => cases hq
  | fail => cases hq
  | _ => cases hrun

end Move

end World

/-! ## Calls in their order -/

/-- a call about one thing to do on behalf of a change, to which the service agreed in time -/
structure CallRecord.Agreed (setup : Setup σ ι) (r : Run) (wire : Wire) (c : CallRecord) : Prop where
  asked : c.For r.holder r.snapshot c.set wire
  agreed : c.reply.outcome setup.stageTimeout = some (.ok ())

namespace World

section Calls

variable (setup : Setup σ ι) (v : World σ ι) (job : Nat) (r : Run) (l : List Event)

/-- The change has put in force what it is about: a set that was made since, built from its snapshot, and the snapshot
in its holder unless somebody has replaced it there. -/
structure Committed : Prop where
  bound : (v.run setup l).bound = r.holder
  made : v.sets.length ≤ (v.run setup l).current
  built : (v.run setup l).currentSet.BuiltFrom r.snapshot
  held : (∀ s, .replace r.holder s ∉ l) → ((v.run setup l).holder r.holder).holds r.snapshot = true

/-- a set that was made since, built from the snapshot of a change -/
def Constructed (place : Nat) : Prop := v.sets.length ≤ place ∧ ((v.run setup l).set place).BuiltFrom r.snapshot

/-- the change has put back what was in force before it -/
def TurnedBack : Prop :=
  ∃ before after fault, l = before ++ .advance job :: after ∧
    (v.run setup before).phase? job = some (.rollingBack r fault)

/-- the calls of a change while services are pointed at something -/
def Pointing (rw : Rewiring) (Q : List CallRecord → Prop) : Prop :=
  match rw.purpose with
  | .serve _ => Committed setup v r l ∧ Q (v.callsBy setup job l)
  | .restore _ => TurnedBack setup v job r l

/-- the calls of a change, given where it is -/
def Called : Phase → Prop
  | .validating _ | .constructing _ => v.callsBy setup job l = []
  | .preparing _ g _ => v.callsBy setup job l = [] ∧ Constructed setup v r l g.set
  | .relating _ place _ | .committing _ place _ => v.callsBy setup job l = [] ∧ Constructed setup v r l place
  | .calling rw todo => Pointing setup v job r l rw fun calls =>
    ∃ done, done ++ todo = Wire.all ∧ List.Forall₂ (CallRecord.Agreed setup r) done calls
  | .awaiting rw wire todo p => Pointing setup v job r l rw fun calls =>
    ∃ done agreed c start, done ++ wire :: todo = Wire.all ∧ calls = agreed ++ [c] ∧
      List.Forall₂ (CallRecord.Agreed setup r) done agreed ∧ c.For r.holder r.snapshot c.set wire ∧
      p.Of setup start c.reply
  | .generating .. => List.Forall₂ (CallRecord.Agreed setup r) Wire.all (v.callsBy setup job l)
  | .documenting .. =>
    ∃ agreed c, v.callsBy setup job l = agreed ++ [c] ∧ List.Forall₂ (CallRecord.Agreed setup r) Wire.all agreed ∧
      c.wire = none
  | .concluding .. =>
    ∃ agreed rest, v.callsBy setup job l = agreed ++ rest ∧ List.Forall₂ (CallRecord.Agreed setup r) Wire.all agreed ∧
      rest.map (·.wire) = if isDocumented setup r.snapshot.config then [none] else []
  | .rollingBack r' _ => r' = r
  | .failing .. => True
  | _ => False

end Calls

section Move

variable {setup : Setup σ ι} {v u : World σ ι} {job : Nat} {r : Run} {l : List Event} {p q : Phase} {e : Event}

theorem holds_hold (h : ConfigHolder) (s : Snapshot) : (hold h s).holds s = true := by
  unfold hold
  split_ifs with hholds
  · exact hholds
  · simp [ConfigHolder.holds, ConfigHolder.replace]

theorem ok_of_callFailure {wire : Wire} {reply : Option (Except GatewayError Unit)}
    (h : callFailure setup wire reply = none) : reply = some (.ok ()) := by
  unfold callFailure at h
  split at h
  · rfl
  · cases h
  · cases h

variable (setup) in
theorem run_places (v : World σ ι) (l : List Event) :
    (v.run setup l).holders.length = v.holders.length ∧ v.sets.length ≤ (v.run setup l).sets.length := by
  refine invariant_run (P := fun w => w.holders.length = v.holders.length ∧ v.sets.length ≤ w.sets.length) ?_
    ⟨rfl, le_rfl⟩ l
  intro w e u hw hs
  obtain ⟨hholders, hsets⟩ := step_places hs
  exact ⟨hholders.trans hw.1, hw.2.trans hsets⟩

theorem constructed_snoc {place : Nat} (h : Constructed setup v r l place) (hs : Step setup (v.run setup l) e u)
    (hu : v.run setup (l ++ [e]) = u) : Constructed setup v r (l ++ [e]) place := by
  refine ⟨h.1, ?_⟩
  rw [hu]
  exact builtFrom_step h.2 hs

theorem committed_snoc (h : Committed setup v r l) (hs : Step setup (v.run setup l) e u)
    (hu : v.run setup (l ++ [e]) = u) (hcurrent : u.current = (v.run setup l).current)
    (hbound : u.bound = (v.run setup l).bound)
    (hheld : ∀ s, (∀ t, e ≠ .replace r.holder t) → ((v.run setup l).holder r.holder).held = some s →
      (u.holder r.holder).held = some s) : Committed setup v r (l ++ [e]) := by
  have hbuilt : (u.set (v.run setup l).current).BuiltFrom r.snapshot := builtFrom_step h.built hs
  refine ⟨?_, ?_, ?_, fun hreplace => ?_⟩
  · rw [hu, hbound]
    exact h.bound
  · rw [hu, hcurrent]
    exact h.made
  · rw [hu, currentSet, hcurrent]
    exact hbuilt
  · have hholds := h.held fun s hmem => hreplace s (List.mem_append_left _ hmem)
    obtain ⟨t, ht, hid⟩ := (Option.any_eq_true _ _).1 hholds
    rw [hu]
    refine (Option.any_eq_true _ _).2 ⟨t, hheld t (fun s he => hreplace s ?_) ht, hid⟩
    exact List.mem_append_right _ (he ▸ List.mem_singleton_self _)

theorem turnedBack_snoc (h : TurnedBack setup v job r l) (e : Event) : TurnedBack setup v job r (l ++ [e]) := by
  obtain ⟨before, after, fault, rfl, hp⟩ := h
  exact ⟨before, after ++ [e], fault, by rw [List.append_assoc, List.cons_append], hp⟩

theorem pointing_snoc {rw : Rewiring} {Q Q' : List CallRecord → Prop} (h : Pointing setup v job r l rw Q)
    (hcommitted : Committed setup v r l → Committed setup v r (l ++ [e]))
    (hcalls : ∀ c, rw.purpose = .serve c → ∀ calls, Q calls → Q' (calls ++ (v.run setup l).callsBy setup job [e])) :
    Pointing setup v job r (l ++ [e]) rw Q' := by
  unfold Pointing at h ⊢
  cases hpurpose : rw.purpose with
  | serve c =>
    simp only [hpurpose] at h ⊢
    rw [callsBy_append]
    exact ⟨hcommitted h.1, hcalls c hpurpose _ h.2⟩
  | restore fault =>
    simp only [hpurpose] at h ⊢
    exact turnedBack_snoc h e

/-- what a change has called when everything is done that was to be done -/
theorem agreed_of_called {rw : Rewiring} {c : Commit} (h : Called setup v job r l (.calling rw []))
    (hpurpose : rw.purpose = .serve c) : List.Forall₂ (CallRecord.Agreed setup r) Wire.all (v.callsBy setup job l) := by
  simp only [Called, Pointing, hpurpose] at h
  obtain ⟨-, done, hall, hagreed⟩ := h
  rw [List.append_nil] at hall
  exact hall ▸ hagreed

variable (setup) in
/-- documentation is asked for by one call -/
theorem documentation_made {c : Commit} {w : World σ ι} (hp : w.phase? job = some (.generating r c)) :
    ∃ c, w.callsBy setup job [.advance job] = [c] ∧ c.wire = none := by
  refine ⟨w.recordOf setup job none r.holder r.snapshot (.generate (w.holder r.holder) r.snapshot), ?_, rfl⟩
  rw [callsBy_singleton]
  unfold callOf?
  simp only [hp]
  simp [Option.filter, recordOf]

end Move


section Move

variable {setup : Setup σ ι} {v u : World σ ι} {job : Nat} {r : Run} {l : List Event} {p q : Phase} {e : Event}

theorem committed_commit {place : Nat} (hi : r.holder < v.holders.length) (h : Constructed setup v r l place)
    (hu : v.run setup (l ++ [e]) = World.setPhase ((((v.run setup l).enter .rewiringDependents).setHolder r.holder
      (hold ((v.run setup l).holder r.holder) r.snapshot)).publish r.holder place) job q) :
    Committed setup v r (l ++ [e]) := by
  have hplaces := (run_places setup v l).1
  refine ⟨?_, ?_, ?_, fun _ => ?_⟩
  · rw [hu]
    rfl
  · rw [hu]
    exact h.1
  · rw [hu]
    exact h.2
  · rw [hu]
    have hlt : r.holder < ((v.run setup l).enter .rewiringDependents).holders.length := hplaces ▸ hi
    exact (congrArg (ConfigHolder.holds · r.snapshot) (holder_setHolder_self hlt _)).trans (holds_hold _ _)

/-- **A move keeps the calls of a change in their order** -/
theorem called_move (hi : r.holder < v.holders.length) (hv : (v.run setup l).Sound)
    (hp : (v.run setup l).phase? job = some p) (hm : Move setup job (v.run setup l) p q u)
    (hu : v.run setup (l ++ [.advance job]) = u.setPhase job q) (hrun : p.run? = some r)
    (hs : Shown setup r (v.shown setup l) p) (hc : Called setup v job r l p) (hq : q.isLocked = true) :
    Called setup v job r (l ++ [.advance job]) q := by
  have hstep : Step setup (v.run setup l) (.advance job) (u.setPhase job q) := .advance hp hm
  have hquiet : p.isCalling = false → v.callsBy setup job (l ++ [.advance job]) = v.callsBy setup job l := by
    intro hcalling
    rw [callsBy_append, callsBy_of_quiet hp hcalling, List.append_nil]
  have hcommitted : u.holders = (v.run setup l).holders → u.current = (v.run setup l).current →
      u.bound = (v.run setup l).bound → Committed setup v r l → Committed setup v r (l ++ [.advance job]) := by
    intro hholders hcurrent hbound h
    refine committed_snoc h hstep hu hcurrent hbound fun s _ hheld => ?_
    rw [← hheld]
    exact congrArg ConfigHolder.held (by simp only [holder, setPhase, hholders])
  cases hm with
  | valid => exact (hquiet rfl).trans hc
  | construct hset hlaunch =>
    cases hrun
    refine ⟨(hquiet rfl).trans hc, (run_places setup v l).2, ?_⟩
    rw [hu]
    show ((World.addSet _ _).set _).BuiltFrom _
    rw [set_addSet_self]
    exact builtFrom_launch (builtFrom_ofSnapshot hset) hlaunch
  | gathered => exact ⟨(hquiet rfl).trans hc.1, constructed_snoc hc.2 hstep hu⟩
  | gatheredInProduction => exact ⟨(hquiet rfl).trans hc.1, constructed_snoc hc.2 hstep hu⟩
  | related => exact ⟨(hquiet rfl).trans hc.1, constructed_snoc hc.2 hstep hu⟩
  | commit =>
    cases hrun
    refine ⟨committed_commit hi hc.2 hu, [], rfl, ?_⟩
    rw [hquiet rfl, hc.1]
    exact .nil
  | call hcall =>
    obtain ⟨c, hmade, hfor, hanswer⟩ := call_made hp hcall
    cases hcall
    simp only [Called] at hc ⊢
    refine pointing_snoc hc (hcommitted rfl rfl rfl) fun commit hpurpose calls => ?_
    rintro ⟨done, hall, hagreed⟩
    obtain ⟨hon, -⟩ := hs
    simp only [Rewiring.On, hpurpose] at hon
    rw [hon.1, hon.2] at hfor
    exact ⟨done, calls, c, _, hall, by rw [hmade], hagreed, { hfor with set := rfl }, hanswer⟩
  | answered hreply hok =>
    have htimely := hv.timely _ _ hp
    simp only [Called] at hc ⊢
    refine pointing_snoc hc (hcommitted rfl rfl rfl) fun commit hpurpose calls => ?_
    rintro ⟨done, agreed, c, start, hall, rfl, hagreed, hfor, hanswer⟩
    rw [callsBy_of_quiet hp rfl, List.append_nil]
    rw [replied_outcome hanswer htimely hreply] at hok
    refine ⟨done ++ [_], by rw [List.append_assoc]; exact hall, ?_⟩
    exact List.rel_append hagreed (.cons ⟨hfor, ok_of_callFailure hok⟩ .nil)
  | refused => exact Option.some.inj hrun
  | document hpurpose =>
    have hagreed := agreed_of_called hc hpurpose
    rw [← hquiet rfl] at hagreed
    exact hagreed
  | skip hpurpose hdocs =>
    cases hrun
    obtain ⟨hon, -⟩ := hs
    simp only [Rewiring.On, hpurpose] at hon
    rw [hon.2] at hdocs
    refine ⟨v.callsBy setup job l, [], by rw [hquiet rfl, List.append_nil], agreed_of_called hc hpurpose, ?_⟩
    rcases hdocs with h | h <;> simp [isDocumented, h]
  | generate =>
    obtain ⟨c, hmade, hwire⟩ := documentation_made setup hp
    refine ⟨v.callsBy setup job l, c, ?_, hc, hwire⟩
    rw [callsBy_append, hmade]
  | documented =>
    obtain ⟨agreed, c, hcalls, hagreed, hwire⟩ := hc
    refine ⟨agreed, [c], (hquiet rfl).trans hcalls, hagreed, ?_⟩
    rw [if_pos hs.1, List.map_singleton, hwire]
  | restore =>
    obtain rfl := hc
    exact ⟨l, [], _, rfl, hp⟩
  | giveUp => trivial
  | lost => trivial
  | restored => trivial
  | invalid => trivial
  | unsupported => trivial
  | unprepared => trivial
  | unrelated => trivial
  | succeed => cases hq
  | fail => cases hq
  | _ => cases hrun

theorem called_still (hquiet : (v.run setup l).callsBy setup job [e] = [])
    (hconstructed : ∀ place, Constructed setup v r l place → Constructed setup v r (l ++ [e]) place)
    (hcommitted : Committed setup v r l → Committed setup v r (l ++ [e])) (hc : Called setup v job r l p) :
    Called setup v job r (l ++ [e]) p := by
  have hcalls : v.callsBy setup job (l ++ [e]) = v.callsBy setup job l := by
    rw [callsBy_append, hquiet, List.append_nil]
  cases p with
  | validating => exact hcalls.trans hc
  | constructing => exact hcalls.trans hc
  | preparing => exact ⟨hcalls.trans hc.1, hconstructed _ hc.2⟩
  | relating => exact ⟨hcalls.trans hc.1, hconstructed _ hc.2⟩
  | committing => exact ⟨hcalls.trans hc.1, hconstructed _ hc.2⟩
  | calling =>
    simp only [Called] at hc ⊢
    refine pointing_snoc hc hcommitted fun c _ calls h => ?_
    rw [hquiet, List.append_nil]
    exact h
  | awaiting =>
    simp only [Called] at hc ⊢
    refine pointing_snoc hc hcommitted fun c _ calls h => ?_
    rw [hquiet, List.append_nil]
    exact h
  | generating =>
    simp only [Called, hcalls] at hc ⊢
    exact hc
  | documenting =>
    simp only [Called, hcalls] at hc ⊢
    exact hc
  | concluding =>
    simp only [Called, hcalls] at hc ⊢
    exact hc
  | _ => exact hc

end Move

/-! ## A change along all events -/

/-- a change that has the lock, with what was seen of it and what it has called -/
structure Underway (setup : Setup σ ι) (v : World σ ι) (job : Nat) (r : Run) (l : List Event) (p : Phase) : Prop where
  run : p.run? = some r
  shown : Shown setup r (v.shown setup l) p
  called : Called setup v job r l p

section Run

variable {setup : Setup σ ι} {v u : World σ ι} {job : Nat} {r : Run} {l : List Event} {p q : Phase} {e : Event}

theorem locked_of_run (h : p.run? = some r) : p.isLocked = true := by
  cases p <;> first | rfl | cases h

theorem isEnded_of_unlocked (hm : Move setup job v p q u) (hp : p.isLocked = true) (hq : q.isLocked = false) :
    q.isEnded = true := by
  cases hm <;> first | rfl | contradiction

/-- what is known of a change does not depend on what the others do -/
theorem underway_still (h : Underway setup v job r l p) (hs : Step setup (v.run setup l) e u)
    (hu : v.run setup (l ++ [e]) = u) (hne : e ≠ .advance job) (hcurrent : u.current = (v.run setup l).current)
    (hbound : u.bound = (v.run setup l).bound) (hstage : u.stage = (v.run setup l).stage)
    (hheld : ∀ s, (∀ t, e ≠ .replace r.holder t) → ((v.run setup l).holder r.holder).held = some s →
      (u.holder r.holder).held = some s) : Underway setup v job r (l ++ [e]) p := by
  refine ⟨h.run, ?_, ?_⟩
  · rw [shown_stays (by rw [hu, hstage])]
    exact h.shown
  · refine called_still (callsBy_of_ne hne) (fun place hplace => constructed_snoc hplace hs hu)
      (fun hforce => ?_) h.called
    exact committed_snoc hforce hs hu hcurrent hbound hheld

/-- **A step keeps a change under way**, or ends it -/
theorem underway_step (hi : r.holder < v.holders.length) (hv : (v.run setup l).Sound)
    (hp : (v.run setup l).phase? job = some p) (h : Underway setup v job r l p) (hs : Step setup (v.run setup l) e u)
    (hu : v.run setup (l ++ [e]) = u) :
    ∃ q, u.phase? job = some q ∧ (q.isEnded = true ∨ Underway setup v job r (l ++ [e]) q) := by
  have hlocked := locked_of_run h.run
  obtain ⟨q, hq, hturn⟩ := turn_of_step hs hp
  refine ⟨q, hq, ?_⟩
  cases hturn with
  | moves hm =>
    cases hqlocked : q.isLocked with
    | false => exact Or.inl (isEnded_of_unlocked hm hlocked hqlocked)
    | true =>
      refine Or.inr ⟨?_, ?_, ?_⟩
      · rw [move_run hm hlocked hqlocked]
        exact h.run
      · exact shown_move hm hu h.run h.shown hqlocked
      · exact called_move hi hv hp hm hu h.run h.shown h.called hqlocked
  | settles hg =>
    have hstill : Underway setup v job r _ p :=
      underway_still h hs hu (by simp) rfl rfl rfl fun s _ hheld => hheld
    refine Or.inr ?_
    cases p with
    | preparing =>
      cases hg
      exact ⟨hstill.run, hstill.shown, hstill.called⟩
    | gathering => cases hlocked
    | _ => cases hg
  | drops => exact Or.inl rfl
  | rests _ hother =>
    have hne : e ≠ .advance job := by
      rintro rfl
      exact hother rfl
    have hrun := hv.alone job p hp hlocked
    have hgov := step_governed hv hrun hs hother
    exact Or.inr (underway_still h hs hu hne hgov.current hgov.bound hgov.stage fun s hreplace hheld =>
      held_of_other hv hrun hs hother hreplace hheld)

theorem underway_idle (h : Underway setup v job r l p) (hnone : (v.run setup l).step? setup e = none)
    (hu : v.run setup (l ++ [e]) = v.run setup l) : Underway setup v job r (l ++ [e]) p := by
  refine ⟨h.run, ?_, ?_⟩
  · rw [shown_stays (by rw [hu])]
    exact h.shown
  · refine called_still (callsBy_of_none hnone) (fun place hplace => ⟨hplace.1, ?_⟩) (fun hforce => ?_) h.called
    · rw [hu]
      exact hplace.2
    · refine ⟨?_, ?_, ?_, fun hreplace => ?_⟩
      · rw [hu]
        exact hforce.bound
      · rw [hu]
        exact hforce.made
      · rw [hu]
        exact hforce.built
      · rw [hu]
        exact hforce.held fun s hmem => hreplace s (List.mem_append_left _ hmem)

/-- **A change is under way until its end** -/
theorem underway_run (setup : Setup σ ι) (hv : v.Sound) (hi : r.holder < v.holders.length)
    (hp : v.phase? job = some (.validating r))
    (hstage : v.stage = .validating) (l : List Event) :
    ∃ p, (v.run setup l).phase? job = some p ∧ (p.isEnded = true ∨ Underway setup v job r l p) := by
  induction l using List.reverseRecOn with
  | nil =>
    refine ⟨_, hp, Or.inr ⟨rfl, ?_, rfl⟩⟩
    show [v.stage] = [.validating]
    rw [hstage]
  | append_singleton l e ih =>
    obtain ⟨p, hp, hcase⟩ := ih
    rw [run_snoc]
    rcases step_cases setup (v.run setup l) e with ⟨hnone, hsame⟩ | hs
    · refine ⟨p, by rw [hsame]; exact hp, hcase.imp_right fun h => ?_⟩
      exact underway_idle h hnone (by rw [run_snoc, hsame])
    · rcases hcase with hended | hunderway
      · exact ⟨p, ended_step hs hp hended, Or.inl hended⟩
      · exact underway_step hi (sound_run hv l) hp hunderway hs (run_snoc ..)

end Run

/-! ## The order of a change -/

/-- the change that a trigger begins, if it gets the lock -/
def Begins (w : World σ ι) (r : Run) : Trigger → Prop
  | .apply i s => r.holder = i ∧ r.snapshot = s
  | .edit i make => r.holder = i ∧ (w.holder i).config >>= make = .ok r.snapshot.config

/-- how a change ends, with what was seen of it and what it has called: it is made, and everything was called and
agreed; or it fails right after the stage of its error -/
inductive EndsWith (setup : Setup σ ι) (r : Run) (seen : List Stage) (calls : List CallRecord) : JobResult → Prop
  | made (hseen : seen = course setup r.snapshot.config ++ [.ready]) (hcalls : calls = agreed ++ rest)
      (hagreed : List.Forall₂ (CallRecord.Agreed setup r) Wire.all agreed)
      (hrest : rest.map (·.wire) = if isDocumented setup r.snapshot.config then [none] else []) :
      EndsWith setup r seen calls (.changed (.ok report))
  | failed (hstops : StopsAt setup r.snapshot.config fault seen [.failed]) :
      EndsWith setup r seen calls (.changed (.error fault))

/-- What is true when a change makes a call: those before it have agreed and its configuration is in force, or all have
and it is documented, or it has failed and points the services back. -/
inductive InTurn (setup : Setup σ ι) (v : World σ ι) (job : Nat) (r : Run) (l : List Event) (c : CallRecord) : Prop
  | serves (hall : done ++ wire :: todo = Wire.all)
      (hagreed : List.Forall₂ (CallRecord.Agreed setup r) done (v.callsBy setup job l))
      (hwire : c.wire = some wire)
      (hasked : c.asked = wire.call ((v.run setup l).holder r.holder) (v.run setup l).currentSet r.snapshot)
      (hstage : (v.run setup l).stage = .rewiringDependents) (hforce : Committed setup v r l)
  | documents (hwire : c.wire = none) (hstage : (v.run setup l).stage = .generatingArtifacts)
      (hagreed : List.Forall₂ (CallRecord.Agreed setup r) Wire.all (v.callsBy setup job l))
  | restores (hback : TurnedBack setup v job r l)

/-- a change in its order along some events, from the moment at which it has the lock -/
structure Orderly (setup : Setup σ ι) (v : World σ ι) (job : Nat) (r : Run) (l : List Event) : Prop where
  /-- as long as it has the lock, what was seen is on its course, or goes on to its end -/
  underway : ∀ p, (v.run setup l).phase? job = some p → p.isLocked = true →
    v.shown setup l <+: course setup r.snapshot.config
  ended : ∀ result, (v.run setup l.dropLast).result? job = none → (v.run setup l).result? job = some result →
    EndsWith setup r (v.shown setup l) (v.callsBy setup job l) result
  calls : ∀ before e after c, l = before ++ e :: after → (v.run setup before).callOf? setup e = some c → c.job = job →
    InTurn setup v job r before c

section Order

variable {setup : Setup σ ι} {w v u : World σ ι} {job : Nat} {r : Run} {l : List Event} {p : Phase} {t : Trigger}

/-- what is seen of a change that has the lock is on its course -/
theorem prefix_of_shown {seen : List Stage} (h : Shown setup r seen p) : seen <+: course setup r.snapshot.config := by
  have hopening : [.validating, .rebuildingMetadata] <+: opening r.snapshot.config := List.prefix_append _ _
  have hcourse : opening r.snapshot.config <+: course setup r.snapshot.config := List.prefix_append _ _
  have hrewiring : opening r.snapshot.config ++ [.rewiringDependents] <+: course setup r.snapshot.config :=
    (List.prefix_append_right_inj _).2 (List.prefix_append _ _)
  have hvalidating : [Stage.validating] <+: [.validating, .rebuildingMetadata] := List.prefix_append _ _
  cases p with
  | validating => exact h ▸ hvalidating.trans (hopening.trans hcourse)
  | constructing => exact h ▸ hopening.trans hcourse
  | preparing => exact h ▸ hopening.trans hcourse
  | relating => exact h.2 ▸ hcourse
  | committing => exact h ▸ hcourse
  | calling => exact h.2 ▸ hrewiring
  | awaiting => exact h.2 ▸ hrewiring
  | rollingBack => exact h.2 ▸ hrewiring
  | generating => exact h.2 ▸ List.prefix_rfl
  | documenting => exact h.2 ▸ List.prefix_rfl
  | concluding => exact h ▸ List.prefix_rfl
  | failing =>
    obtain ⟨s, before, after, -, -, hall, hseen⟩ := h
    rw [hseen, hall]
    exact (List.prefix_append_right_inj _).2 (List.prefix_append [s] after)
  | _ => exact h.elim

/-- the last stage of a course is not one that a change ends with -/
theorem exists_course (setup : Setup σ ι) (c : RuntimeConfig) :
    ∃ a s, course setup c = a ++ [s] ∧ s ≠ .ready := by
  cases h : isDocumented setup c with
  | true =>
    exact ⟨opening c ++ [.rewiringDependents], _, by rw [course_of_documented h, List.append_assoc]; rfl, by decide⟩
  | false => exact ⟨opening c, _, course_of_undocumented h, by decide⟩

theorem failed_not_mem_course (setup : Setup σ ι) (c : RuntimeConfig) : .failed ∉ course setup c := by
  unfold course opening
  split_ifs <;> simp

/-- **The last step of a change** -/
theorem underway_end {result : JobResult} (h : Underway setup v job r l p)
    (hp : (v.run setup l).phase? job = some p) (hm : Move setup job (v.run setup l) p (.finished result) u)
    (hu : v.run setup (l ++ [.advance job]) = u.setPhase job (.finished result)) :
    EndsWith setup r (v.shown setup (l ++ [.advance job])) (v.callsBy setup job (l ++ [.advance job])) result := by
  have hstage : (v.run setup (l ++ [.advance job])).stage = u.stage := by
    rw [hu]
    rfl
  have hlocked := locked_of_run h.run
  generalize hq : Phase.finished result = q at hm
  cases hm with
  | succeed =>
    cases hq
    obtain ⟨a, s, hcourse, hne⟩ := exists_course setup r.snapshot.config
    obtain ⟨agreed, rest, hcalls, hagreed, hrest⟩ := h.called
    refine .made ?_ ?_ hagreed hrest
    · rw [shown_next (t := .ready) (h.shown.trans hcourse) hstage hne.symm, hcourse, List.append_assoc]
      rfl
    · rw [callsBy_append, callsBy_of_quiet hp rfl, List.append_nil]
      exact hcalls
  | fail =>
    cases hq
    obtain ⟨s, before, after, hs, hne, hcourse, hseen⟩ := h.shown
    refine .failed ⟨s, before, after, hs, hne, hcourse, shown_next (t := .failed) hseen hstage ?_⟩
    rintro rfl
    exact failed_not_mem_course setup r.snapshot.config (hcourse ▸ List.mem_append_right _ List.mem_cons_self)
  | _ => contradiction

/-- a call of a change is made in turn -/
theorem underway_call {e : Event} {c : CallRecord} (h : Underway setup v job r l p)
    (hp : (v.run setup l).phase? job = some p) (hc : (v.run setup l).callOf? setup e = some c) (hjob : c.job = job) :
    InTurn setup v job r l c := by
  obtain rfl := callOf?_job hc
  unfold callOf? at hc
  rw [hjob] at hc
  simp only [hp] at hc
  split at hc
  · rename_i rw wire todo heq
    obtain rfl := Option.some.inj heq
    cases hc
    obtain ⟨hon, hseen⟩ := h.shown
    have hcalled := h.called
    simp only [Called, Pointing] at hcalled
    split at hcalled
    · rename_i commit hpurpose
      simp only [Rewiring.On, hpurpose] at hon
      obtain ⟨hforce, done, hall, hagreed⟩ := hcalled
      refine .serves hall hagreed rfl ?_ (stage_of_shown hseen) hforce
      rw [← hon.1, ← hon.2]
      rfl
    · exact .restores hcalled
  · rename_i r' commit heq
    obtain rfl := Option.some.inj heq
    cases hc
    obtain ⟨hdocumented, hseen⟩ := h.shown
    rw [course_of_documented hdocumented, ← List.singleton_append, ← List.append_assoc] at hseen
    exact .documents rfl (stage_of_shown hseen) h.called
  · cases hc

theorem lock_taken (hp : w.phase? job = some (.locking t))
    (hr : (w.step setup (.advance job)).phase? job = some (.validating r)) :
    w.Begins r t ∧ (w.step setup (.advance job)).stage = .validating ∧
      (w.step setup (.advance job)).holders.length = w.holders.length := by
  rcases step_eq_or setup w (.advance job) with hsame | hs
  · rw [hsame, hp] at hr
    cases hr
  · generalize w.step setup (.advance job) = u at hs hr ⊢
    cases hs with
    | advance hp' hm =>
      rename_i p q u
      obtain rfl := Option.some.inj (hp.symm.trans hp')
      obtain rfl := Option.some.inj ((phase?_moved (move_jobs hm) hp q).symm.trans hr)
      cases hm with
      | apply => exact ⟨⟨rfl, rfl⟩, rfl, rfl⟩
      | edit hrun hmake => exact ⟨⟨rfl, hmake⟩, rfl, rfl⟩

/-- **A change is orderly**, whatever happens -/
theorem orderly (hv : v.Sound) (hi : r.holder < v.holders.length) (hp : v.phase? job = some (.validating r))
    (hstage : v.stage = .validating) (l : List Event) : Orderly setup v job r l := by
  refine ⟨fun p hl hlocked => ?_, fun result hopen hend => ?_, fun before e after c hl hc hjob => ?_⟩
  · obtain ⟨q, hq, hcase⟩ := underway_run setup hv hi hp hstage l
    obtain rfl := Option.some.inj (hl.symm.trans hq)
    rcases hcase with hended | hunderway
    · cases p <;> contradiction
    · exact prefix_of_shown hunderway.shown
  · rcases List.eq_nil_or_concat l with rfl | ⟨l, e, rfl⟩
    · cases hopen.symm.trans hend
    · rw [List.concat_eq_append] at hopen hend ⊢
      rw [List.dropLast_concat] at hopen
      obtain ⟨p, hl, hcase⟩ := underway_run setup hv hi hp hstage l
      rcases step_eq_or setup (v.run setup l) e with hsame | hs
      · rw [run_snoc, hsame, hopen] at hend
        cases hend
      · rw [run_snoc] at hend
        rcases hcase with hended | hunderway
        · have hstill := ended_step hs hl hended
          have hfinished := result?_eq_some.1 hend
          rw [hstill, ← hl, ← result?_eq_some, hopen] at hfinished
          cases hfinished
        · obtain rfl := result?_of_other hs hl hopen hend
          have hu := run_snoc setup v l (.advance job)
          generalize (v.run setup l).step setup (.advance job) = u at hs hend hu
          cases hs with
          | advance hl' hm =>
            rename_i p' q u
            obtain rfl := Option.some.inj (hl.symm.trans hl')
            obtain rfl : q = .finished result :=
              Option.some.inj ((phase?_moved (move_jobs hm) hl q).symm.trans (result?_eq_some.1 hend))
            exact underway_end hunderway hl hm hu
  · obtain ⟨p, hb, hcase⟩ := underway_run setup hv hi hp hstage before
    rcases hcase with hended | hunderway
    · obtain rfl := callOf?_job hc
      unfold callOf? at hc
      rw [hjob] at hc
      simp only [hb] at hc
      cases p <;> contradiction
    · exact underway_call hunderway hb hc hjob

/-- **Changes take turns, each in its order.** Whatever was done before, at most one job is in a phase of a change that
needs the lock, and it has it; every other change that asks for the lock then is refused, and nothing else happens. A
change that gets the lock, and past its edit, goes on in its order whatever happens from then on. -/
theorem changes_take_turns (setup : Setup σ ι) {w₀ : World σ ι} (hidle : w₀.Idle) (past : List Event) :
    let w := w₀.run setup past
    (∀ j k p q, w.phase? j = some p → w.phase? k = some q → p.isLocked = true → q.isLocked = true → j = k) ∧
    (∀ j, w.running = some j ↔ ∃ p, w.phase? j = some p ∧ p.isLocked = true) ∧
    (∀ k t, w.running.isSome → w.phase? k = some (.locking t) →
      w.step setup (.advance k) = w.setPhase k (.finished (.changed (.error .inProgress)))) ∧
    ∀ job t r, w.phase? job = some (.locking t) → t.holder < w.holders.length →
      (w.step setup (.advance job)).phase? job = some (.validating r) →
      w.Begins r t ∧ ∀ l, Orderly setup (w.step setup (.advance job)) job r l := by
  intro w
  have hw : w.Sound := sound_run (sound_of_idle hidle) past
  refine ⟨fun j k p q hj hk hp hq => ?_,
    fun j => ⟨hw.locked j, fun ⟨p, hp, hlocked⟩ => hw.alone j p hp hlocked⟩, ?_, ?_⟩
  · exact Option.some.inj ((hw.alone j p hj hp).symm.trans (hw.alone k q hk hq))
  · intro k t hrun hk
    obtain ⟨j, hj⟩ := Option.isSome_iff_exists.1 hrun
    simp [step, step?, advance?, hk, next?, lock, hj]
  · intro job t r hp hi hr
    obtain ⟨hbegins, hstage, hlength⟩ := lock_taken hp hr
    refine ⟨hbegins, fun l => orderly ?_ ?_ hr hstage l⟩
    · have hsound : (w.run setup [.advance job]).Sound := sound_run hw [.advance job]
      exact hsound
    · rw [hlength]
      cases t with
      | apply i s =>
        rw [hbegins.1]
        exact hi
      | edit i make =>
        rw [hbegins.1]
        exact hi

end Order

/-! ## Two changes at a time -/

def draftConfig : RuntimeConfig := { plainConfig with runtime := { host := { mode := .development } } }

/-- a gateway whose services are past the call that they refuse -/
def agreeableGateway : World Nat Unit := { servingGateway with services := 4 }

/-- two changes of a holder that are asked for at a time -/
def twoChanges : List Event :=
  [.submit (.change (.apply 1 ⟨1, draftConfig⟩)), .submit (.change (.apply 1 ⟨1, draftConfig⟩))]

/-- what happens when the first one has the lock: the second one asks for it, and the first one goes on to its end -/
def firstThrough : List Event :=
  [.advance 1, .advance 0, .advance 0, .settle 0 "default"] ++ List.replicate 13 (.advance 0)

set_option maxRecDepth 4000 in
theorem two_changes_take_turns :
    (agreeableGateway.run refusingSetup (twoChanges ++ [.advance 0])).step refusingSetup (.advance 1) =
      (agreeableGateway.run refusingSetup (twoChanges ++ [.advance 0])).setPhase 1
        (.finished (.changed (.error .inProgress))) ∧
    ((agreeableGateway.run refusingSetup twoChanges).step refusingSetup (.advance 0)).shown refusingSetup firstThrough =
      [.validating, .rebuildingMetadata, .revalidatingRelationships, .rewiringDependents, .ready] := by
  have hidle : agreeableGateway.Idle := ⟨rfl, rfl, rfl, by decide⟩
  obtain ⟨-, -, hbusy, -⟩ := changes_take_turns refusingSetup hidle (twoChanges ++ [.advance 0])
  obtain ⟨-, -, -, horder⟩ := changes_take_turns refusingSetup hidle twoChanges
  obtain ⟨-, horderly⟩ := horder 0 (.apply 1 ⟨1, draftConfig⟩) _ rfl (by decide) rfl
  have hopen : (((agreeableGateway.run refusingSetup twoChanges).step refusingSetup (.advance 0)).run refusingSetup
    firstThrough.dropLast).result? 0 = none := rfl
  have hend : (((agreeableGateway.run refusingSetup twoChanges).step refusingSetup (.advance 0)).run refusingSetup
    firstThrough).result? 0 = some (.changed (.ok _)) := rfl
  have hends := (horderly firstThrough).ended _ hopen hend
  refine ⟨hbusy 1 _ rfl rfl, ?_⟩
  cases hends with
  | made hseen => exact hseen

end World

end EntityGateway
