/-
Failures while the services are pointed at a new configuration.

By then the snapshot and the metadata are in force. The change puts back what was in force before it: what the holder
held, or that it held nothing, the set in use and the holder that this set is bound to. If the gateway was ready, the
services are pointed at that holder again, as far as they let themselves, and the first failure is the one that is told.

- `Pass`: calls made in order up to the first that fails;
- `held_putBack`, `version_putBack`: a holder that is given a snapshot and then what it held before;
- `tracked_run`: where a change is on its way, and what it has called so far;
- `failed_rewiring_is_undone`: the whole of it, for a change that failed so.
-/
import EntityGateway.Proofs.Orchestration.Course

namespace EntityGateway

/-! ## Passes -/

/-- a call about one thing to do, with a holder and a snapshot, while a set is in use -/
structure CallRecord.For (c : CallRecord) (holder : Nat) (s : Snapshot) (place : Nat) (wire : Wire) : Prop where
  asked : ∃ h seen, c.asked = wire.call h seen s
  wire : c.wire = some wire
  holder : c.holder = holder
  snapshot : c.snapshot = s
  set : c.set = place

/-- calls in order about things to do, up to the first that fails; and that failure, if there is one -/
inductive Pass (setup : Setup σ ι) (holder : Nat) (s : Snapshot) (place : Nat) :
    List Wire → List CallRecord → Option ChangeError → Prop
  | done : Pass setup holder s place [] [] none
  | failed (hc : c.For holder s place wire)
      (hbad : World.callFailure setup wire (c.reply.outcome setup.stageTimeout) = some e) :
      Pass setup holder s place (wire :: todo) [c] (some e)
  | next (hc : c.For holder s place wire)
      (hok : World.callFailure setup wire (c.reply.outcome setup.stageTimeout) = none)
      (hrest : Pass setup holder s place todo calls fault) :
      Pass setup holder s place (wire :: todo) (c :: calls) fault

/-- calls that have succeeded so far, of a pass through everything, with some things still to do -/
def Going (setup : Setup σ ι) (holder : Nat) (s : Snapshot) (place : Nat) (todo : List Wire)
    (calls : List CallRecord) : Prop :=
  ∀ rest fault, Pass setup holder s place todo rest fault → Pass setup holder s place Wire.all (calls ++ rest) fault

section Pass

variable {setup : Setup σ ι} {holder place : Nat} {s : Snapshot} {wire : Wire} {todo : List Wire}
  {calls : List CallRecord} {c : CallRecord} {e : ChangeError}

theorem going_start : Going setup holder s place Wire.all [] := fun _ _ h => h

theorem going_next (h : Going setup holder s place (wire :: todo) calls) (hc : c.For holder s place wire)
    (hok : World.callFailure setup wire (c.reply.outcome setup.stageTimeout) = none) :
    Going setup holder s place todo (calls ++ [c]) := by
  intro rest fault hrest
  rw [List.append_assoc]
  exact h _ _ (.next hc hok hrest)

theorem pass_of_done (h : Going setup holder s place [] calls) : Pass setup holder s place Wire.all calls none := by
  have hpass := h [] none .done
  rwa [List.append_nil] at hpass

theorem pass_of_failed (h : Going setup holder s place (wire :: todo) calls) (hc : c.For holder s place wire)
    (hbad : World.callFailure setup wire (c.reply.outcome setup.stageTimeout) = some e) :
    Pass setup holder s place Wire.all (calls ++ [c]) (some e) :=
  h _ _ (.failed hc hbad)

end Pass

/-! ## Holders -/

/-- holders that hold the same in the same version; they may differ in their mark -/
structure ConfigHolder.Same (h k : ConfigHolder) : Prop where
  held : h.held = k.held
  version : h.version = k.version

namespace World

theorem hold_same {h k : ConfigHolder} (hs : h.Same k) (s : Snapshot) : (hold h s).Same (hold k s) := by
  have hholds : h.holds s = k.holds s := by
    unfold ConfigHolder.holds
    rw [hs.held]
  unfold hold
  rw [hholds]
  split_ifs
  · exact hs
  · exact ⟨rfl, congrArg (· + 1) hs.version⟩

theorem putBack_same {h k : ConfigHolder} (hs : h.Same k) (before : Option Snapshot) :
    (putBack before h).Same (putBack before k) := by
  have hchanged : hasChanged before h = hasChanged before k := by
    unfold hasChanged
    rw [hs.held]
  unfold putBack
  rw [hchanged]
  split_ifs
  · exact ⟨rfl, congrArg (· + 1) hs.version⟩
  · exact hs

/-- a holder that holds something else than before, or something instead of nothing, is changed -/
theorem hasChanged_hold (h : ConfigHolder) (s : Snapshot) : hasChanged h.held (hold h s) = !h.holds s := by
  unfold hasChanged hold ConfigHolder.holds
  cases hheld : h.held with
  | none => simp [ConfigHolder.replace]
  | some t =>
    by_cases ht : t.id = s.id
    · simp [hheld, ht]
    · simp [ht, ConfigHolder.replace, bne]

theorem held_putBack (h : ConfigHolder) (s : Snapshot) : (putBack h.held (hold h s)).held = h.held := by
  unfold putBack
  rw [hasChanged_hold]
  cases hholds : h.holds s <;> simp [hold, hholds, ConfigHolder.replace]

theorem version_putBack (h : ConfigHolder) (s : Snapshot) :
    (putBack h.held (hold h s)).version = if h.holds s then h.version else h.version + 2 := by
  unfold putBack
  rw [hasChanged_hold]
  cases hholds : h.holds s <;> simp [hold, hholds, ConfigHolder.replace]

/-! ## What is in force -/

/-- What is in force in a gateway `v` that came from `w`: a holder is as a given one, and a set is in use, bound to some
holder. What is known of earlier changes is as it was. -/
structure Standing (w v : World σ ι) (i : Nat) (h : ConfigHolder) (place bound : Nat) : Prop where
  holder : (v.holder i).Same h
  current : v.current = place
  bound : v.bound = bound
  ready : v.ready = w.ready
  lastReport : v.lastReport = w.lastReport
  sets : w.sets.length ≤ v.sets.length
  there : i < v.holders.length

section Standing

variable {setup : Setup σ ι} {job : Nat} {w v u : World σ ι} {e : Event}

theorem Standing.of_other {i : Nat} {h : ConfigHolder} {place bound : Nat} (hst : Standing w v i h place bound)
    (hv : v.Sound) (hrun : v.running = some job) (hs : Step setup v e u) (hother : e.mover? ≠ some job)
    (hsame : (u.holder i).Same (v.holder i)) : Standing w u i h place bound := by
  obtain ⟨hholders, hsets⟩ := step_places hs
  have hgov := step_governed hv hrun hs hother
  refine ⟨⟨hsame.held.trans hst.holder.held, hsame.version.trans hst.holder.version⟩, hgov.current.trans hst.current,
    hgov.bound.trans hst.bound, hgov.ready.trans hst.ready, hgov.lastReport.trans hst.lastReport,
    hst.sets.trans hsets, ?_⟩
  rw [hholders]
  exact hst.there

end Standing

/-! ## A change on its way -/

section Track

variable (setup : Setup σ ι) (w : World σ ι) (job i : Nat) (s : Snapshot)

/-- what the change found when it took the lock -/
def runOf : Run := ⟨i, s, w.checkpoint i⟩

/-- the gateway after some events in which the change has put nothing in force -/
def Before (l : List Event) : Prop :=
  Standing w (w.run setup l) i (w.holder i) w.current w.bound ∧ w.callsBy setup job l = []

/-- the gateway after some events in which the change has put its snapshot and a new set in force -/
def InForce (l : List Event) (place : Nat) : Prop :=
  w.sets.length ≤ place ∧ Standing w (w.run setup l) i (hold (w.holder i) s) place i

/-- the gateway after some events in which the change has put back what was in force -/
def PutBack (l : List Event) : Prop :=
  Standing w (w.run setup l) i (putBack (w.holder i).held (hold (w.holder i) s)) w.current w.bound

/-- Some events up to the moment at which the change has just put back what was in force: until then it called the
services with its own snapshot, and met with a failure. -/
def RolledBack (fault : ChangeError) (rolled : List Event) : Prop :=
  (∃ before r, rolled = before ++ [.advance job] ∧ (w.run setup before).phase? job = some (.rollingBack r fault)) ∧
  ∃ place, w.sets.length ≤ place ∧ Pass setup i s place Wire.all (w.callsBy setup job rolled) (some fault)

/-- what is called after the rollback: everything, with the holder that was served before and what it holds, up to the
first failure; nothing if the gateway was not ready or that holder holds nothing -/
def Repoints (rolled rest : List Event) : Prop :=
  match w.ready, ((w.run setup rolled).holder w.bound).held with
  | true, some t => ∃ fault, Pass setup w.bound t w.current Wire.all ((w.run setup rolled).callsBy setup job rest) fault
  | _, _ => (w.run setup rolled).callsBy setup job rest = []

/-- the calls of a rewiring so far, with what is in force then -/
def Along (l : List Event) (rw : Rewiring) (Q : Nat → List CallRecord → Prop) : Prop :=
  rw.run = w.runOf i s ∧
  match rw.purpose with
  | .serve _ => rw.holder = i ∧ rw.snapshot = s ∧ ∃ place, InForce setup w i s l place ∧ Q place (w.callsBy setup job l)
  | .restore fault =>
    rw.holder = w.bound ∧ w.ready = true ∧ PutBack setup w i s l ∧ ∃ rolled rest, l = rolled ++ rest ∧
      RolledBack setup w job i s fault rolled ∧ ((w.run setup rolled).holder w.bound).held = some rw.snapshot ∧
      Q w.current ((w.run setup rolled).callsBy setup job rest)

/-- where the change is after some events -/
def Tracked (l : List Event) : Phase → Prop
  | .validating r | .constructing r => r = w.runOf i s ∧ Before setup w job i l
  | .preparing r g _ => r = w.runOf i s ∧ Before setup w job i l ∧ w.sets.length ≤ g.set
  | .relating r place _ | .committing r place _ => r = w.runOf i s ∧ Before setup w job i l ∧ w.sets.length ≤ place
  | .calling rw todo => Along setup w job i s l rw (Going setup rw.holder rw.snapshot · todo)
  | .awaiting rw wire todo p => Along setup w job i s l rw fun place calls => ∃ made c start, calls = made ++ [c] ∧
      Going setup rw.holder rw.snapshot place (wire :: todo) made ∧ c.For rw.holder rw.snapshot place wire ∧
      p.Of setup start c.reply
  | .rollingBack r fault => r = w.runOf i s ∧ ∃ place, InForce setup w i s l place ∧
      Pass setup i s place Wire.all (w.callsBy setup job l) (some fault)
  | .failing _ fault => fault.stage? = some .rewiringDependents →
      PutBack setup w i s l ∧ ∃ rolled rest, l = rolled ++ rest ∧ RolledBack setup w job i s fault rolled ∧
        Repoints setup w job rolled rest
  | .generating .. | .documenting .. | .concluding .. | .finished _ | .dropped => True
  | _ => False

end Track

section Step

variable {setup : Setup σ ι} {w u : World σ ι} {job i : Nat} {s : Snapshot} {l : List Event} {p q : Phase} {e : Event}

theorem Standing.of_eq {v : World σ ι} {h : ConfigHolder} {place bound : Nat} (hst : Standing w v i h place bound)
    (hholders : u.holders = v.holders) (hcurrent : u.current = v.current) (hbound : u.bound = v.bound)
    (hready : u.ready = v.ready) (hreport : u.lastReport = v.lastReport) (hsets : v.sets.length ≤ u.sets.length) :
    Standing w u i h place bound := by
  refine ⟨?_, hcurrent.trans hst.current, hbound.trans hst.bound, hready.trans hst.ready, hreport.trans hst.lastReport,
    hst.sets.trans hsets, ?_⟩
  · unfold World.holder
    rw [hholders]
    exact hst.holder
  · rw [hholders]
    exact hst.there

theorem before_snoc (h : Before setup w job i l)
    (hst : Standing w (w.run setup (l ++ [e])) i (w.holder i) w.current w.bound)
    (hquiet : (w.run setup l).callsBy setup job [e] = []) : Before setup w job i (l ++ [e]) := by
  refine ⟨hst, ?_⟩
  rw [callsBy_append, h.2, hquiet, List.append_nil]

theorem along_snoc {rw : Rewiring} {Q Q' : Nat → List CallRecord → Prop} (h : Along setup w job i s l rw Q)
    (hst : ∀ k place bound, Standing w (w.run setup l) i k place bound →
      Standing w (w.run setup (l ++ [e])) i k place bound)
    (hQ : ∀ calls, Q (w.run setup l).current calls →
      Q' (w.run setup l).current (calls ++ (w.run setup l).callsBy setup job [e])) :
    Along setup w job i s (l ++ [e]) rw Q' := by
  obtain ⟨hrun, hrest⟩ := h
  refine ⟨hrun, ?_⟩
  split at hrest
  · obtain ⟨hholder, hsnapshot, place, ⟨hplace, hforce⟩, hq⟩ := hrest
    refine ⟨hholder, hsnapshot, place, ⟨hplace, hst _ _ _ hforce⟩, ?_⟩
    rw [callsBy_append]
    obtain rfl := hforce.current
    exact hQ _ hq
  · obtain ⟨hholder, hready, hback, rolled, rest, rfl, hrolled, hheld, hq⟩ := hrest
    refine ⟨hholder, hready, hst _ _ _ hback, rolled, rest ++ [e], by rw [List.append_assoc], hrolled, hheld, ?_⟩
    rw [callsBy_append, ← run_append]
    rw [← hback.current] at hq ⊢
    exact hQ _ hq

theorem call_made {rw : Rewiring} {wire : Wire} {todo : List Wire} {answer : Pending} {v : World σ ι}
    (hp : v.phase? job = some (.calling rw (wire :: todo)))
    (hcall : v.makeCall setup (wire.call (v.holder rw.holder) v.currentSet rw.snapshot) = (answer, u)) :
    ∃ c, v.callsBy setup job [.advance job] = [c] ∧ c.For rw.holder rw.snapshot v.current wire ∧
      answer.Of setup v.now c.reply := by
  have hanswer := makeCall_of hcall
  refine ⟨v.recordOf setup job (some wire) rw.holder rw.snapshot
    (wire.call (v.holder rw.holder) v.currentSet rw.snapshot), ?_, ⟨⟨_, _, rfl⟩, rfl, rfl, rfl, rfl⟩, hanswer⟩
  rw [callsBy_singleton]
  unfold callOf?
  simp only [hp]
  simp [Option.filter, recordOf]

theorem standing_commit {v : World σ ι} {place : Nat} (hst : Standing w v i (w.holder i) w.current w.bound)
    (hu : u = ((v.enter .rewiringDependents).setHolder i (hold (v.holder i) s)).publish i place) :
    Standing w u i (hold (w.holder i) s) place i := by
  subst hu
  refine ⟨?_, rfl, rfl, hst.ready, hst.lastReport, hst.sets, ?_⟩
  · show ((v.setHolder i (hold (v.holder i) s)).holder i).Same _
    rw [holder_setHolder_self hst.there]
    exact hold_same hst.holder s
  · simpa [publish, setHolder, enter] using hst.there

theorem standing_rollBack {v : World σ ι} {place : Nat} (hst : Standing w v i (hold (w.holder i) s) place i)
    (hu : u = (v.setHolder i (putBack (w.holder i).held (v.holder i))).publish w.bound w.current) :
    Standing w u i (putBack (w.holder i).held (hold (w.holder i) s)) w.current w.bound := by
  subst hu
  refine ⟨?_, rfl, rfl, hst.ready, hst.lastReport, hst.sets, ?_⟩
  · show ((v.setHolder i (putBack (w.holder i).held (v.holder i))).holder i).Same _
    rw [holder_setHolder_self hst.there]
    exact putBack_same hst.holder _
  · simpa [publish, setHolder] using hst.there

theorem putBack_snoc {v : World σ ι} {place : Nat}
    (hst : Standing w (w.run setup l) i (hold (w.holder i) s) place i)
    (hv : v = ((w.run setup l).setHolder i (putBack (w.holder i).held ((w.run setup l).holder i))).publish w.bound
      w.current)
    (hu : w.run setup (l ++ [e]) = v.setPhase job q) : PutBack setup w i s (l ++ [e]) := by
  unfold PutBack
  rw [hu]
  exact (standing_rollBack hst hv).of_eq rfl rfl rfl rfl rfl le_rfl

theorem rolledBack_snoc {r : Run} {fault : ChangeError} {place : Nat}
    (hp : (w.run setup l).phase? job = some (.rollingBack r fault)) (hplace : w.sets.length ≤ place)
    (hpass : Pass setup i s place Wire.all (w.callsBy setup job l) (some fault)) :
    RolledBack setup w job i s fault (l ++ [.advance job]) := by
  refine ⟨⟨l, r, rfl, hp⟩, place, hplace, ?_⟩
  rw [callsBy_append, callsBy_of_quiet hp rfl, List.append_nil]
  exact hpass

theorem repoints_snoc {rolled rest : List Event} {t : Snapshot} {fault : Option ChangeError} (hready : w.ready = true)
    (hheld : ((w.run setup rolled).holder w.bound).held = some t)
    (hpass : Pass setup w.bound t w.current Wire.all ((w.run setup rolled).callsBy setup job rest) fault)
    (hquiet : (w.run setup (rolled ++ rest)).callsBy setup job [e] = []) :
    Repoints setup w job rolled (rest ++ [e]) := by
  simp only [Repoints, hready, hheld]
  rw [callsBy_append, ← run_append, hquiet, List.append_nil]
  exact ⟨fault, hpass⟩

/-- **A move keeps track** -/
theorem tracked_move (hv : (w.run setup l).Sound) (hp : (w.run setup l).phase? job = some p)
    (hm : Move setup job (w.run setup l) p q u) (hu : w.run setup (l ++ [.advance job]) = u.setPhase job q)
    (ht : Tracked setup w job i s l p) : Tracked setup w job i s (l ++ [.advance job]) q := by
  -- a move that leaves in force what is in force
  have hstays : u.holders = (w.run setup l).holders → u.current = (w.run setup l).current →
      u.bound = (w.run setup l).bound → u.ready = (w.run setup l).ready → u.lastReport = (w.run setup l).lastReport →
      ∀ h k place bound, Standing w (w.run setup l) h k place bound →
        Standing w (w.run setup (l ++ [.advance job])) h k place bound := by
    intro h₁ h₂ h₃ h₄ h₅ h k place bound hst
    have hlength := move_length hm
    rw [hu]
    exact hst.of_eq h₁ h₂ h₃ h₄ h₅ hlength
  have hbefore : u.holders = (w.run setup l).holders → u.current = (w.run setup l).current →
      u.bound = (w.run setup l).bound → u.ready = (w.run setup l).ready → u.lastReport = (w.run setup l).lastReport →
      p.isCalling = false → Before setup w job i l → Before setup w job i (l ++ [.advance job]) :=
    fun h₁ h₂ h₃ h₄ h₅ hquiet h => before_snoc h (hstays h₁ h₂ h₃ h₄ h₅ _ _ _ _ h.1) (callsBy_of_quiet hp hquiet _)
  cases hm with
  | invalid =>
    intro hstage
    cases hstage
  | valid => exact ⟨ht.1, hbefore rfl rfl rfl rfl rfl rfl ht.2⟩
  | unsupported =>
    intro hstage
    cases hstage
  | construct => exact ⟨ht.1, hbefore rfl rfl rfl rfl rfl rfl ht.2, ht.2.1.sets⟩
  | gathered => exact ⟨ht.1, hbefore rfl rfl rfl rfl rfl rfl ht.2.1, ht.2.2⟩
  | gatheredInProduction => exact ⟨ht.1, hbefore rfl rfl rfl rfl rfl rfl ht.2.1, ht.2.2⟩
  | unprepared =>
    intro hstage
    cases hstage
  | unrelated =>
    intro hstage
    cases hstage
  | related => exact ⟨ht.1, hbefore rfl rfl rfl rfl rfl rfl ht.2.1, ht.2.2⟩
  | commit =>
    obtain ⟨rfl, ⟨hst, hcalls⟩, hplace⟩ := ht
    refine ⟨rfl, rfl, rfl, _, ⟨hplace, ?_⟩, ?_⟩
    · rw [hu]
      exact (standing_commit hst rfl).of_eq rfl rfl rfl rfl rfl le_rfl
    · rw [callsBy_append, hcalls, callsBy_of_quiet hp rfl]
      exact going_start
  | call hcall =>
    obtain ⟨c, hc, hfor, hanswer⟩ := call_made hp hcall
    cases hcall
    simp only [Tracked] at ht ⊢
    refine along_snoc ht (hstays rfl rfl rfl rfl rfl _) fun calls hgoing => ?_
    rw [hc]
    exact ⟨calls, c, _, rfl, hgoing, hfor, hanswer⟩
  | answered hreply hok =>
    have htimely := hv.timely _ _ hp
    simp only [Tracked] at ht ⊢
    refine along_snoc ht (hstays rfl rfl rfl rfl rfl _) fun calls hcalls => ?_
    obtain ⟨made, c, start, rfl, hgoing, hfor, hanswer⟩ := hcalls
    rw [callsBy_of_quiet hp rfl, List.append_nil]
    rw [replied_outcome hanswer htimely hreply] at hok
    exact going_next hgoing hfor hok
  | refused hreply hbad hpurpose =>
    have htimely := hv.timely _ _ hp
    simp only [Tracked, Along, hpurpose] at ht
    obtain ⟨hrun, hholder, hsnapshot, place, ⟨hplace, hst⟩, made, c, start, hcalls, hgoing, hfor, hanswer⟩ := ht
    refine ⟨hrun, place, ⟨hplace, hstays rfl rfl rfl rfl rfl _ _ _ _ hst⟩, ?_⟩
    rw [callsBy_append, callsBy_of_quiet hp rfl, List.append_nil, hcalls]
    rw [replied_outcome hanswer htimely hreply] at hbad
    rw [hholder, hsnapshot] at hgoing hfor
    exact pass_of_failed hgoing hfor hbad
  | lost hreply hbad hpurpose =>
    have htimely := hv.timely _ _ hp
    simp only [Tracked, Along, hpurpose] at ht
    obtain ⟨hrun, hholder, hready, hback, rolled, rest, rfl, hrolled, hheld, made, c, start, hcalls, hgoing, hfor,
      hanswer⟩ := ht
    intro _
    rw [replied_outcome hanswer htimely hreply] at hbad
    rw [hholder] at hgoing hfor
    have hpass := pass_of_failed hgoing hfor hbad
    rw [← hcalls] at hpass
    exact ⟨hstays rfl rfl rfl rfl rfl _ _ _ _ hback, rolled, rest ++ [.advance job], List.append_assoc .., hrolled,
      repoints_snoc hready hheld hpass (callsBy_of_quiet hp rfl _)⟩
  | restored hpurpose =>
    simp only [Tracked, Along, hpurpose] at ht
    obtain ⟨hrun, hholder, hready, hback, rolled, rest, rfl, hrolled, hheld, hgoing⟩ := ht
    intro _
    rw [hholder] at hgoing
    exact ⟨hstays rfl rfl rfl rfl rfl _ _ _ _ hback, rolled, rest ++ [.advance job], List.append_assoc .., hrolled,
      repoints_snoc hready hheld (pass_of_done hgoing) (callsBy_of_quiet hp rfl _)⟩
  | document => trivial
  | skip => trivial
  | generate => trivial
  | documented => trivial
  | succeed => trivial
  | restore hready hu' hheld =>
    obtain ⟨rfl, place, ⟨hplace, hst⟩, hpass⟩ := ht
    refine ⟨rfl, rfl, hready, putBack_snoc hst hu' hu, l ++ [.advance job], [], (List.append_nil _).symm,
      rolledBack_snoc hp hplace hpass, ?_, going_start⟩
    rw [hu]
    exact hheld
  | giveUp hu' hidle =>
    obtain ⟨rfl, place, ⟨hplace, hst⟩, hpass⟩ := ht
    intro _
    refine ⟨putBack_snoc hst hu' hu, l ++ [.advance job], [], (List.append_nil _).symm,
      rolledBack_snoc hp hplace hpass, ?_⟩
    unfold Repoints
    rw [hu]
    split
    · rename_i hready hheld
      rcases hidle with hunready | hnone
      · cases hunready.symm.trans hready
      · cases hnone.symm.trans hheld
    · rfl
  | fail => trivial
  | _ => exact ht.elim

/-- an event that leaves in force what is in force, and is no call, keeps track of a job that stays where it is -/
theorem tracked_still
    (hst : p.isLocked = true → ∀ k place bound, Standing w (w.run setup l) i k place bound →
      Standing w (w.run setup (l ++ [e])) i k place bound)
    (hquiet : (w.run setup l).callsBy setup job [e] = []) (ht : Tracked setup w job i s l p) :
    Tracked setup w job i s (l ++ [e]) p := by
  have hcalls : ∀ rolled rest, l = rolled ++ rest →
      (w.run setup rolled).callsBy setup job (rest ++ [e]) = (w.run setup rolled).callsBy setup job rest := by
    rintro rolled rest rfl
    rw [callsBy_append, ← run_append, hquiet, List.append_nil]
  cases p with
  | validating r => exact ⟨ht.1, before_snoc ht.2 (hst rfl _ _ _ ht.2.1) hquiet⟩
  | constructing r => exact ⟨ht.1, before_snoc ht.2 (hst rfl _ _ _ ht.2.1) hquiet⟩
  | preparing r g deadline => exact ⟨ht.1, before_snoc ht.2.1 (hst rfl _ _ _ ht.2.1.1) hquiet, ht.2.2⟩
  | relating r place report => exact ⟨ht.1, before_snoc ht.2.1 (hst rfl _ _ _ ht.2.1.1) hquiet, ht.2.2⟩
  | committing r place report => exact ⟨ht.1, before_snoc ht.2.1 (hst rfl _ _ _ ht.2.1.1) hquiet, ht.2.2⟩
  | calling rw todo =>
    simp only [Tracked] at ht ⊢
    refine along_snoc ht (hst rfl) fun calls hgoing => ?_
    rw [hquiet, List.append_nil]
    exact hgoing
  | awaiting rw wire todo answer =>
    simp only [Tracked] at ht ⊢
    refine along_snoc ht (hst rfl) fun calls hmade => ?_
    rw [hquiet, List.append_nil]
    exact hmade
  | rollingBack r fault =>
    obtain ⟨hr, place, ⟨hplace, hforce⟩, hpass⟩ := ht
    refine ⟨hr, place, ⟨hplace, hst rfl _ _ _ hforce⟩, ?_⟩
    rw [callsBy_append, hquiet, List.append_nil]
    exact hpass
  | failing r fault =>
    intro hstage
    obtain ⟨hback, rolled, rest, hl, hrolled, hrepoints⟩ := ht hstage
    refine ⟨hst rfl _ _ _ hback, rolled, rest ++ [e], by rw [hl, List.append_assoc], hrolled, ?_⟩
    unfold Repoints
    rw [hcalls rolled rest hl]
    exact hrepoints
  | _ => exact ht

/-- nobody but a job changes what a holder holds, or its version, along some events -/
def Undisturbed (setup : Setup σ ι) (w : World σ ι) (job i : Nat) (l : List Event) : Prop :=
  ∀ before e after, l = before ++ e :: after → e ≠ .advance job →
    (((w.run setup before).step setup e).holder i).Same ((w.run setup before).holder i)

theorem undisturbed_of_alone (h : ∀ e ∈ l, e.mover? = some job) : Undisturbed setup w job i l := by
  rintro before e after rfl hne
  have hmover := h e (List.mem_append.2 (Or.inr List.mem_cons_self))
  rcases step_eq_or setup (w.run setup before) e with hstep | hstep
  · rw [hstep]
    exact ⟨rfl, rfl⟩
  · generalize (w.run setup before).step setup e = u at hstep
    cases hstep with
    | advance =>
      cases hmover
      exact absurd rfl hne
    | settle => exact ⟨rfl, rfl⟩
    | resettle => exact ⟨rfl, rfl⟩
    | drop => exact ⟨rfl, rfl⟩
    | _ => cases hmover

/-- **A step keeps track** -/
theorem tracked_step (hv : (w.run setup l).Sound) (hp : (w.run setup l).phase? job = some p)
    (hs : Step setup (w.run setup l) e u) (hu : w.run setup (l ++ [e]) = u)
    (hsame : e ≠ .advance job → (u.holder i).Same ((w.run setup l).holder i)) (ht : Tracked setup w job i s l p) :
    ∃ q, u.phase? job = some q ∧ Tracked setup w job i s (l ++ [e]) q := by
  obtain ⟨q, hq, hturn⟩ := turn_of_step hs hp
  refine ⟨q, hq, ?_⟩
  cases hturn with
  | moves hm => exact tracked_move hv hp hm hu ht
  | settles hg =>
    rename_i g source t hdue
    have hstill : Tracked setup w job i s (l ++ [.settle job source]) p := by
      refine tracked_still (fun _ k place bound hst => ?_) (callsBy_of_ne ?_) ht
      · rw [hu]
        exact hst.of_eq rfl rfl rfl rfl rfl (by simp [setPhase])
      · simp
    cases p <;> cases hg <;> exact hstill
  | drops => trivial
  | rests _ hother =>
    have hne : e ≠ .advance job := by
      rintro rfl
      exact hother rfl
    refine tracked_still (fun hlocked k place bound hst => ?_) (callsBy_of_ne hne) ht
    rw [hu]
    exact hst.of_other hv (hv.alone job p hp hlocked) hs hother (hsame hne)

/-- a change that asks for the lock and gets it -/
theorem tracked_start (hi : i < w.holders.length) (hp : w.phase? job = some (.locking (.apply i s)))
    (hopen : (w.run setup [.advance job]).result? job = none) :
    ∃ p, (w.run setup [.advance job]).phase? job = some p ∧ Tracked setup w job i s [.advance job] p := by
  have hstep? : w.step? setup (.advance job) =
      some ((w.lock job (.apply i s)).2.setPhase job (w.lock job (.apply i s)).1) := by
    simp [step?, advance?, hp, next?]
  have hrun : w.run setup [.advance job] = (w.lock job (.apply i s)).2.setPhase job (w.lock job (.apply i s)).1 := by
    show w.step setup (.advance job) = _
    unfold step
    rw [hstep?]
    rfl
  cases hlock : w.running with
  | some k =>
    have hphase : (w.run setup [.advance job]).phase? job = some (.finished (.changed (.error .inProgress))) := by
      rw [hrun]
      simp only [lock, hlock]
      exact phase?_setPhase_self hp _
    rw [result?_eq_some.2 hphase] at hopen
    cases hopen
  | none =>
    have hu : w.run setup [.advance job] =
        { w.enter .validating with running := some job }.setPhase job (.validating (w.runOf i s)) := by
      rw [hrun]
      simp only [lock, hlock]
      rfl
    refine ⟨.validating (w.runOf i s), ?_, rfl, ?_, callsBy_of_quiet hp rfl _⟩
    · rw [hu]
      exact phase?_moved (w := w) (u := { w.enter .validating with running := some job }) rfl hp _
    · rw [hu]
      exact ⟨⟨rfl, rfl⟩, rfl, rfl, rfl, rfl, le_rfl, hi⟩

/-- **A change is tracked all its way** -/
theorem tracked_run (hw : w.Sound) (hi : i < w.holders.length) (hp : w.phase? job = some (.locking (.apply i s)))
    (hopen : (w.run setup [.advance job]).result? job = none) (halone : Undisturbed setup w job i (.advance job :: l)) :
    ∃ p, (w.run setup (.advance job :: l)).phase? job = some p ∧ Tracked setup w job i s (.advance job :: l) p := by
  induction l using List.reverseRecOn with
  | nil => exact tracked_start hi hp hopen
  | append_singleton l e ih =>
    have hbefore : Undisturbed setup w job i (.advance job :: l) := by
      intro before e' after hl hne
      exact halone before e' (after ++ [e]) (by rw [← List.cons_append, hl, List.append_assoc]; rfl) hne
    obtain ⟨p, hp, ht⟩ := ih hbefore
    have hsame := halone (.advance job :: l) e [] rfl
    rw [← List.cons_append, run_snoc]
    rcases step_cases setup (w.run setup (.advance job :: l)) e with ⟨hnone, hstep⟩ | hstep
    · refine ⟨p, by rw [hstep]; exact hp, tracked_still (fun _ k place bound hst => ?_) (callsBy_of_none hnone) ht⟩
      rw [run_snoc, hstep]
      exact hst
    · exact tracked_step (sound_run hw _) hp hstep (run_snoc setup w _ e) hsame ht

/-- **A failure in rewiring is undone.** A change fails while the services are pointed at its snapshot, and nobody else
changes what its holder holds meanwhile. Then the holder holds what it held when the change took the lock, in the same
version if it held the snapshot already and two versions later if not; the set in use and its holder are those from
before, and so is what is known of earlier changes; only the stage says that the change failed. The failure is the first
that the services met with. They are pointed at the holder from before again, and what it holds, just if the gateway was
ready and that holder holds something, whether they take it or not. -/
theorem failed_rewiring_is_undone {w : World σ ι} (hw : w.Sound) (hi : i < w.holders.length)
    (hp : w.phase? job = some (.locking (.apply i s))) {fault : ChangeError}
    (hopen : (w.run setup (.advance job :: l)).result? job = none)
    (hend : (w.run setup (.advance job :: l ++ [.advance job])).result? job = some (.changed (.error fault)))
    (hstage : fault.stage? = some .rewiringDependents) (halone : Undisturbed setup w job i (.advance job :: l)) :
    let u := w.run setup (.advance job :: l ++ [.advance job])
    (u.holder i).held = (w.holder i).held ∧
    (u.holder i).version = (if (w.holder i).holds s then (w.holder i).version else (w.holder i).version + 2) ∧
    u.current = w.current ∧ u.bound = w.bound ∧ u.ready = w.ready ∧ u.lastReport = w.lastReport ∧ u.stage = .failed ∧
    ∃ rolled rest, .advance job :: l ++ [.advance job] = rolled ++ rest ∧ RolledBack setup w job i s fault rolled ∧
      Repoints setup w job rolled rest := by
  have hfirst : (w.run setup [.advance job]).result? job = none := by
    cases hresult : (w.run setup [.advance job]).result? job with
    | none => rfl
    | some result =>
      have hlast := result?_eq_some.2 (finished_run setup (result?_eq_some.1 hresult) l)
      rw [← run_append, List.singleton_append, hopen] at hlast
      cases hlast
  obtain ⟨p, hp', ht⟩ := tracked_run hw hi hp hfirst halone
  have hlast : w.run setup (.advance job :: l ++ [.advance job]) =
      (w.run setup (.advance job :: l)).step setup (.advance job) := run_snoc ..
  intro u
  rw [hlast] at hend
  rcases failed_step hp' hopen hend with ⟨⟨t, rfl, -⟩, -⟩ | ⟨⟨r, rfl⟩, hu⟩
  · exact ht.elim
  · obtain ⟨hback, rolled, rest, hl, hrolled, hrepoints⟩ := ht hstage
    have hu' : u = ((w.run setup (.advance job :: l)).enter .failed).unlock.setPhase job
        (.finished (.changed (.error fault))) := hlast.trans hu
    clear_value u
    subst hu'
    refine ⟨hback.holder.held.trans (held_putBack ..), hback.holder.version.trans (version_putBack ..), hback.current,
      hback.bound, hback.ready, hback.lastReport, rfl, rolled, rest ++ [.advance job], by rw [hl, List.append_assoc],
      hrolled, ?_⟩
    unfold Repoints
    rw [callsBy_append, ← run_append, ← hl, callsBy_of_quiet hp' rfl, List.append_nil]
    exact hrepoints

end Step

/-! ## A service that refuses -/

/-- a setup whose databases answer at once, and whose services refuse their fourth call; they count the calls -/
def refusingSetup : Setup Nat Unit where
  dependents :=
    { name := fun _ => "", documents := false,
      call := fun _ n => ({ result := if n = 3 then .error .notConfigured else .ok () }, n + 1) }
  introspectors := { serves := fun _ => true, ask := fun _ _ _ memory => (⟨some ⟨0⟩, .found []⟩, memory) }
  environment := fun _ => none
  stageTimeout := ⟨1⟩
  introspectionTimeout := ⟨1⟩

/-- a gateway that serves the configuration of its first holder, and has a second one -/
def servingGateway : World Nat Unit :=
  { holders := [.holding ⟨0, plainConfig⟩, {}], ready := true, fresh := 2, services := 0, memory := () }

/-- the change of the second holder, up to its last step -/
def refusedEvents : List Event :=
  [.advance 0, .advance 0, .settle 0 "default"] ++ List.replicate 20 (.advance 0)

set_option maxRecDepth 4000 in
theorem refused_change_is_undone :
    ((servingGateway.submit (.change (.apply 1 ⟨1, plainConfig⟩))).run refusingSetup
        (.advance 0 :: refusedEvents ++ [.advance 0])).bound = 0 ∧
    (((servingGateway.submit (.change (.apply 1 ⟨1, plainConfig⟩))).run refusingSetup
        (.advance 0 :: refusedEvents ++ [.advance 0])).holder 1).held = none ∧
    (((servingGateway.submit (.change (.apply 1 ⟨1, plainConfig⟩))).run refusingSetup
        (.advance 0 :: refusedEvents ++ [.advance 0])).holder 1).version = 2 := by
  have hidle : servingGateway.Idle := ⟨rfl, rfl, rfl, by decide⟩
  have hend : ((servingGateway.submit (.change (.apply 1 ⟨1, plainConfig⟩))).run refusingSetup
      (.advance 0 :: refusedEvents ++ [.advance 0])).result? 0 =
        some (.changed (.error (.stage .rewiringDependents (.dependent "" "runtime is not configured")))) := rfl
  have hopen : ((servingGateway.submit (.change (.apply 1 ⟨1, plainConfig⟩))).run refusingSetup
      (.advance 0 :: refusedEvents)).result? 0 = none := rfl
  have halone : ∀ e ∈ .advance 0 :: refusedEvents, e.mover? = some 0 := by decide
  obtain ⟨hheld, hversion, -, hbound, -⟩ := failed_rewiring_is_undone
    (sound_submit (sound_of_idle hidle) (.change (.apply 1 ⟨1, plainConfig⟩))) (by decide) rfl hopen hend rfl
    (undisturbed_of_alone halone)
  exact ⟨hbound, hheld, hversion⟩

end World

end EntityGateway
