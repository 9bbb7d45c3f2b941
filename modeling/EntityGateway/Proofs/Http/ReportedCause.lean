/-
The cause that a failed change reports.

An error can hold another one: it only passes it on, or it was caused by it. What it holds can hold an error again, and
so on down to one that holds none, the innermost. Reports are not made by going down these levels one by one. They
follow sources, and an error that only passes on another has no source of its own but that of the other one, so that a
level is skipped. Nothing is lost by that, because such an error has the wording of the one that it passes on.

- `Fault.inner?`, `Fault.source?`: what an error holds, and its source;
- `Fault.getLastD_causes`: the wordings of causes are those along sources;
- `Fault.source_ends`: whoever follows sources comes to the wording of the innermost error;
- `reported_cause_is_innermost`: what is reported of a change that was not made.
-/
import EntityGateway.Http.ErrorBody

namespace EntityGateway

/-! ## Errors in errors -/

/-- an error of any kind -/
inductive Fault where
  | gateway (e : GatewayError)
  | change (e : ChangeError)
  | config (e : ConfigError)
  | metadata (e : MetadataException)
  | database (e : DatabaseError)
  /-- a cause of an error of a database's driver, with the causes of that one -/
  | driver (wording : String) (causes : List String)

namespace Fault

variable {x y z : Fault}

def message : Fault → String
  | .gateway e => e.message
  | .change e => e.message
  | .config e => e.message
  | .metadata e => e.message
  | .database e => e.message
  | .driver wording _ => wording

/-- the wordings of the causes, the nearest first -/
def causes : Fault → List String
  | .gateway e => e.causes
  | .change e => e.causes
  | .config e => e.causes
  | .metadata _ => []
  | .database e => e.causes
  | .driver _ causes => causes

/-- the nearest of the causes in a driver -/
def nearest? : List String → Option Fault
  | [] => none
  | wording :: causes => some (.driver wording causes)

/-- the error that an error holds -/
def inner? : Fault → Option Fault
  | .gateway (.config e) => some (.config e)
  | .gateway (.change e) => some (.change e)
  | .gateway (.metadata e) => some (.metadata e)
  | .gateway (.database e) => some (.database e)
  | .gateway _ => none
  | .change (.stage _ cause) => some (.gateway cause)
  | .change _ => none
  | .config (.rebuildFailed cause) => some (.config cause)
  | .config _ => none
  | .metadata _ => none
  | .database e => nearest? e.causes
  | .driver _ causes => nearest? causes

/-- the source of an error: the one that it holds, or the source of that one if the error only passes it on -/
def source? : Fault → Option Fault
  | .gateway (.config e) => inner? (.config e)
  | .gateway (.change e) => inner? (.change e)
  | .gateway (.metadata e) => inner? (.metadata e)
  | x => x.inner?

/-- who takes the next error again and again comes from one error to another that has none -/
inductive Ends (next? : Fault → Option Fault) : Fault → Fault → Prop
  | here {x : Fault} (h : next? x = none) : Ends next? x x
  | later {x y z : Fault} (h : next? x = some y) (hy : Ends next? y z) : Ends next? x z

theorem Ends.unique {next? : Fault → Option Fault} (hy : Ends next? x y) (hz : Ends next? x z) : y = z := by
  induction hy with
  | here hnone =>
    cases hz with
    | here => rfl
    | later hsome => cases hnone.symm.trans hsome
  | later hsome _ ih =>
    cases hz with
    | here hnone => cases hnone.symm.trans hsome
    | later hsome' hz =>
      cases hsome.symm.trans hsome'
      exact ih hz

/-! ## Levels -/

theorem source?_of_innermost (h : x.inner? = none) : x.source? = none := by
  unfold source?
  split
  · cases h
  · cases h
  · cases h
  · exact h

/-- the source of an error is what it holds, or the error has the wording and the source of that -/
theorem source?_cases (h : x.inner? = some y) :
    x.source? = some y ∨ x.source? = y.source? ∧ x.message = y.message := by
  unfold source?
  split
  · cases h
    exact .inr ⟨rfl, rfl⟩
  · cases h
    exact .inr ⟨rfl, rfl⟩
  · cases h
    exact .inr ⟨rfl, rfl⟩
  · exact .inl h

/-- whoever follows sources does not miss the wording of the innermost error -/
theorem source_ends (h : Ends inner? x y) : ∃ last, Ends source? x last ∧ last.message = y.message := by
  induction h with
  | here hnone => exact ⟨_, .here (source?_of_innermost hnone), rfl⟩
  | later hsome _ ih =>
    obtain ⟨last, hlast, hmessage⟩ := ih
    rcases source?_cases hsome with hsource | ⟨hsource, hsame⟩
    · exact ⟨last, .later hsource hlast, hmessage⟩
    · -- a level is skipped, and it may be the last one
      cases hlast with
      | here hnone => exact ⟨_, .here (hsource.trans hnone), hsame.trans hmessage⟩
      | later hnext hlast => exact ⟨last, .later (hsource.trans hnext) hlast, hmessage⟩

/-! ## Causes -/

theorem causes_eq (x : Fault) : x.causes = (x.source?.map fun y => y.message :: y.causes).getD [] := by
  have hdriver : ∀ causes : List String, causes = ((nearest? causes).map fun y => y.message :: y.causes).getD [] := by
    intro causes
    cases causes <;> rfl
  cases x with
  | gateway e =>
    cases e with
    | config e => cases e <;> rfl
    | change e => cases e <;> rfl
    | _ => rfl
  | change e => cases e <;> rfl
  | config e => cases e <;> rfl
  | metadata e => rfl
  | database e => exact hdriver e.causes
  | driver _ causes => exact hdriver causes

theorem getLastD_causes (h : Ends source? x y) : x.causes.getLastD x.message = y.message := by
  induction h with
  | here hnone =>
    rw [causes_eq, hnone]
    rfl
  | later hsome _ ih =>
    rw [causes_eq, hsome]
    exact (List.getLastD_cons ..).trans ih

/-! ## The innermost error -/

theorem innermost_driver (wording : String) (causes : List String) : ∃ y, Ends inner? (.driver wording causes) y := by
  induction causes generalizing wording with
  | nil => exact ⟨_, .here rfl⟩
  | cons cause causes ih =>
    obtain ⟨y, hy⟩ := ih cause
    exact ⟨y, .later rfl hy⟩

theorem innermost_database (e : DatabaseError) : ∃ y, Ends inner? (.database e) y := by
  cases hcauses : e.causes with
  | nil => exact ⟨_, .here (congrArg nearest? hcauses)⟩
  | cons cause causes =>
    obtain ⟨y, hy⟩ := innermost_driver cause causes
    exact ⟨y, .later (congrArg nearest? hcauses) hy⟩

theorem innermost_config (e : ConfigError) : ∃ y, Ends inner? (.config e) y := by
  induction e with
  | rebuildFailed cause ih =>
    obtain ⟨y, hy⟩ := ih
    exact ⟨y, .later rfl hy⟩
  | _ => exact ⟨_, .here rfl⟩

mutual

theorem innermost_gateway : ∀ e : GatewayError, ∃ y, Ends inner? (.gateway e) y
  | .config e => (innermost_config e).imp fun _ hy => .later rfl hy
  | .change e => (innermost_change e).imp fun _ hy => .later rfl hy
  | .metadata e => ⟨.metadata e, .later rfl (.here rfl)⟩
  | .database e => (innermost_database e).imp fun _ hy => .later rfl hy
  | .alreadyConfigured | .notConfigured | .dataSourceNotFound _ | .dependent _ _ | .notFound _ | .validation _
  | .badRequest _ => ⟨_, .here rfl⟩

theorem innermost_change : ∀ e : ChangeError, ∃ y, Ends inner? (.change e) y
  | .stage _ cause => (innermost_gateway cause).imp fun _ hy => .later rfl hy
  | .inProgress | .timeout _ _ => ⟨_, .here rfl⟩

end

end Fault

open Fault in
/-- **The cause that is reported of a change that was not made is the wording of the innermost error**, of which there
is one, and sources come to an end with that wording. If a stage failed or timed out, the answer over HTTP has the
wording and the name of that stage, whatever stages there are further down. -/
theorem reported_cause_is_innermost (e : ChangeError) :
    ∃ x : Fault, Ends inner? (.change e) x ∧ (∀ y, Ends inner? (.change e) y → y = x) ∧
      (∃ last, Ends source? (.change e) last ∧ last.message = x.message) ∧ e.innermost = x.message ∧
      ∀ stage, ((∃ cause, e = .stage stage cause) ∨ ∃ after, e = .timeout stage after) →
        ((GatewayError.change e).body.get? "error").bind (·.get? "details") =
          some (.object [("cause", .string x.message), ("stage", .string stage.name)]) := by
  obtain ⟨x, hx⟩ := innermost_change e
  obtain ⟨last, hlast, hmessage⟩ := source_ends hx
  have hinnermost : e.innermost = x.message := (getLastD_causes hlast).trans hmessage
  refine ⟨x, hx, fun y hy => hy.unique hx, ⟨last, hlast, hmessage⟩, hinnermost, ?_⟩
  intro stage hstage
  have hdetails : (GatewayError.change e).details =
      some (.object [("cause", .string x.message), ("stage", .string stage.name)]) := by
    rw [← hinnermost]
    rcases hstage with ⟨cause, rfl⟩ | ⟨after, rfl⟩ <;> rfl
  unfold GatewayError.body
  rw [hdetails]
  rfl

/-- a change that failed because another one did, because of a data source without a backend -/
def graphFailure : ChangeError :=
  .stage .rebuildingMetadata (.change (.stage .validating
    (.config (.rebuildFailed (.rebuildFailed (.unsupportedBackend "graph" "graphdb"))))))

theorem missing_backend_is_reported :
    (∃ cause, graphFailure = .stage .rebuildingMetadata cause) ∧
    ((GatewayError.change graphFailure).body.get? "error").bind (·.get? "details") = some (.object
      [("cause", .string "data source 'graph': database type 'graphdb' is not supported"),
        ("stage", .string "rebuilding_metadata")]) := by
  have hstage : ∃ cause, graphFailure = .stage .rebuildingMetadata cause := ⟨_, rfl⟩
  obtain ⟨x, -, hunique, -, -, hdetails⟩ := reported_cause_is_innermost graphFailure
  have hbackend : Fault.Ends Fault.inner? (.change graphFailure) (.config (.unsupportedBackend "graph" "graphdb")) :=
    .later rfl (.later rfl (.later rfl (.later rfl (.later rfl (.later rfl (.here rfl))))))
  obtain rfl := hunique _ hbackend
  exact ⟨hstage, hdetails _ (.inl hstage)⟩

/-- of an error of a database, the wording that its driver has for it is reported -/
example : (ChangeError.stage .rewiringDependents (.database .poolTimedOut)).innermost =
    "pool timed out while waiting for an open connection" := rfl

end EntityGateway
