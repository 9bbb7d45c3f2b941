/-
Introspectors: those who are asked for the objects of a database.

An introspector is described by its answers. An answer says what comes of the question and how long that takes, if it
comes to an end at all; the next answer may depend on the questions so far.
-/
import EntityGateway.Metadata.Provider

namespace EntityGateway

/-- what comes of a question, and after what time; after no time at all if it never comes -/
structure Answer where
  after : Option Duration := some ⟨0⟩
  outcome : Outcome

/-- the introspectors of the dialects that have one; `ι` is what they remember -/
structure Introspectors (ι : Type) where
  serves : Dialect → Bool
  ask : Dialect → DataSource → List ObjectRef → ι → Answer × ι

/-- an initialization under way: when it ends, and how -/
structure SourceTask where
  name : String
  endsAt : Nat
  ending : Ending

/-- how and when a question ends if the answer must come within a limit; on the limit is in time -/
def SourceTask.ofAnswer (name : String) (now : Nat) (limit : Duration) (a : Answer) : SourceTask :=
  match a.after with
  | some d =>
    if d.nanoseconds ≤ limit.nanoseconds then ⟨name, now + d.nanoseconds, .answered a.outcome⟩
    else ⟨name, now + limit.nanoseconds, .timedOut limit⟩
  | none => ⟨name, now + limit.nanoseconds, .timedOut limit⟩

namespace Provider

/-- an initialization begun, and its question asked if it has one -/
def launch (i : Introspectors ι) (limit : Duration) (now : Nat) (p : Provider) (memory : ι) :
    Provider × SourceTask × ι :=
  match p.begin with
  | (p, .asks d source refs) =>
    let (a, memory) := i.ask d source refs memory
    (p, .ofAnswer p.name now limit a, memory)
  | (p, .over error) => (p, ⟨p.name, now, .atOnce error⟩, memory)

/-- a whole initialization without a limit, and its error -/
def initialization (i : Introspectors ι) (p : Provider) (memory : ι) :
    Except MetadataException Unit × Provider × ι :=
  match p.begin with
  | (p, .asks d source refs) =>
    let (a, memory) := i.ask d source refs memory
    match a.outcome with
    | .found objects => (.ok (), p.publishFound objects, memory)
    | .failed e => (.error (.introspection p.name e.message), p.finish (.answered (.failed e)), memory)
    | .aborted reason => (.error (.introspection p.name reason), p.finish (.answered (.aborted reason)), memory)
  | (p, .over none) => (.ok (), p, memory)
  | (p, .over (some e)) => (.error e, p, memory)

end Provider

end EntityGateway
