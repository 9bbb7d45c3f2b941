/-
Catalogs that stand for databases: what each connection answers is written down, and every question is remembered.
-/
import EntityGateway.Metadata.Introspection

namespace EntityGateway.Simulation

/-- what a connection answers -/
structure Connection where
  /-- how long it takes to answer -/
  delay : Duration := ⟨0⟩
  /-- whether it breaks down instead -/
  breaks : Bool := false
  failure : Option GatewayError := none
  /-- how many questions fail; all of them if it is not said -/
  failures : Option Nat := none
  /-- objects that are answered whether they were asked for or not -/
  objects : List DatabaseObject := []
  /-- whether there is an object for each reference too -/
  echoes : Bool := false

/-- connections by their connection strings, and the one for all others -/
structure Catalog where
  connections : NameMap Connection := .empty
  otherwise : Connection := {}

/-- a question that was asked -/
structure Question where
  connection : String
  token : Option String
  refs : List ObjectRef

/-- the questions that were asked, and how many for each connection string -/
structure Questions where
  asked : List Question := []
  counts : NameMap Nat := .empty

/-- an object for a reference, with a key and a name -/
def echo (r : ObjectRef) : DatabaseObject :=
  { schema := r.schema, name := r.name, kind := r.kind,
    columns := [{ name := "id", dataType := "text" }, { name := "name", dataType := "text", nullable := true }],
    primaryKey := ["id"] }

/-- the objects of a connection -/
def Connection.found (c : Connection) (refs : List ObjectRef) : List DatabaseObject :=
  if c.echoes then c.objects ++ refs.map echo else c.objects

/-- what comes of the question of a number -/
def Connection.outcome (c : Connection) (number : Nat) (refs : List ObjectRef) : Outcome :=
  if c.breaks then .aborted "<aborted>"
  else
    match c.failure with
    | some e => if c.failures.all (number ≤ ·) then .failed e else .found (c.found refs)
    | none => .found (c.found refs)

def Catalog.introspectors (catalog : Catalog) (serves : Dialect → Bool) : Introspectors Questions where
  serves := serves
  ask _ source refs q :=
    let connection := source.connectionString
    let c := (catalog.connections.get? connection).getD catalog.otherwise
    let number := (q.counts.get? connection).getD 0 + 1
    (⟨some c.delay, c.outcome number refs⟩,
      { asked := q.asked ++ [⟨connection, source.accessToken, refs⟩], counts := q.counts.insert connection number })

end EntityGateway.Simulation
