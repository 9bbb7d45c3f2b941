/-
Sets of metadata providers: one for each data source of a configuration.

A set is made whole or not at all. Its providers are initialized side by side, each with its own limit; what one of
them comes to does not depend on the others, nor on the order in which they end.
-/
import EntityGateway.Metadata.Introspection

namespace EntityGateway

/-- which initializations of a set succeeded and which failed, in the order of the names -/
structure InitializationReport where
  succeeded : List String := []
  failed : List String := []
deriving DecidableEq, Repr

/-- the providers of the data sources of a snapshot -/
structure ProviderSet where
  snapshot : Option Snapshot := none
  providers : NameMap Provider := .empty

namespace ProviderSet

def find (s : ProviderSet) (name : String) : Except GatewayError Provider :=
  match s.providers.get? name with
  | some p => .ok p
  | none => .error (.dataSourceNotFound name)

def exceptions (s : ProviderSet) : List MetadataException := s.providers.values.flatMap (·.state.exceptions)

/-- the provider of a data source, if its kind of database is served -/
def makeProvider (i : Introspectors ι) (c : RuntimeConfig) (name : String) (source : DataSource) :
    Except ConfigError Provider :=
  let unsupported : ConfigError := .unsupportedBackend name source.databaseType.name
  match source.databaseType.providerKind with
  | none => .error unsupported
  | some kind =>
    if source.databaseType.isServed i.serves then .ok { name, kind, config := c } else .error unsupported

/-- the set of a snapshot, with a provider for each of its data sources -/
def ofSnapshot (i : Introspectors ι) (s : Snapshot) : Except ConfigError ProviderSet :=
  match s.config.dataSources.tryMap (makeProvider i s.config) with
  | .ok providers => .ok { snapshot := some s, providers }
  | .error e => .error (.rebuildFailed e)

/-! ## Initialization -/

/-- the initializations of providers begun one after another, at one time -/
def launchEach (i : Introspectors ι) (limit : Duration) (now : Nat) :
    List Provider → ι → List Provider × List SourceTask × ι
  | [], memory => ([], [], memory)
  | p :: rest, memory =>
    let (p, task, memory) := p.launch i limit now memory
    let (rest, tasks, memory) := launchEach i limit now rest memory
    (p :: rest, task :: tasks, memory)

def put (s : ProviderSet) (p : Provider) : ProviderSet := { s with providers := s.providers.modify p.name fun _ => p }

/-- the initializations of all providers begun -/
def launch (i : Introspectors ι) (limit : Duration) (now : Nat) (s : ProviderSet) (memory : ι) :
    ProviderSet × List SourceTask × ι :=
  let (providers, tasks, memory) := launchEach i limit now s.providers.values memory
  (providers.foldl put s, tasks, memory)

def settle (s : ProviderSet) (t : SourceTask) : ProviderSet :=
  { s with providers := s.providers.modify t.name (·.finish t.ending) }

/-- the end of one initialization that nobody waits for any more -/
def settleAlone (s : ProviderSet) (t : SourceTask) : ProviderSet :=
  { s with providers := s.providers.modify t.name (·.finishAlone t.ending) }

def report (tasks : List SourceTask) : InitializationReport :=
  { succeeded := (tasks.filter (·.ending.succeeds)).map (·.name),
    failed := (tasks.filter fun t => !t.ending.succeeds).map (·.name) }

/-- when the last of some initializations ends -/
def endOf (now : Nat) (tasks : List SourceTask) : Nat := tasks.foldl (fun latest t => max latest t.endsAt) now

/-- every provider initialized, the report, and when the last of them ends -/
def initializeAll (i : Introspectors ι) (limit : Duration) (now : Nat) (s : ProviderSet) (memory : ι) :
    ProviderSet × InitializationReport × Nat × ι :=
  let (s, tasks, memory) := s.launch i limit now memory
  (tasks.foldl settle s, report tasks, endOf now tasks, memory)

/-- the set of a snapshot with every provider initialized -/
def prepare (i : Introspectors ι) (limit : Duration) (now : Nat) (s : Snapshot) (memory : ι) :
    Except ConfigError (ProviderSet × InitializationReport × Nat × ι) := do
  let set ← ofSnapshot i s
  return set.initializeAll i limit now memory

end ProviderSet

end EntityGateway
