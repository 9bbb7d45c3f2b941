/-
The OpenAPI document of a configuration.

Every entity with a route has operations at it: a stored procedure is executed, a table or view is listed, created in
and, at the item route below it, read, replaced, updated and deleted. An operation that is at a path already stays.
-/
import EntityGateway.Config.Snapshot
import EntityGateway.Error

namespace EntityGateway.OpenApi

/-- the methods of operations -/
inductive Method where
  | get
  | put
  | post
  | delete
  | patch
deriving DecidableEq, Repr

def Method.name : Method → String
  | .get => "get"
  | .put => "put"
  | .post => "post"
  | .delete => "delete"
  | .patch => "patch"

/-- an operation on an entity, at its route or at one item -/
structure Operation where
  entity : String
  verb : String
  key : Option String
deriving DecidableEq, Repr

/-- the name by which a document knows an operation -/
def Operation.id (o : Operation) : String := o.verb ++ "_" ++ o.entity

abbrev PathItem := List (Method × Operation)

/-- the operations of an item that are there, and those of another for the methods that are free -/
def mergeItem (old new : PathItem) : PathItem := old ++ new.filter fun m => !old.any (·.1 == m.1)

/-- a document: the operations at each path -/
structure Document where
  paths : NameMap PathItem

/-- a document with operations at one more path -/
def Document.add (d : Document) (path : String) (item : PathItem) : Document :=
  ⟨d.paths.insert path (mergeItem ((d.paths.get? path).getD []) item)⟩

def service : String := "openapi documentor"

/-- the part of an item route that names the key -/
def keySegment (e : Entity) : String := e.source.keyFields.headD "id"

/-- the route of an entity below the path of the endpoint -/
def route (c : RuntimeConfig) (name : String) (e : Entity) : String :=
  Text.trimEnd (· = '/') c.runtime.rest.path ++ RuntimeConfig.restPath name e

def itemRoute (route key : String) : String := route ++ "/" ++ key ++ "/\x7b" ++ key ++ "\x7d"

def pathsOf (c : RuntimeConfig) (name : String) (e : Entity) : List (String × PathItem) :=
  let route := route c name e
  if e.isProcedure then [(route, [(.post, ⟨name, "execute", none⟩)])]
  else
    let key := keySegment e
    [(route, [(.get, ⟨name, "list", none⟩), (.post, ⟨name, "create", none⟩)]),
      (itemRoute route key, [(.get, ⟨name, "get", some key⟩), (.put, ⟨name, "replace", some key⟩),
        (.patch, ⟨name, "update", some key⟩), (.delete, ⟨name, "delete", some key⟩)])]

def routed (c : RuntimeConfig) : List (String × Entity) := c.entities.entries.filter fun e => e.2.rest.enabled

def build (c : RuntimeConfig) : Except GatewayError Document :=
  if !c.runtime.rest.enabled then .error (.dependent service "REST endpoint is disabled")
  else
    let entities := routed c
    let paths := entities.flatMap fun e => pathsOf c e.1 e.2
    let document := paths.foldl (fun d p => d.add p.1 p.2) ⟨.empty⟩
    if entities.isEmpty then .error (.dependent service "no REST-enabled entities to document") else .ok document

/-! ## The text of a document -/

def response (description : String) : Json := .object [("description", .string description)]

def Operation.toJson (o : Operation) : Json :=
  let responses := [("200", response "OK"), ("400", response "Bad request")]
  let common := [("operationId", Json.string o.id), ("tags", Json.ofTexts [o.entity])]
  match o.key with
  | none => Json.ofMembers (common ++ [("responses", .object responses)])
  | some key =>
    let parameter := Json.object [("in", .string "path"), ("name", .string key), ("required", .boolean true)]
    Json.ofMembers (common ++ [("parameters", .array [parameter]),
      ("responses", .object (responses ++ [("404", response "Not found")]))])

def interfaceVersion : String := "0.1.0"

def Document.toJson (d : Document) : Json :=
  let item (p : PathItem) : Json := Json.ofMembers (p.map fun m => (m.1.name, m.2.toJson))
  .object [("info", .object [("title", .string "Data API"), ("version", .string interfaceVersion)]),
    ("openapi", .string "3.1.0"), ("paths", .object (d.paths.entries.map fun p => (p.1, item p.2)))]

end EntityGateway.OpenApi
