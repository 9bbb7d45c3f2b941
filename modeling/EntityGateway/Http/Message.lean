/-
Requests and responses.
-/
import EntityGateway.Http.ErrorBody

namespace EntityGateway.Http

/-- a request -/
structure Request where
  method : String := "GET"
  /-- the path, with a query and a fragment if there are any -/
  target : String
  contentType : Option String := none
  /-- the length of the body as the request says it, if it does -/
  contentLength : Option Nat := none
  body : String := ""

def Request.path (r : Request) : String := String.ofList (r.target.toList.takeWhile fun c => c ≠ '?' && c ≠ '#')

/-- a response; the body is JSON or of no interest -/
structure Response where
  status : Nat
  body : Option Json := none

namespace Response

def json (status : Nat) (body : Json) : Response := ⟨status, some body⟩

/-- a response that says nothing but its status -/
def bare (status : Nat) : Response := ⟨status, none⟩

def error (e : GatewayError) : Response := .json e.status.1 e.body

def withoutBody (r : Response) : Response := { r with body := none }

end Response

end EntityGateway.Http
