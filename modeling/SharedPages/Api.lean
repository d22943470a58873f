import SharedPages.ApiError
import SharedPages.Connection

/-! # The HTTP interface

Two paths tell how the service is: `/health` that it runs, and `/health/ready` that it can reach its
database.  Both answer `GET`, and `HEAD` without the body; other methods are not allowed there, and
nothing is found at other paths. -/

namespace SharedPages.Api

/-- A request, by its method and its target. -/
structure Request where
  method : String
  target : String

/-- The character may stand in the scheme of a target. -/
def isSchemeChar (c : Char) : Bool := c.isAlphanum || ['+', '-', '.', '~'].contains c

/-- What follows scheme and authority, if `cs` starts with them. -/
def afterAuthority (cs : List Char) : List Char :=
  match cs.dropWhile isSchemeChar with
  | ':' :: '/' :: '/' :: rest => rest.dropWhile (· ≠ '/')
  | _ => cs

/-- The path of the target, which is a path or a whole URL, without query and fragment. -/
def Request.path (r : Request) : String :=
  String.ofList (afterAuthority (r.target.toList.takeWhile fun c => c ≠ '?' ∧ c ≠ '#'))

/-- What goes back to the client. -/
structure Response where
  status : Nat
  contentType : Option String := none
  /-- The methods that are allowed, if the one of the request is not. -/
  allow : Option String := none
  body : String := ""
deriving DecidableEq

namespace Response

/-- A response with a JSON body. -/
def ofJson (status : Nat) (body : Json) : Response :=
  { status, contentType := some "application/json", body := body.text }

/-- The response for an error. -/
def ofError (e : ApiError) : Response := ofJson e.status e.body

/-- Nothing is at the path. -/
def notFound : Response := { status := 404 }

/-- The method is not allowed at the path. -/
def notAllowed : Response := { status := 405, allow := some "GET,HEAD" }

/-- The response without its body. -/
def head (r : Response) : Response := { r with body := "" }

end Response

/-- The version of the service. -/
def version : String := "0.1.0"

/-- The response that says how the service is. -/
def report (status : String) : Response :=
  .ofJson 200 (.object [("status", .string status), ("version", .string version)])

/-- What a path stands for. -/
inductive Route where
  | health | readiness
deriving DecidableEq

/-- The route of a path. -/
def Route.ofPath? (path : String) : Option Route :=
  [("/health", health), ("/health/ready", readiness)].lookup path

variable {β τ ε : Type} [Backend β τ]

/-- Makes sure that reading requests get a connection, and that the server answers. -/
def checkReadiness : Work (Database β τ) DatabaseError Unit := do
  Database.withConnection β (.ofContext .read .background) id (Work.done ())
  Database.ping

/-- Answers at a route. -/
def answer : Route → Work (Database β τ) ε Response
  | .health => return report "healthy"
  | .readiness => do
    match ← checkReadiness.outcome with
    | .done () => return report "ready"
    | .failed e => return .ofError (.ofDatabase e)
    | .panicked p => Work.panic p
    | .suspended => Work.pend

/-- Serves a request. -/
def serve (r : Request) : Work (Database β τ) ε Response := do
  match Route.ofPath? r.path with
  | none => return .notFound
  | some route =>
    if r.method = "GET" then answer route
    else if r.method = "HEAD" then return (← answer route).head
    else return .notAllowed

end SharedPages.Api
