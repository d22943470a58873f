import SharedPages.DatabaseError
import SharedPages.Json

/-! # Errors of the HTTP interface

What a client of the service is told of a database error: that something is not there, that the
service cannot work at the moment, or that something else went wrong. -/

namespace SharedPages

/-- Why a request was not served. -/
inductive ApiError where
  | notFound (message : String)
  | unavailable (message : String)
  | internal (message : String)
deriving DecidableEq

namespace ApiError

/-- The status code of the response. -/
def status : ApiError → Nat
  | .notFound _ => 404
  | .unavailable _ => 503
  | .internal _ => 500

/-- The word for the error in the response. -/
def word : ApiError → String
  | .notFound _ => "not_found"
  | .unavailable _ => "unavailable"
  | .internal _ => "internal_error"

/-- The text of the error. -/
def message : ApiError → String
  | .notFound m => Report.of "Not found" m
  | .unavailable m => Report.of "Service unavailable" m
  | .internal m => Report.of "Internal server error" m

instance : Report ApiError := ⟨message, fun _ => []⟩

/-- What a client is told of a database error. -/
def ofDatabase : DatabaseError → ApiError
  | .notFound m => .notFound m
  | .connectionFailed m => .unavailable m
  | .poolExhausted => .unavailable "connection pool exhausted"
  | e => .internal e.message

/-- The body of the response. -/
def body (e : ApiError) : Json :=
  .object [("error", .string e.word), ("message", .string e.message)]

end ApiError

end SharedPages
