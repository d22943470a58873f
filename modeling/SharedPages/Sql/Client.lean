import SharedPages.Connection
import SharedPages.Failure
import SharedPages.Sql.Endpoint

/-! # Statements with parameters

How repositories send statements on a connection that they checked out: to the pool, or to the
session of the transaction. -/

namespace SharedPages.Sql

/-- The pool on which a client's statements run.  Transactions run on the write pool. -/
def poolOf : Client → PoolRole
  | .pool role => role
  | .transaction _ => .write

variable {σ ε α : Type} [Holds (Database Endpoint PoolRole) σ]

/-- Sends a statement on a connection that is checked out, and gives the rows that come back. -/
def fetch (client : Client) (statement : Statement) : Work σ DriverError (List Row) :=
  (Database.onBackend (Endpoint.query (poolOf client) statement) :
    Work (Database Endpoint PoolRole) _ _).on

/-- What a driver's report is to a repository. -/
def causeOf (e : DriverError) : Cause := .database (.classify e)

/-- Does some work with a connection of the context. -/
def withConnection (role : PoolRole) (ctx : Context) (fault : Cause → ε)
    (w : Client → Work σ ε α) : Work σ ε α :=
  Database.withConnection Endpoint (.ofContext role ctx) (fault ∘ .database)
    (w (.ofContext role ctx))

end SharedPages.Sql
