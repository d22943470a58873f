import SharedPages.Report
import SharedPages.Text.Quoted

/-! # Database errors

A driver reports what went wrong in its own terms (`DriverError`); the rest of the library speaks
of `DatabaseError`.  `DatabaseError.classify` turns one into the other, by the SQLSTATE code where
the server sent one. -/

namespace SharedPages

/-- A column of a row, by its name or by its position. -/
inductive Column where
  | name (s : String)
  | position (index : Nat)
deriving DecidableEq

/-- How an error text names a column. -/
def Column.shown : Column → String
  | name s => Text.quote s
  | position index => toString index

/-- What a database driver reports. -/
inductive DriverError where
  | rowNotFound
  | poolTimedOut
  | poolClosed
  | workerCrashed
  | protocol (message : String)
  | configuration (message : String)
  | io (message : String)
  | columnNotFound (name : String)
  | decode (message : String)
  /-- A column does not hold what is wanted of it. -/
  | columnDecode (column : Column) (message : String)
  /-- The server refused a statement, perhaps with an SQLSTATE code. -/
  | server (message : String) (code : Option String)
deriving DecidableEq

namespace DriverError

/-- The text of the error. -/
def message : DriverError → String
  | .rowNotFound => "no rows returned by a query that expected to return at least one row"
  | .poolTimedOut => "pool timed out while waiting for an open connection"
  | .poolClosed => "attempted to acquire a connection on a closed pool"
  | .workerCrashed => "attempted to communicate with a crashed background worker"
  | .protocol m => Report.of "encountered unexpected or invalid data" m
  | .configuration m => Report.of "error with configuration" m
  | .io m => Report.of "error communicating with database" m
  | .columnNotFound name => Report.of "no column found for name" name
  | .decode m => Report.of "error occurred while decoding" m
  | .columnDecode column m =>
    Report.of ("error occurred while decoding column " ++ column.shown) m
  | .server m _ => Report.of "error returned from database" m

/-- The text of the error behind it: what a setting, the network, a value or the server said. -/
def sources : DriverError → List String
  | .configuration m | .io m | .decode m | .columnDecode _ m | .server m _ => [m]
  | _ => []

instance : Report DriverError := ⟨message, sources⟩

end DriverError

/-- What a savepoint statement was meant to do. -/
inductive SavepointAction where
  | create | rollbackTo | release
deriving DecidableEq

/-- The words for the action in an error text. -/
def SavepointAction.words : SavepointAction → String
  | .create => "create"
  | .rollbackTo => "roll back to"
  | .release => "release"

/-- Says that the action failed for the savepoint of that name. -/
def SavepointAction.failure (action : SavepointAction) (name : String) : String :=
  "Failed to " ++ action.words ++ " savepoint " ++ name

/-- What can go wrong with a database. -/
inductive DatabaseError where
  | connectionFailed (message : String)
  | queryFailed (message : String)
  | notFound (message : String)
  | duplicateEntry (message : String)
  | foreignKeyViolation (message : String)
  | constraintViolation (message : String)
  | transactionFailed (message : String)
  /-- The transaction was committed or rolled back before. -/
  | noActiveTransaction
  /-- A connection of the transaction is still checked out. -/
  | transactionBusy
  | savepoint (name : String) (action : SavepointAction) (source : DatabaseError)
  | closeFailed (message : String)
  | poolExhausted
  | driver (error : DriverError)
deriving DecidableEq

namespace DatabaseError

/-- The text of the error. -/
def message : DatabaseError → String
  | .connectionFailed m => Report.of "Failed to connect to database" m
  | .queryFailed m => Report.of "Query failed" m
  | .notFound m => Report.of "Entity not found" m
  | .duplicateEntry m => Report.of "Duplicate entry" m
  | .foreignKeyViolation m => Report.of "Foreign key violation" m
  | .constraintViolation m => Report.of "Constraint violation" m
  | .transactionFailed m => Report.of "Transaction failed" m
  | .noActiveTransaction => "no active transaction"
  | .transactionBusy => "transaction is busy: a connection to it is still checked out"
  | .savepoint name action source =>
    Report.of (action.failure name) source.message
  | .closeFailed m => Report.of "Failed to close database pools" m
  | .poolExhausted => "Connection pool exhausted"
  | .driver e => Report.of "SQL error" e.message

/-- The texts of the errors behind it: a savepoint error has the error of its statement, a driver
    error the driver's. -/
def sources : DatabaseError → List String
  | .savepoint _ _ source => source.message :: source.sources
  | .driver e => e.message :: e.sources
  | _ => []

instance : Report DatabaseError := ⟨message, sources⟩

/-- The error for an entity that is not there. -/
def missing (entity id : String) : DatabaseError :=
  .notFound (entity ++ " with id '" ++ id ++ "' not found")

/-- The error for a value that must be unique and is not. -/
def duplicate (entity field value : String) : DatabaseError :=
  .duplicateEntry (entity ++ " with " ++ field ++ " '" ++ value ++ "' already exists")

/-- The error says that something is not there. -/
def isNotFound : DatabaseError → Bool
  | .notFound _ => true
  | _ => false

/-- The error says that a rule of the schema would be broken. -/
def isConstraintViolation : DatabaseError → Bool
  | .duplicateEntry _ | .foreignKeyViolation _ | .constraintViolation _ => true
  | _ => false

/-- The error says that no connection can be had. -/
def isConnectionError : DatabaseError → Bool
  | .connectionFailed _ | .poolExhausted => true
  | _ => false

/-- The error for a statement that the server refused with an SQLSTATE code. -/
def ofState (code message : String) : DatabaseError :=
  if code = "23505" then .duplicateEntry message
  else if code = "23503" then .foreignKeyViolation message
  else if code = "23514" ∨ code = "23502" then .constraintViolation message
  else if code = "25P02" then .transactionFailed message
  else .queryFailed message

/-- What a driver's report means. -/
def classify : DriverError → DatabaseError
  | .rowNotFound => .notFound "Record not found"
  | .poolTimedOut => .poolExhausted
  | .poolClosed => .connectionFailed "pool is closed"
  | .server message (some code) => ofState code message
  | .server message none => .queryFailed message
  | e => .queryFailed e.message

end DatabaseError

end SharedPages
