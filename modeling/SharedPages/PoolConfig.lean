import SharedPages.ConnectOptions
import SharedPages.DatabaseError

/-! # Configuration of a connection pool

Where the server is, how many connections the pool keeps and for how long, and which schema they
work in.  Times are in seconds. -/

namespace SharedPages

/-- The schema of a service that names none. -/
def defaultSchema : String := "pageshare"

/-- The configuration of one pool. -/
structure PoolConfig where
  url : String := "postgres://localhost/pageshare"
  maxConnections : Nat := 20
  minConnections : Nat := 0
  connectTimeout : Nat := 30
  idleTimeout : Nat := 5
  maxLifetime : Nat := 10
  /-- The schema of every connection; without one the server decides. -/
  searchPath : Option String := some defaultSchema
  /-- Every statement is logged. -/
  debug : Bool := false
deriving DecidableEq

namespace PoolConfig

/-- `text` occurs in `cs`. -/
def occurs (text cs : List Char) : Bool :=
  match cs with
  | [] => text.isEmpty
  | c :: rest => text.isPrefixOf (c :: rest) || occurs text rest

/-- The URL speaks of the search path, so the configured one is not added. -/
def mentionsSearchPath (url : String) : Bool := occurs "search_path".toList url.toList

/-- The options of the pool's connections. -/
def connectOptions (defaults : ConnectOptions) (c : PoolConfig) :
    Except DatabaseError ConnectOptions :=
  match ConnectOptions.ofUrl defaults c.url with
  | .error fault => .error (.connectionFailed (DriverError.configuration fault.message).message)
  | .ok o =>
    match c.searchPath with
    | some schema => .ok (if mentionsSearchPath c.url then o else o.addOption "search_path" schema)
    | none => .ok o

end PoolConfig

end SharedPages
