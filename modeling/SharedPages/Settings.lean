import SharedPages.PoolConfig
import SharedPages.Json.Form

/-! # Settings of the service

Where the service listens, how much it logs, and how its database pools are set up.  The read pool
has the configuration of the write pool but for its own URL, if there is one. -/

namespace SharedPages

/-- Settings of the read pool and the write pool. -/
structure DatabaseSettings where
  writeUrl : String := "postgres://localhost/pageshare"
  readUrl : Option String := none
  /-- The schema of every connection; the empty one leaves it to the server. -/
  schema : String := defaultSchema
  maxConnections : Nat := 20
  minConnections : Nat := 0
  connectTimeoutSecs : Nat := 30
  idleTimeoutSecs : Nat := 5
  maxLifetimeSecs : Nat := 10
  debug : Bool := false
deriving DecidableEq

namespace DatabaseSettings

/-- The configurations of the read pool and of the write pool. -/
def poolConfigs (s : DatabaseSettings) : PoolConfig × PoolConfig :=
  let write : PoolConfig :=
    { url := s.writeUrl
      maxConnections := s.maxConnections
      minConnections := s.minConnections
      connectTimeout := s.connectTimeoutSecs
      idleTimeout := s.idleTimeoutSecs
      maxLifetime := s.maxLifetimeSecs
      searchPath := if s.schema = "" then none else some s.schema
      debug := s.debug }
  ({ write with url := s.readUrl.getD s.writeUrl }, write)

/-- The names of the settings, in order. -/
def names : List String :=
  ["write_url", "read_url", "schema", "max_connections", "min_connections", "connect_timeout_secs",
   "idle_timeout_secs", "max_lifetime_secs", "debug"]

/-- The fields that a JSON value gives, absent or present.  An array may end early. -/
def fields? : Json → Option (List (Option Json))
  | .array items =>
    if items.length ≤ names.length then
      some (items.map some ++ List.replicate (names.length - items.length) none)
    else none
  | j => JsonForm.fields? names j

/-- A field that is read with `read?`, or has its default if it is absent. -/
def defaulted {α : Type} (value : α) (read? : Json → Option α) : Option Json → Option α
  | some j => read? j
  | none => some value

/-- The greatest number of connections. -/
def maxCount : Nat := 0xffffffff

/-- The greatest number of seconds. -/
def maxSeconds : Nat := 0xffffffffffffffff

open JsonForm in
instance : JsonForm DatabaseSettings where
  toJson s := .object
    [("write_url", toJson s.writeUrl), ("read_url", toJson s.readUrl), ("schema", toJson s.schema),
     ("max_connections", .integer s.maxConnections),
     ("min_connections", .integer s.minConnections),
     ("connect_timeout_secs", .integer s.connectTimeoutSecs),
     ("idle_timeout_secs", .integer s.idleTimeoutSecs),
     ("max_lifetime_secs", .integer s.maxLifetimeSecs), ("debug", toJson s.debug)]
  ofJson? j := do
    let d : DatabaseSettings := {}
    match ← fields? j with
    | [write, read, schema, max, min, connect, idle, lifetime, debug] =>
      return {
        writeUrl := ← defaulted d.writeUrl ofJson? write
        readUrl := ← defaulted d.readUrl ofJson? read
        schema := ← defaulted d.schema ofJson? schema
        maxConnections := ← defaulted d.maxConnections (natural? maxCount) max
        minConnections := ← defaulted d.minConnections (natural? maxCount) min
        connectTimeoutSecs := ← defaulted d.connectTimeoutSecs (natural? maxSeconds) connect
        idleTimeoutSecs := ← defaulted d.idleTimeoutSecs (natural? maxSeconds) idle
        maxLifetimeSecs := ← defaulted d.maxLifetimeSecs (natural? maxSeconds) lifetime
        debug := ← defaulted d.debug ofJson? debug }
    | _ => none

end DatabaseSettings

/-- The settings of the service. -/
structure Settings where
  host : String := "0.0.0.0"
  port : Nat := 8080
  logLevel : String := "info"
  database : DatabaseSettings := {}
deriving DecidableEq

/-- Where the service listens. -/
def Settings.address (s : Settings) : String := s.host ++ ":" ++ toString s.port

end SharedPages
