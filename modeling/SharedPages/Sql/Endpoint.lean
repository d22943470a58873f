import SharedPages.Backend
import SharedPages.ConnectOptions
import SharedPages.Sql.Row

/-! # A scripted SQL server

An `Endpoint` stands for a server with a read pool and a write pool.  It logs every statement that
it gets, and answers each one with parameters by the next of its scripted replies; when they run
out, it answers with no rows.  Statements without parameters succeed, unless they are scripted to
be refused, on both pools or on one.  A closed pool gives no connection. -/

namespace SharedPages.Sql

/-- Why the server refuses a statement. -/
structure Refusal where
  code : String
  message : String
deriving DecidableEq

/-- What the driver reports of a refusal. -/
def Refusal.error (r : Refusal) : DriverError := .server r.message (some r.code)

/-- A scripted reply. -/
inductive Reply where
  | rows (rows : List Row)
  | refused (why : Refusal)

/-- A logged statement. -/
structure Call where
  pool : PoolRole
  statement : Statement
deriving DecidableEq

/-- The state of the server. -/
structure Endpoint where
  replies : List Reply := []
  /-- The statements without parameters that are refused: as they are, or after the name of a pool,
      a colon and a space. -/
  refusals : List (String × Refusal) := []
  /-- The statements that came, newest first. -/
  log : List Call := []
  /-- The pools that were closed. -/
  closed : List PoolRole := []

namespace Endpoint

/-- Logs a statement. -/
def note (pool : PoolRole) (statement : Statement) (e : Endpoint) : Endpoint :=
  { e with log := ⟨pool, statement⟩ :: e.log }

/-- Opens the connection of a pool, which sends options and the name of the application. -/
def connect (pool : PoolRole) (options : ConnectOptions) (e : Endpoint) : Endpoint :=
  e.note pool ⟨"CONNECT", [.ofText? options.options, .ofText? options.applicationName]⟩

/-- The refusal that is scripted for a statement without parameters. -/
def refusal? (e : Endpoint) (pool : PoolRole) (text : String) : Option Refusal :=
  e.refusals.lookup text <|> e.refusals.lookup (pool.name ++ ": " ++ text)

/-- Runs a statement without parameters. -/
def plain (pool : PoolRole) (text : String) : Work Endpoint DatabaseError Unit := fun e =>
  match e.refusal? pool text with
  | some r => (.failed (.classify r.error), e.note pool { text })
  | none => (.done (), e.note pool { text })

/-- Refuses to give a connection of a closed pool. -/
def unlessClosed (pool : PoolRole) : Work Endpoint DatabaseError Unit := fun e =>
  if e.closed.contains pool then (.failed (.classify .poolClosed), e) else (.done (), e)

/-- Runs a statement with parameters and gives the rows of the reply. -/
def query (pool : PoolRole) (statement : Statement) : Work Endpoint DriverError (List Row) :=
  fun e =>
    let logged := e.note pool statement
    match e.replies with
    | .rows rows :: replies => (.done rows, { logged with replies })
    | .refused r :: replies => (.failed r.error, { logged with replies })
    | [] => (.done [], logged)

instance : Backend Endpoint PoolRole where
  acquire := unlessClosed
  executeAlone := plain
  begin pool := do
    unlessClosed pool
    plain pool "BEGIN"
    return pool
  execute text := fun (pool, e) => ((plain pool text e).1, pool, (plain pool text e).2)
  commit pool := plain pool "COMMIT"
  rollback pool := plain pool "ROLLBACK"
  ping pool := do
    unlessClosed pool
    plain pool "SELECT 1"
  close pool := Work.modify fun e => { e with closed := pool :: e.closed }

end Endpoint

end SharedPages.Sql
