import SharedPages.Transaction
import SharedPages.TransactionError
import SharedPages.Context

/-! # Connections and units of work

A `Database` is a backend together with the transactions that were begun on it.  Reading goes to
the read pool and writing to the write pool, except in a context that carries a transaction, where
both go to that transaction, so that a unit of work sees what it wrote itself.

`Database.run` runs steps as one unit of work.  In a context without a transaction it begins one
and commits it if the steps succeed; in a context with a transaction it opens a savepoint and
releases it if they succeed.  If the steps fail or panic, what they wrote is undone, and the error
of the steps, or the panic, is the unit's own.  If a nested unit is dropped half-way, its savepoint
is abandoned. -/

namespace SharedPages

/-- A backend, and the transactions that were begun on it. -/
structure Database (β τ : Type) where
  backend : β
  transactions : Array (Transaction τ) := #[]

/-- Where statements go: to a pool, or to a transaction. -/
inductive Client where
  | pool (role : PoolRole)
  | transaction (id : TransactionId)
deriving DecidableEq

namespace Client

/-- Statements go to a transaction. -/
def isTransaction : Client → Bool
  | pool _ => false
  | transaction _ => true

/-- Both clients send statements to the very same transaction. -/
def sameTransaction : Client → Client → Bool
  | transaction a, transaction b => a = b
  | _, _ => false

/-- A short description. -/
def describe : Client → String
  | pool _ => "Client::Pool"
  | transaction _ => "Client::Transaction"

/-- A short description of a connection that was checked out of the client. -/
def describeConnection (c : Client) : String :=
  "ClientConn \x7b transaction: " ++ (if c.isTransaction then "true" else "false") ++ " \x7d"

/-- The transaction of the context, or else the pool. -/
def ofContext (role : PoolRole) (ctx : Context) : Client :=
  match ctx.transaction? with
  | some id => transaction id
  | none => pool role

end Client

namespace Database

variable {β τ σ ε α : Type}

/-- Work on the database behind the transactions. -/
def onBackend (w : Work β ε α) : Work (Database β τ) ε α := fun d =>
  ((w d.backend).1, { d with backend := (w d.backend).2 })

/-- Work on one transaction. -/
def within (id : TransactionId) (w : Work (Transaction τ × β) DatabaseError α) :
    Work (Database β τ) DatabaseError α := fun d =>
  match d.transactions[id.index]? with
  | some t =>
    let (o, t, b) := w (t, d.backend)
    (o, { backend := b, transactions := d.transactions.setIfInBounds id.index t })
  | none => (.failed .noActiveTransaction, d)

/-- Changes one transaction. -/
def change (id : TransactionId) (f : Transaction τ → Transaction τ) (d : Database β τ) :
    Database β τ :=
  { d with transactions := d.transactions.modify id.index f }

/-- Adds a transaction on a session that was begun. -/
def adopt (session : τ) : Work (Database β τ) ε TransactionId := fun d =>
  (.done ⟨d.transactions.size⟩,
    { d with transactions := d.transactions.push { session := some session } })

variable [Backend β τ]

/-- Begins a transaction on the write pool. -/
def begin : Work (Database β τ) DatabaseError TransactionId := do
  let session ← onBackend (Backend.begin PoolRole.write)
  adopt session

/-! ## Connections -/

/-- Checks a connection out. -/
def checkOut : Client → Work (Database β τ) DatabaseError Unit
  | .pool role => onBackend (Backend.acquire role)
  | .transaction id => within id Transaction.checkOut

omit [Backend β τ] in
/-- Gives a connection back. -/
def giveBack : Client → Database β τ → Database β τ
  | .pool _, d => d
  | .transaction id, d => change id Transaction.giveBack d

/-- Runs a statement on a connection that is checked out. -/
def execute (text : String) : Client → Work (Database β τ) DatabaseError Unit
  | .pool role => onBackend (Backend.executeAlone role text)
  | .transaction id => within id (Transaction.send text)

variable (β) in
/-- Checks a connection out for the time of some work. -/
def withConnection [Holds (Database β τ) σ] (client : Client) (fault : DatabaseError → ε)
    (w : Work σ ε α) : Work σ ε α := do
  ((checkOut client : Work (Database β τ) _ _).mapError fault).on
  w.ensuring fun s => Holds.set (giveBack client (Holds.get s : Database β τ)) s

/-- Runs one statement. -/
def statement (client : Client) (text : String) : Work (Database β τ) DatabaseError Unit :=
  withConnection β client id (execute text client)

/-! ## Pools -/

/-- Pings a pool. -/
def pingPool (role : PoolRole) : Work (Database β τ) DatabaseError Unit :=
  (onBackend (Backend.ping role)).mapError fun e =>
    .connectionFailed (role.name ++ " pool is unreachable: " ++ e.message)

/-- Closes a pool. -/
def closePool (role : PoolRole) : Work (Database β τ) DatabaseError Unit :=
  (onBackend (Backend.close role)).mapError fun e =>
    .closeFailed (role.name ++ " pool: " ++ e.message)

/-- Makes sure that both pools answer. -/
def connect : Work (Database β τ) DatabaseError Unit := do
  pingPool .read
  pingPool .write

/-- Pings the read pool. -/
def ping : Work (Database β τ) DatabaseError Unit := pingPool .read

/-- Closes both pools, the second one even if closing the first one fails. -/
def close : Work (Database β τ) DatabaseError Unit := do
  -- Both are closed before either outcome is looked at.
  match ← (closePool .read).outcome, ← (closePool .write).outcome with
  | .failed e, .failed e' => Work.fail (.closeFailed (e.message ++ "; " ++ e'.message))
  | .failed e, _ | _, .failed e => Work.fail e
  | _, _ => return ()

/-! ## Units of work -/

variable (β) [Holds (Database β τ) σ]

/-- Runs steps in a transaction of their own.  A transaction that is dropped half-way is lost. -/
def runOutermost (steps : TransactionId → Work σ ε α) :
    Work σ (TransactionError DatabaseError ε) α := do
  let id ← ((begin : Work (Database β τ) _ _).mapError .begin).on
  match ← (steps id).outcome with
  | .done a =>
    ((within id Transaction.commit : Work (Database β τ) _ _).mapError .commit).on
    return a
  | .failed e =>
    -- The error of the steps comes first, even if they cannot be undone.
    match ← ((within id Transaction.rollback : Work (Database β τ) _ _).on).outcome with
    | .failed r => Work.fail (.rollbackFailed e r)
    | _ => Work.fail (.aborted e)
  | .panicked p =>
    -- The panic goes on, whatever comes of undoing the steps.
    let _ ← ((within id Transaction.rollback : Work (Database β τ) _ _).on).outcome
    Work.panic p
  | .suspended =>
    -- Nobody is left who could commit or roll back.
    Work.pend

/-- Runs steps in a savepoint of an open transaction. -/
def runNested (id : TransactionId) (steps : Work σ ε α) :
    Work σ (TransactionError DatabaseError ε) α := do
  let sp ← ((within id Transaction.openSavepoint : Work (Database β τ) _ _).mapError .begin).on
  match ← steps.outcome with
  | .done a =>
    ((within id (Transaction.release sp) : Work (Database β τ) _ _).mapError .release).on
    return a
  | .failed e =>
    match ← ((within id (Transaction.rollbackTo sp) : Work (Database β τ) _ _).on).outcome with
    | .failed r => Work.fail (.rollbackFailed e r)
    | _ => Work.fail (.aborted e)
  | .panicked p =>
    let _ ← ((within id (Transaction.rollbackTo sp) : Work (Database β τ) _ _).on).outcome
    Work.panic p
  | .suspended =>
    -- Going back to the savepoint has to wait until the transaction is used again.
    Work.modify fun s => Holds.set (change id (.abandon sp) (Holds.get s : Database β τ)) s
    Work.pend

/-- Runs steps as one unit of work. -/
def run (ctx : Context) (steps : Context → Work σ ε α) :
    Work σ (TransactionError DatabaseError ε) α :=
  match ctx.transaction? with
  | some id => runNested β id (steps ctx)
  | none => runOutermost β fun id => steps (ctx.withTransaction id)

end Database

end SharedPages
