import SharedPages.Connection
import SharedPages.Proofs.Statement

/-!
# Routines on any database

A `Routine` is a sequential piece of work that runs units and reaches a database
through clients of any kind, also through contexts and connections that escaped
from a unit that is over. It may look at whatever the database holds and go on
accordingly. The only thing it cannot do is to name savepoints: those are left
to `Database.run`.

A routine plays on every backend that keeps a recording store at its bottom
(`Recorder`). Forgetting everything but that store turns a database into one on
the recording store (`Database.bare`), and this is also what a routine sees of
it, so that it cannot tell one backend from another.
-/

namespace SharedPages

/-- Backends with a recording store at the bottom. -/
class Recorder (β : Type) (τ : outParam Type) extends Backend β τ where
  /-- The store at the bottom. -/
  store : β → Store
  /-- The session of that store behind a session. -/
  session : τ → Session
  /-- Changes the statements that fail. -/
  inject : List String → β → β

instance : Recorder Store Session where
  store := id
  session := id
  inject failures s := { s with failures }

/-- The transaction on another session. -/
def Transaction.map {τ υ : Type} (f : τ → υ) (t : Transaction τ) : Transaction υ :=
  { t with session := t.session.map f }

variable {β τ : Type} [Recorder β τ]

/-- The database on the store at the bottom. -/
def Database.bare (d : Database β τ) : Database Store Session where
  backend := Recorder.store d.backend
  transactions := d.transactions.map (.map (Recorder.session β))

/-- What a routine does to a database, and what it learns from it. -/
inductive Deed : Type → Type 1 where
  /-- Runs a statement on a connection that is checked out for the time of the statement. -/
  | statement (client : Client) (p : PlainStatement) : Deed Unit
  /-- Runs a statement on a connection that was checked out before. -/
  | execute (client : Client) (p : PlainStatement) : Deed Unit
  | checkOut (client : Client) : Deed Unit
  | giveBack (client : Client) : Deed Unit
  | look {γ : Type} (f : Database Store Session → γ) : Deed γ
  /-- Changes the statements that fail. -/
  | inject (failures : List String) : Deed Unit

/-- Work that gives a value of type `α` or fails with an error of type `ε`. -/
inductive Routine : Type → Type → Type 1 where
  | done {ε α : Type} (value : α) : Routine ε α
  | fail {ε α : Type} (error : ε) : Routine ε α
  | panic {ε α : Type} (payload : Panic) : Routine ε α
  /-- Waits for ever, until it is dropped. -/
  | pend {ε α : Type} : Routine ε α
  | act {ε α γ : Type} (deed : Deed γ) (next : Outcome DatabaseError γ → Routine ε α) :
    Routine ε α
  /-- Runs a unit. If that is suspended, it is dropped before the routine goes on. -/
  | unit {ε α ε' α' : Type} (ctx : Context) (body : Context → Routine ε' α')
    (next : Outcome (TransactionError DatabaseError ε') α' → Routine ε α) : Routine ε α

/-- Does what a routine asks for. -/
def Deed.perform {γ : Type} : Deed γ → Work (Database β τ) DatabaseError γ
  | .statement client p => Database.statement client p.text
  | .execute client p => Database.execute p.text client
  | .checkOut client => Database.checkOut client
  | .giveBack client => Work.modify (Database.giveBack client)
  | .look f => fun d => (.done (f d.bare), d)
  | .inject failures => Database.onBackend (Work.modify (Recorder.inject failures))

/-- Plays a routine. -/
def Routine.play {ε α : Type} : Routine ε α → Work (Database β τ) ε α
  | .done value => Work.done value
  | .fail error => Work.fail error
  | .panic payload => Work.panic payload
  | .pend => Work.pend
  | .act deed next => deed.perform.outcome >>= fun o => (next o).play
  | .unit ctx body next =>
    (Database.run β ctx fun ctx => (body ctx).play).outcome >>= fun o => (next o).play

end SharedPages
