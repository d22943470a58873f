import SharedPages.Connection
import SharedPages.Repository.Memory
import SharedPages.Scenario.Step
import SharedPages.UnitOfWork

/-! # The state of a scenario

What the steps of a scenario work on: a database, users and pages in memory, what earlier steps
saved under names, and the trace. -/

namespace SharedPages.Scenario

/-- Values under names. -/
abbrev Named (α : Type) := List (String × α)

/-- Puts a value under a name, in place of what was there. -/
def Named.set {α : Type} (names : Named α) (name : String) (a : α) : Named α :=
  (name, a) :: names.filter (·.1 ≠ name)

/-- Forgets what is under a name. -/
def Named.erase {α : Type} (names : Named α) (name : String) : Named α :=
  names.filter (·.1 ≠ name)

/-- What a step gives. -/
inductive Value where
  | nothing
  | flag (b : Bool)
  | flags (bs : List Bool)
  | number (n : Nat)
  | text (s : String)
  | texts (ss : List String)
  | user (u : Option User)
  | page (p : Option Page)
  | pages (ps : List Page)
  /-- The identifiers and titles of pages. -/
  | titles (ps : List Page)
  | savepoint (sp : Savepoint)
  | client (c : Client)
  /-- What a context has under a key. -/
  | bound (value : Option Json) (ctx : Context)
  /-- What a connection sees that was checked out of a client. -/
  | visible (client : Client) (label : String) (inTransaction : Bool) (rows : List String)

/-- The state of a scenario on a database of type `β` that logs statements of type `ℓ`. -/
structure World (β τ ℓ : Type) where
  database : Database β τ
  memory : Memory := {}
  supply : Supply := {}
  inlineCalls : InlineCalls := {}
  contexts : Named Context := []
  clients : Named Client := []
  handles : Named TransactionId := []
  savepoints : Named Savepoint := []
  /-- The clients of the connections that are checked out. -/
  connections : Named Client := []
  users : Named User := []
  pages : Named Page := []
  /-- The entries of the trace, newest first. -/
  trace : List (Entry Value ℓ) := []
  /-- How many statements the trace shows. -/
  shown : Nat := 0

namespace World

variable {β τ ℓ : Type}

instance : Holds (Database β τ) (World β τ ℓ) :=
  ⟨World.database, fun d w => { w with database := d }⟩

instance : Holds Memory (World β τ ℓ) := ⟨World.memory, fun m w => { w with memory := m }⟩

instance : Holds Supply (World β τ ℓ) := ⟨World.supply, fun s w => { w with supply := s }⟩

instance : Holds InlineCalls (World β τ ℓ) :=
  ⟨World.inlineCalls, fun c w => { w with inlineCalls := c }⟩

/-- Adds an entry to the trace, with the statements that it does not show yet.  `log` gives all
    statements, newest first. -/
def note (log : β → List ℓ) (path : List Nat) (label : String) (remark : Remark Value)
    (w : World β τ ℓ) : World β τ ℓ :=
  let statements := log w.database.backend
  let count := statements.length
  { w with
    trace := ⟨path, label, remark, (statements.take (count - w.shown)).reverse⟩ :: w.trace
    shown := count }

/-- Work of the services for users. -/
def ofUserWork {α : Type} (w : Work (World β τ ℓ) UserError α) : Work (World β τ ℓ) Failure α :=
  w.mapError .user

/-- Work of the services for pages. -/
def ofPageWork {α : Type} (w : Work (World β τ ℓ) PageError α) : Work (World β τ ℓ) Failure α :=
  w.mapError .page

/-- Work on the database. -/
def ofDatabaseWork {α : Type} (w : Work (Database β τ) DatabaseError α) :
    Work (World β τ ℓ) Failure α :=
  (w.mapError .database).on

/-- Changes the world. -/
def change (f : World β τ ℓ → World β τ ℓ) : Work (World β τ ℓ) Failure Unit := Work.modify f

/-- What is under a name, or the fault that there is nothing. -/
def named {α : Type} (what : String) (names : World β τ ℓ → Named α) (name : String) :
    Work (World β τ ℓ) Failure α := do
  Work.orFail (.fault (.unknown what)) ((names (← Work.state)).lookup name)

/-- Fails because of how the step was written. -/
def refuse {α : Type} (fault : Fault) : Work (World β τ ℓ) Failure α := Work.fail (.fault fault)

/-- What the step was written with, unless that is a fault. -/
def written {α : Type} (x : Except Fault α) : Work (World β τ ℓ) Failure α :=
  Work.ofExcept (x.mapError .fault)

end World

end SharedPages.Scenario
