import SharedPages.Connection
import SharedPages.Scenario.Stored

/-!
# Closures and what is seen of them

What the steps of a unit of work do on the recording store is a `Program`: it
acts through the clients of its context, looks at what comes of it, and runs
nested units, whose failure it may pass on or swallow, whose panic it may
catch, and whose future it may drop half-way. `Program.play` runs it with
`Database.run` for every unit.

`Program.trace` is what is seen of such a run from outside. It says nothing of
savepoints: which rows were written and read, and how every unit ended. The
rows that a run should commit are read off its trace (`Trace.granted`), and so
are those that it does commit (`Trace.surviving`).
-/

namespace SharedPages

/-! ## Programs -/

/-- Where a statement of a closure runs. -/
inductive Place where
  /-- On a connection of the unit, checked out for the time of the statement. -/
  | unit
  /-- On a connection of the transaction that was checked out before. -/
  | held
  /-- In a context without a transaction. -/
  | outside
deriving DecidableEq

/-- What a closure does to the database, and what it learns from it. -/
inductive Action : Type → Type where
  | insert (place : Place) (row : String) : Action Unit
  | read (place : Place) : Action (List String)
  | checkOut : Action Unit
  | giveBack : Action Unit
  /-- Changes the statements that fail. -/
  | inject (failures : List String) : Action Unit

/-- A closure that gives a value of type `α` or fails with an error of type `ε`. -/
inductive Program : Type → Type → Type 1 where
  | done {ε α : Type} (value : α) : Program ε α
  | fail {ε α : Type} (error : ε) : Program ε α
  | panic {ε α : Type} (payload : Panic) : Program ε α
  /-- Waits for ever, until it is dropped. -/
  | pend {ε α : Type} : Program ε α
  | act {ε α γ : Type} (action : Action γ) (next : Outcome DatabaseError γ → Program ε α) :
    Program ε α
  /-- Runs a nested unit. If that is suspended, it is dropped before the program goes on. -/
  | unit {ε α ε' α' : Type} (body : Program ε' α')
    (next : Outcome (TransactionError DatabaseError ε') α' → Program ε α) : Program ε α

namespace Database

variable {β τ γ : Type}

/-- A connection of the transaction is checked out. -/
def isHeld (id : TransactionId) (d : Database β τ) : Bool :=
  d.transactions[id.index]?.any (·.busy)

/-- A savepoint of the transaction is abandoned and waits to be settled. -/
def isUnsettled (id : TransactionId) (d : Database β τ) : Bool :=
  d.transactions[id.index]?.any fun t => !t.abandoned.isEmpty

/-- Works on a connection of the context's transaction that is checked out already. -/
def onHeld (ctx : Context) (w : Client → Work (Database β τ) DatabaseError γ) :
    Work (Database β τ) DatabaseError γ := fun d =>
  match ctx.transaction? with
  | some id => if d.isHeld id then w (.transaction id) d else (.failed .noActiveTransaction, d)
  | none => (.failed .noActiveTransaction, d)

/-- The rows that a connection of a client sees. -/
def visibleRows (client : Client) : Work (Database Store Session) DatabaseError (List String) :=
  fun d => (.done (Scenario.Stored.seenRows client d), d)

end Database

/-- Does what a closure asks for, in its context. -/
def Action.perform {γ : Type} (ctx : Context) :
    Action γ → Work (Database Store Session) DatabaseError γ
  | .insert .unit row => Database.statement (.ofContext .write ctx) ("INSERT " ++ row)
  | .insert .held row => Database.onHeld ctx (Database.execute ("INSERT " ++ row))
  | .insert .outside row => Database.statement (.pool .write) ("INSERT " ++ row)
  | .read .unit =>
    let client := Client.ofContext .read ctx
    Database.withConnection Store client id (Database.visibleRows client)
  | .read .held => Database.onHeld ctx Database.visibleRows
  | .read .outside =>
    Database.withConnection Store (.pool .read) id (Database.visibleRows (.pool .read))
  | .checkOut => Database.checkOut (.ofContext .write ctx)
  | .giveBack => Work.modify (Database.giveBack (.ofContext .write ctx))
  | .inject failures => Database.onBackend (Work.modify fun s => { s with failures })

/-- Plays a closure in a context. -/
def Program.play {ε α : Type} : Program ε α → Context → Work (Database Store Session) ε α
  | .done value, _ => Work.done value
  | .fail error, _ => Work.fail error
  | .panic payload, _ => Work.panic payload
  | .pend, _ => Work.pend
  | .act action next, ctx => (action.perform ctx).outcome >>= fun o => (next o).play ctx
  | .unit body next, ctx =>
    (Database.run Store ctx fun ctx => body.play ctx).outcome >>= fun o => (next o).play ctx

/-! ## Traces -/

/-- How a unit ended. -/
inductive Ending where
  /-- The unit could not be opened, so its closure never ran. -/
  | unopened
  | ok
  | failed
  | panicked
  /-- The future of the unit was dropped half-way. -/
  | dropped
deriving DecidableEq

/-- How a closure ends with an outcome. -/
def Ending.of {ε α : Type} : Outcome ε α → Ending
  | .done _ => ok
  | .failed _ => failed
  | .panicked _ => panicked
  | .suspended => dropped

/-- A closure that ended was opened. -/
theorem Ending.of_ne_unopened {ε α : Type} (o : Outcome ε α) : of o ≠ unopened := by
  cases o <;> (intro h; cases h)

/-- What is seen of an action. -/
inductive Note where
  /-- A row was written in the transaction. It is doomed if an abandoned savepoint was waiting to be
      settled. -/
  | wrote (row : String) (doomed : Bool)
  | wroteOutside (row : String)
  | read (rows : List String)
  | readOutside (rows : List String)
  /-- The action failed, while a connection of the transaction was checked out or not. -/
  | refused (place : Place) (held : Bool)
  | injected (failures : List String)
  | passed

/-- What is seen of a program. -/
inductive Trace where
  | nil
  | note (n : Note) (rest : Trace)
  /-- A unit ended. Its writes may have been undone, and a connection of the transaction may have
      been checked out when the unit was to be opened or when its closure ended. -/
  | unit (ending : Ending) (undone held : Bool) (inner rest : Trace)

/-- Where an action runs. -/
def Action.place {γ : Type} : Action γ → Place
  | .insert place _ | .read place => place
  | .checkOut | .giveBack | .inject _ => .unit

/-- What is seen of an action. -/
def Action.seen {γ : Type} (ctx : Context) (action : Action γ) (d : Database Store Session) :
    Note :=
  match action, action.perform ctx d with
  | .insert .outside row, (.done _, _) => .wroteOutside row
  | .insert _ row, (.done _, d') => .wrote row (ctx.transaction?.any (d'.isUnsettled ·))
  | .read .outside, (.done rows, _) => .readOutside rows
  | .read _, (.done rows, _) => .read rows
  | .inject failures, _ => .injected failures
  | _, (.done _, _) => .passed
  | _, _ => .refused action.place (ctx.transaction?.any (d.isHeld ·))

section Units

variable {ε α : Type} (play : Context → Work (Database Store Session) ε α)
  (trace : Context → Database Store Session → Trace)

/-- What is seen of a unit in an open transaction. What it wrote is undone if the rollback to its
    savepoint succeeds, or if the savepoint is abandoned. -/
def Trace.ofNested (id : TransactionId) (ctx : Context) (d : Database Store Session)
    (rest : Trace) : Trace :=
  match Database.within id Transaction.openSavepoint d with
  | (.done sp, d₁) =>
    let (o, d₂) := play ctx d₁
    let undone := match o with
      | .done _ => false
      | .failed _ | .panicked _ =>
        (Database.within id (Transaction.rollbackTo sp) d₂).1 = .done ()
      | .suspended => true
    .unit (.of o) undone (d.isHeld id || d₂.isHeld id) (trace ctx d₁) rest
  | _ => .unit .unopened true (d.isHeld id) .nil rest

/-- What is seen of a unit with a transaction of its own. What it wrote is undone unless the commit
    succeeds. -/
def Trace.ofOutermost (ctx : Context) (d : Database Store Session) (rest : Trace) : Trace :=
  match (Database.begin : Work (Database Store Session) _ _) d with
  | (.done id, d₁) =>
    let (o, d₂) := play (ctx.withTransaction id) d₁
    let undone := match o with
      | .done _ => (Database.within id Transaction.commit d₂).1 ≠ .done ()
      | _ => true
    .unit (.of o) undone (d₂.isHeld id) (trace (ctx.withTransaction id) d₁) rest
  | _ => .unit .unopened true false .nil rest

/-- What is seen of a unit. -/
def Trace.ofUnit (ctx : Context) (d : Database Store Session) (rest : Trace) : Trace :=
  match ctx.transaction? with
  | some id => .ofNested play trace id ctx d rest
  | none => .ofOutermost play trace ctx d rest

end Units

/-- What is seen of a program. -/
def Program.trace {ε α : Type} : Program ε α → Context → Database Store Session → Trace
  | .act action next, ctx, d =>
    let (o, d') := action.perform ctx d
    .note (action.seen ctx d) ((next o).trace ctx d')
  | .unit body next, ctx, d =>
    let (o, d') := Database.run Store ctx (fun ctx => body.play ctx) d
    .ofUnit (fun ctx => body.play ctx) (fun ctx => body.trace ctx) ctx d ((next o).trace ctx d')
  | _, _, _ => .nil

/-! ## Rows of a trace -/

namespace Note

/-- The rows that were committed at once. -/
def outside : Note → List String
  | wroteOutside row => [row]
  | _ => []

/-- The rows that were written in the transaction. -/
def written : Note → List String
  | wrote row _ => [row]
  | _ => []

/-- The rows that were written in the transaction while nothing was waiting to be settled. -/
def lasting : Note → List String
  | wrote row false => [row]
  | _ => []

end Note

namespace Trace

/-- The rows that were committed at once, in the order in which they were written. -/
def outside : Trace → List String
  | nil => []
  | note n rest => n.outside ++ rest.outside
  | unit _ _ _ inner rest => inner.outside ++ rest.outside

/-- The rows all of whose enclosing units ended well, in the order in which they were written. -/
def granted : Trace → List String
  | nil => []
  | note n rest => n.written ++ rest.granted
  | unit ending _ _ inner rest => (if ending = .ok then inner.granted else []) ++ rest.granted

/-- The rows that no enclosing unit undid and that were not doomed when they were written. -/
def surviving : Trace → List String
  | nil => []
  | note n rest => n.lasting ++ rest.surviving
  | unit _ undone _ inner rest => (if undone then [] else inner.surviving) ++ rest.surviving

end Trace

end SharedPages
