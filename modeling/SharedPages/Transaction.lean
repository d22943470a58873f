import SharedPages.Backend
import SharedPages.Savepoint

/-! # Transactions

A transaction owns an open session, until it is committed or rolled back: the first of the two
consumes the session, and afterwards every operation is refused.  It also numbers the savepoints
opened in it, and remembers those that were *abandoned*, because the work in them was dropped
half-way.  Each operation but rolling back settles the abandoned ones before it does anything else,
by going back to the earliest.

While a connection of the transaction is checked out, it is *busy* and refuses every operation. -/

namespace SharedPages

/-- A transaction on a session of type `τ`. -/
structure Transaction (τ : Type) where
  session : Option τ
  /-- Savepoints opened so far, or at least tried to. -/
  issued : Nat := 0
  abandoned : List Savepoint := []
  busy : Bool := false

namespace Transaction

variable {β τ : Type}

/-- The earliest of the abandoned savepoints. -/
def earliest? (t : Transaction τ) : Option Savepoint :=
  t.abandoned.foldl (fun earliest sp =>
    match earliest with
    | some first => if sp.seq < first.seq then some sp else some first
    | none => some sp) none

/-- A short description, which shows nothing. -/
def description : String := "TxnHandle \x7b .. \x7d"

/-- Changes the transaction. -/
def update (f : Transaction τ → Transaction τ) : Work (Transaction τ × β) DatabaseError Unit :=
  Work.modify fun (t, b) => (f t, b)

/-- Refuses to go on while a connection is checked out. -/
def unlessBusy : Work (Transaction τ × β) DatabaseError Unit := fun (t, b) =>
  if t.busy then (.failed .transactionBusy, t, b) else (.done (), t, b)

/-- Refuses to go on without a session. -/
def ifActive : Work (Transaction τ × β) DatabaseError Unit := fun (t, b) =>
  if t.session.isSome then (.done (), t, b) else (.failed .noActiveTransaction, t, b)

/-- Takes the session away. -/
def take : Work (Transaction τ × β) DatabaseError τ := fun (t, b) =>
  match t.session with
  | some session => (.done session, { t with session := none }, b)
  | none => (.failed .noActiveTransaction, t, b)

/-- Work on the database behind the transaction. -/
def onBackend {α : Type} (w : Work β DatabaseError α) : Work (Transaction τ × β) DatabaseError α :=
  fun (t, b) => ((w b).1, t, (w b).2)

variable [Backend β τ]

/-- Runs a statement in the session. -/
def send (text : String) : Work (Transaction τ × β) DatabaseError Unit := fun (t, b) =>
  match t.session with
  | some session =>
    -- A statement that fails leaves the session open.
    let (o, session, b) := Backend.execute text (session, b)
    (o, { t with session := some session }, b)
  | none => (.failed .noActiveTransaction, t, b)

/-- Goes back to the earliest abandoned savepoint, if there is one and the session is open.  That
    discards what was written in every later one, too. -/
def settle : Work (Transaction τ × β) DatabaseError Unit := fun (t, b) =>
  match t.earliest?, t.session with
  | some sp, some _ =>
    (do
      (send sp.rollbackStatement).mapError (.savepoint sp.name .rollbackTo)
      update fun t => { t with abandoned := [] } : Work _ _ _) (t, b)
  | _, _ => (.done (), t, b)

/-- Commits. -/
def commit : Work (Transaction τ × β) DatabaseError Unit := do
  unlessBusy
  -- What is abandoned must not be committed.
  settle
  let session ← take
  onBackend (Backend.commit session)

/-- Rolls back.  Abandoned savepoints need no care, for all that was written is discarded. -/
def rollback : Work (Transaction τ × β) DatabaseError Unit := do
  unlessBusy
  let session ← take
  update fun t => { t with abandoned := [] }
  onBackend (Backend.rollback session)

/-- Opens a savepoint.  Its number is used up even if the statement fails. -/
def openSavepoint : Work (Transaction τ × β) DatabaseError Savepoint := do
  unlessBusy
  settle
  ifActive
  update fun t => { t with issued := t.issued + 1 }
  -- Numbers begin at one.
  let sp : Savepoint := ⟨(← Work.state).1.issued⟩
  (send sp.createStatement).mapError (.savepoint sp.name .create)
  return sp

/-- Discards what was written since a savepoint was opened. -/
def rollbackTo (sp : Savepoint) : Work (Transaction τ × β) DatabaseError Unit :=
  (do
    unlessBusy
    settle
    send sp.rollbackStatement : Work _ _ _).mapError (.savepoint sp.name .rollbackTo)

/-- Merges what was written since a savepoint was opened into the enclosing scope. -/
def release (sp : Savepoint) : Work (Transaction τ × β) DatabaseError Unit :=
  (do
    unlessBusy
    settle
    send sp.releaseStatement : Work _ _ _).mapError (.savepoint sp.name .release)

/-- Checks the connection out: the transaction is busy until it is given back. -/
def checkOut : Work (Transaction τ × β) DatabaseError Unit := do
  unlessBusy
  settle
  ifActive
  update fun t => { t with busy := true }

omit [Backend β τ]

/-- Gives the connection back. -/
def giveBack (t : Transaction τ) : Transaction τ := { t with busy := false }

/-- Marks a savepoint as abandoned. -/
def abandon (sp : Savepoint) (t : Transaction τ) : Transaction τ :=
  { t with abandoned := sp :: t.abandoned }

/-- The transaction was neither committed nor rolled back. -/
def isActive (t : Transaction τ) : Bool := t.session.isSome

/-- Looks at the transaction, which has to wait while a connection is checked out. -/
def inspect {α : Type} (f : Transaction τ → α) : Work (Transaction τ × β) DatabaseError α :=
  fun (t, b) => if t.busy then (.suspended, t, b) else (.done (f t), t, b)

/-! ## What the parts of an operation give -/

variable {t : Transaction τ}

theorem unlessBusy_of_busy (h : t.busy = true) (b : β) :
    unlessBusy (t, b) = (.failed .transactionBusy, t, b) := if_pos h

theorem unlessBusy_of_idle (h : t.busy = false) (b : β) :
    unlessBusy (t, b) = (.done (), t, b) := if_neg (by simp [h])

theorem take_of_some {session : τ} (h : t.session = some session) (b : β) :
    take (t, b) = (.done session, { t with session := none }, b) := by
  simp only [take, h]

theorem take_of_none (h : t.session = none) (b : β) :
    take (t, b) = (.failed .noActiveTransaction, t, b) := by
  simp only [take, h]

end Transaction

end SharedPages
