import SharedPages.Backend

/-! # A recording database in memory

A `Store` keeps the rows that were committed and a journal of every statement, each with the label
of the pool that ran it.  It understands four statements and lets all others pass without effect:

* `INSERT r` adds the row `r`, at once or to the rows of the open transaction;
* `SAVEPOINT n` marks the place that the transaction has reached;
* `ROLLBACK TO SAVEPOINT n` goes back to the last mark of that name and keeps it;
* `RELEASE SAVEPOINT n` forgets that mark and all later ones.

A statement can be made to fail, on every pool or on one.  A statement that fails changes nothing
but the journal. -/

namespace SharedPages

/-- A journalled statement. -/
structure JournalEntry where
  label : String
  statement : String
deriving DecidableEq

/-- The text of a journal entry. -/
def JournalEntry.text (e : JournalEntry) : String := e.label ++ ": " ++ e.statement

/-- The state of the database. -/
structure Store where
  /-- The committed rows, oldest first. -/
  rows : List String := []
  /-- The statements that were run, newest first. -/
  journal : List JournalEntry := []
  /-- The statements, or texts of journal entries, that fail. -/
  failures : List String := []

/-- A place to which a transaction can go back: a name and the number of rows that it had. -/
structure Mark where
  name : String
  length : Nat
deriving DecidableEq

/-- A connection to the database. -/
structure Session where
  /-- The label of the pool that the connection belongs to. -/
  label : String
  /-- The rows that the open transaction has written, oldest first.  Without one, rows are committed
      at once. -/
  pending : Option (List String) := none
  /-- The open savepoints, innermost first. -/
  marks : List Mark := []
deriving DecidableEq

/-- What a statement means. -/
inductive Command where
  | insert (row : String)
  | savepoint (name : String)
  | rollbackTo (name : String)
  | release (name : String)
  | other
deriving DecidableEq

namespace Command

/-- What follows `word` at the start of a text. -/
def after? (word text : String) : Option String :=
  if word.toList.isPrefixOf text.toList then
    some (String.ofList (text.toList.drop word.toList.length))
  else none

/-- Reads a statement. -/
def ofText (text : String) : Command :=
  ((after? "INSERT " text).map insert <|>
    (after? "SAVEPOINT " text).map savepoint <|>
    (after? "ROLLBACK TO SAVEPOINT " text).map rollbackTo <|>
    (after? "RELEASE SAVEPOINT " text).map release).getD other

end Command

namespace Session

/-- A transaction is open. -/
def inTransaction (c : Session) : Bool := c.pending.isSome

/-- The rows that the connection sees: all that are committed, and then its own. -/
def visible (c : Session) (s : Store) : List String := s.rows ++ c.pending.getD []

/-- The marks from the last one of that name on, the innermost first. -/
def marksFrom (c : Session) (name : String) : List Mark := c.marks.dropWhile (·.name ≠ name)

/-- The error for a savepoint that is not open. -/
def missingSavepoint (name : String) : DatabaseError :=
  .queryFailed ("savepoint \"" ++ name ++ "\" does not exist")

/-- The error for a savepoint without a transaction. -/
def outsideTransaction : DatabaseError :=
  .queryFailed "SAVEPOINT can only be used in transaction blocks"

/-- Carries out a statement. -/
def apply (c : Session) (s : Store) : Command → Except DatabaseError (Session × Store)
  | .insert row =>
    match c.pending with
    | some rows => .ok ({ c with pending := some (rows ++ [row]) }, s)
    | none => .ok (c, { s with rows := s.rows ++ [row] })
  | .savepoint name =>
    match c.pending with
    | some rows => .ok ({ c with marks := ⟨name, rows.length⟩ :: c.marks }, s)
    | none => .error outsideTransaction
  | .rollbackTo name =>
    match c.marksFrom name with
    | mark :: marks =>
      -- The savepoint stays open and can be gone back to again.
      .ok ({ c with pending := c.pending.map (·.take mark.length), marks := mark :: marks }, s)
    | [] => .error (missingSavepoint name)
  | .release name =>
    match c.marksFrom name with
    | _ :: marks => .ok ({ c with marks }, s)
    | [] => .error (missingSavepoint name)
  | .other => .ok (c, s)

end Session

namespace Store

/-- Makes a statement fail from now on. -/
def fail (s : Store) (statement : String) : Store :=
  { s with failures := statement :: s.failures }

/-- Lets every statement succeed again. -/
def heal (s : Store) : Store := { s with failures := [] }

/-- The journal entries of that text. -/
def count (s : Store) (text : String) : Nat := s.journal.countP (·.text == text)

/-- The statement fails on the pool of that label. -/
def isFailing (s : Store) (e : JournalEntry) : Bool :=
  s.failures.contains e.statement || s.failures.contains e.text

/-- Journals a statement, which may be one that fails. -/
def record (label statement : String) : Work Store DatabaseError Unit := fun s =>
  let entry : JournalEntry := ⟨label, statement⟩
  let recorded := { s with journal := entry :: s.journal }
  if s.isFailing entry then (.failed (.queryFailed ("injected failure: " ++ statement)), recorded)
  else (.done (), recorded)

/-- Runs a statement on a connection. -/
def execute (text : String) : Work (Session × Store) DatabaseError Unit := fun (c, s) =>
  match record c.label text s with
  | (.done _, s) =>
    match c.apply s (.ofText text) with
    | .ok (c, s) => (.done (), c, s)
    | .error e => (.failed e, c, s)
  -- A statement that is made to fail is journalled, but it has no effect.
  | (o, s) => (o, c, s)

/-- A connection without a transaction. -/
def connection (label : String) : Session := { label }

/-- Begins a transaction on the pool of that label. -/
def begin (label : String) : Work Store DatabaseError Session := do
  record label "BEGIN"
  return { label, pending := some [] }

/-- Commits the transaction of a connection: its rows are appended to the others in one step. -/
def commit (c : Session) : Work Store DatabaseError Unit := do
  record c.label "COMMIT"
  Work.modify fun s => { s with rows := s.rows ++ c.pending.getD [] }

/-- Discards the rows of a connection's transaction. -/
def rollback (c : Session) : Work Store DatabaseError Unit := record c.label "ROLLBACK"

/-- Runs a statement that does nothing on the pool of that label. -/
def ping (label : String) : Work Store DatabaseError Unit := record label "SELECT 1"

/-- Closes the pool of that label, which journals it but has no other effect. -/
def close (label : String) : Work Store DatabaseError Unit := record label "CLOSE"

instance : Backend Store Session where
  acquire _ := Work.done ()
  executeAlone role text := fun s =>
    let (o, _, s) := execute text (connection role.name, s)
    (o, s)
  begin role := begin role.name
  execute := execute
  commit := commit
  rollback := rollback
  ping role := ping role.name
  close role := close role.name

end Store

end SharedPages
