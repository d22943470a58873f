import SharedPages.Proofs.Statement
import SharedPages.Transaction

/-!
# Open transactions as data

A transaction that is neither committed nor rolled back holds a session, whose
marks are the names of savepoints. `OpenTransaction` is the same as plain data,
with the savepoints themselves on the stack. Every operation is then a short
equation: what it answers, and which open transaction it leaves.

The operations share one gate (`gate?`): a transaction that is busy, or whose
earliest abandoned savepoint cannot be gone back to, refuses them all and stays
as it is. Behind the gate the transaction is settled (`settled`).

## Key results

- `send_text`: what a session answers to an order
- `settle_eq`: settling fails exactly when the earliest abandoned savepoint cannot be gone back to
- `checkOut_eq`, `openSavepoint_eq`, `rollbackTo_eq`, `release_eq`, `commit_eq`, `rollback_eq`
-/

namespace SharedPages

/-- A transaction with an open session. -/
structure OpenTransaction where
  /-- The label of the pool that the session belongs to. -/
  label : String
  /-- The rows written so far, oldest first. -/
  rows : List String := []
  /-- The open savepoints, innermost first, each with the number of rows that there were. -/
  marks : List (Savepoint × Nat) := []
  issued : Nat := 0
  abandoned : List Savepoint := []
  busy : Bool := false

namespace OpenTransaction

/-- A savepoint of the stack as a session marks it. -/
def markOf (m : Savepoint × Nat) : Mark := ⟨m.1.name, m.2⟩

/-- The session of the transaction. -/
def session (t : OpenTransaction) : Session where
  label := t.label
  pending := some t.rows
  marks := t.marks.map markOf

/-- The transaction itself. -/
def toTransaction (t : OpenTransaction) : Transaction Session where
  session := some t.session
  issued := t.issued
  abandoned := t.abandoned
  busy := t.busy

/-! ## Orders -/

/-- The stack from a savepoint on, or nothing if it is not open. -/
def marksFrom (t : OpenTransaction) (sp : Savepoint) : List (Savepoint × Nat) :=
  t.marks.dropWhile (·.1 ≠ sp)

/-- Carries out an order, as long as it is about a savepoint that is open. -/
def obey (t : OpenTransaction) : Order → Except DatabaseError OpenTransaction
  | .insert row => .ok { t with rows := t.rows ++ [row] }
  | .create sp => .ok { t with marks := (sp, t.rows.length) :: t.marks }
  | .rollbackTo sp =>
    match t.marksFrom sp with
    | m :: rest => .ok { t with rows := t.rows.take m.2, marks := m :: rest }
    | [] => .error (Session.missingSavepoint sp.name)
  | .release sp =>
    match t.marksFrom sp with
    | _ :: rest => .ok { t with marks := rest }
    | [] => .error (Session.missingSavepoint sp.name)

/-- Why the session refuses an order, if it does. -/
def refusal? (t : OpenTransaction) (s : Store) (o : Order) : Option DatabaseError :=
  if s.isFailing ⟨t.label, o.text⟩ then some (Store.injected o.text)
  else match t.obey o with
    | .ok _ => none
    | .error e => some e

/-- The transaction after an order, which may have been refused. -/
def after (t : OpenTransaction) (o : Order) : OpenTransaction :=
  match t.obey o with
  | .ok t' => t'
  | .error _ => t

/-- An order is about the rows and the stack, and about nothing else. -/
private theorem after_frame (t : OpenTransaction) (o : Order) :
    (t.after o).label = t.label ∧ (t.after o).issued = t.issued ∧
      (t.after o).abandoned = t.abandoned ∧ (t.after o).busy = t.busy := by
  cases o with
  | insert row => exact ⟨rfl, rfl, rfl, rfl⟩
  | create sp => exact ⟨rfl, rfl, rfl, rfl⟩
  | rollbackTo sp => simp only [after, obey]; cases t.marksFrom sp <;> exact ⟨rfl, rfl, rfl, rfl⟩
  | release sp => simp only [after, obey]; cases t.marksFrom sp <;> exact ⟨rfl, rfl, rfl, rfl⟩

@[simp] theorem label_after (t : OpenTransaction) (o : Order) : (t.after o).label = t.label :=
  (t.after_frame o).1

@[simp] theorem issued_after (t : OpenTransaction) (o : Order) :
    (t.after o).issued = t.issued :=
  (t.after_frame o).2.1

@[simp] theorem abandoned_after (t : OpenTransaction) (o : Order) :
    (t.after o).abandoned = t.abandoned :=
  (t.after_frame o).2.2.1

@[simp] theorem busy_after (t : OpenTransaction) (o : Order) : (t.after o).busy = t.busy :=
  (t.after_frame o).2.2.2

private theorem marksFrom_session (t : OpenTransaction) (sp : Savepoint) :
    t.session.marksFrom sp.name = (t.marksFrom sp).map markOf := by
  simp only [Session.marksFrom, session, marksFrom, List.dropWhile_map]
  -- The one search compares names and the other savepoints, which is the same by `name_inj`.
  congr 2
  funext m
  simp [markOf]

private theorem apply_session (t : OpenTransaction) (s : Store) (o : Order) :
    t.session.apply s o.command = (t.obey o).map fun t' => (t'.session, s) := by
  cases o with
  | insert row => rfl
  | create sp => rfl
  | rollbackTo sp =>
    simp only [Order.command, Session.apply, obey, marksFrom_session]
    cases t.marksFrom sp with
    | nil => rfl
    | cons m rest => simp [Except.map, session, markOf, Option.map]
  | release sp =>
    simp only [Order.command, Session.apply, obey, marksFrom_session]
    cases t.marksFrom sp with
    | nil => rfl
    | cons m rest => rfl

/-- What a store does with an order to the session. -/
theorem execute_text (t : OpenTransaction) (s : Store) (o : Order) :
    Store.execute o.text (t.session, s) =
      match t.refusal? s o with
      | none => (.done (), (t.after o).session, s.noted t.label o.text)
      | some e => (.failed e, t.session, s.noted t.label o.text) := by
  have hlabel : t.session.label = t.label := rfl
  simp only [Store.execute, Store.record_eq, hlabel, refusal?, after]
  by_cases hfail : s.isFailing ⟨t.label, o.text⟩
  · simp only [hfail, if_true]
  · simp only [hfail, Order.ofText_text, apply_session]
    cases t.obey o <;> rfl

/-- What the session answers to an order, and what becomes of the transaction. -/
theorem send_text (t : OpenTransaction) (s : Store) (o : Order) :
    Transaction.send o.text (t.toTransaction, s) =
      match t.refusal? s o with
      | none => (.done (), (t.after o).toTransaction, s.noted t.label o.text)
      | some e => (.failed e, t.toTransaction, s.noted t.label o.text) := by
  have hexecute : Backend.execute o.text (t.session, s) = Store.execute o.text (t.session, s) := rfl
  simp only [Transaction.send, toTransaction, hexecute, execute_text]
  cases t.refusal? s o <;> simp

/-! ## Settling abandoned savepoints -/

/-- The earliest of the abandoned savepoints. -/
def earliest? (t : OpenTransaction) : Option Savepoint := t.toTransaction.earliest?

/-- The earlier of a savepoint found before, if there is one, and the next. -/
private def earlier (found : Option Savepoint) (sp : Savepoint) : Option Savepoint :=
  match found with
  | some first => if sp.seq < first.seq then some sp else some first
  | none => some sp

private theorem earliest?_eq_foldl (t : OpenTransaction) :
    t.earliest? = t.abandoned.foldl earlier none := rfl

private theorem exists_earlier (found : Option Savepoint) (sp : Savepoint) :
    ∃ next, earlier found sp = some next ∧ (found = some next ∨ next = sp) ∧
      (∀ first, found = some first → next.seq ≤ first.seq) ∧ next.seq ≤ sp.seq := by
  cases found with
  | none =>
    refine ⟨sp, rfl, .inr rfl, ?_, Nat.le_refl _⟩
    rintro _ ⟨⟩
  | some first =>
    by_cases h : sp.seq < first.seq
    · refine ⟨sp, if_pos h, .inr rfl, ?_, Nat.le_refl _⟩
      rintro _ ⟨⟩
      omega
    · refine ⟨first, if_neg h, .inl rfl, ?_, by omega⟩
      rintro _ ⟨⟩
      exact Nat.le_refl _

private theorem foldl_earlier_eq_none {found : Option Savepoint} (sps : List Savepoint) :
    sps.foldl earlier found = none ↔ found = none ∧ sps = [] := by
  induction sps generalizing found with
  | nil => simp
  | cons x sps ih =>
    obtain ⟨next, hnext, -⟩ := exists_earlier found x
    simp [ih, hnext]

/-- The savepoint that the search ends with was among those searched, and none is earlier. -/
private theorem foldl_earlier_eq_some {sp : Savepoint} {found : Option Savepoint}
    (sps : List Savepoint) (h : sps.foldl earlier found = some sp) :
    (found = some sp ∨ sp ∈ sps) ∧ (∀ first, found = some first → sp.seq ≤ first.seq) ∧
      ∀ other ∈ sps, sp.seq ≤ other.seq := by
  -- Induction on what is still to be searched: `found` is the earliest of what was searched before.
  induction sps generalizing found with
  | nil => simp_all
  | cons x sps ih =>
    obtain ⟨next, hnext, horigin, hfound, hx⟩ := exists_earlier found x
    obtain ⟨hfrom, hle, hrest⟩ := ih h
    have hnextle : sp.seq ≤ next.seq := hle next hnext
    refine ⟨?_, fun first hfirst => Nat.le_trans hnextle (hfound first hfirst), ?_⟩
    · -- The search goes on with what it had found or with `x`, and one of the two may be the end.
      rw [hnext, Option.some.injEq] at hfrom
      grind
    · intro other hother
      rcases List.mem_cons.mp hother with rfl | hmem
      · exact Nat.le_trans hnextle hx
      · exact hrest other hmem

theorem earliest?_eq_none {t : OpenTransaction} : t.earliest? = none ↔ t.abandoned = [] := by
  rw [earliest?_eq_foldl, foldl_earlier_eq_none]
  simp

theorem mem_of_earliest? {t : OpenTransaction} {sp : Savepoint} (h : t.earliest? = some sp) :
    sp ∈ t.abandoned := by
  rw [earliest?_eq_foldl] at h
  simpa using (foldl_earlier_eq_some _ h).1

theorem earliest?_le {t : OpenTransaction} {sp other : Savepoint} (h : t.earliest? = some sp)
    (hmem : other ∈ t.abandoned) : sp.seq ≤ other.seq :=
  (foldl_earlier_eq_some _ h).2.2 other hmem

/-- Why the transaction cannot go back to its earliest abandoned savepoint, if it cannot. -/
def obstacle? (t : OpenTransaction) (s : Store) : Option DatabaseError :=
  match t.earliest? with
  | none => none
  | some sp => (t.refusal? s (.rollbackTo sp)).map (.savepoint sp.name .rollbackTo)

/-- The transaction once it went back to its earliest abandoned savepoint. -/
def settled (t : OpenTransaction) : OpenTransaction :=
  match t.earliest? with
  | none => t
  | some sp => { t.after (.rollbackTo sp) with abandoned := [] }

/-- The store once settling was tried. -/
def noteSettling (t : OpenTransaction) (s : Store) : Store :=
  match t.earliest? with
  | none => s
  | some sp => s.noted t.label (Order.rollbackTo sp).text

theorem settle_eq (t : OpenTransaction) (s : Store) :
    Transaction.settle (t.toTransaction, s) =
      match t.obstacle? s with
      | none => (.done (), t.settled.toTransaction, t.noteSettling s)
      | some e => (.failed e, t.toTransaction, t.noteSettling s) := by
  have hearliest : t.toTransaction.earliest? = t.earliest? := rfl
  have hsession : t.toTransaction.session = some t.session := rfl
  simp only [Transaction.settle, hearliest, hsession, obstacle?, settled, noteSettling]
  cases t.earliest? with
  | none => rfl
  | some sp =>
    have hsend := t.send_text s (.rollbackTo sp)
    -- What settling sends is the way back to the earliest savepoint that was abandoned.
    cases hrefusal : t.refusal? s (.rollbackTo sp) with
    | none =>
      rw [hrefusal] at hsend
      simp only [hrefusal, Option.map_none]
      exact Work.bind_of_done (Work.mapError_of_done hsend _) _
    | some e =>
      rw [hrefusal] at hsend
      simp only [hrefusal, Option.map_some]
      exact Work.bind_of_failed (Work.mapError_of_failed hsend _) _

@[simp] theorem label_settled (t : OpenTransaction) : t.settled.label = t.label := by
  simp only [settled]
  split <;> simp

@[simp] theorem issued_settled (t : OpenTransaction) : t.settled.issued = t.issued := by
  simp only [settled]
  split <;> simp

@[simp] theorem busy_settled (t : OpenTransaction) : t.settled.busy = t.busy := by
  simp only [settled]
  split <;> simp

/-- A settled transaction has nothing left to settle. -/
@[simp] theorem abandoned_settled (t : OpenTransaction) : t.settled.abandoned = [] := by
  simp only [settled]
  split
  · rename_i h
    exact earliest?_eq_none.mp h
  · rfl

theorem settled_of_abandoned_nil {t : OpenTransaction} (h : t.abandoned = []) : t.settled = t := by
  simp only [settled, earliest?_eq_none.mpr h]

@[simp] theorem rows_noteSettling (t : OpenTransaction) (s : Store) :
    (t.noteSettling s).rows = s.rows := by
  simp only [noteSettling]
  split <;> rfl

@[simp] theorem failures_noteSettling (t : OpenTransaction) (s : Store) :
    (t.noteSettling s).failures = s.failures := by
  simp only [noteSettling]
  split <;> rfl

/-! ## The gate before the operations -/

/-- Why the transaction refuses every operation but rolling back, if it does. -/
def gate? (t : OpenTransaction) (s : Store) : Option DatabaseError :=
  if t.busy then some .transactionBusy else t.obstacle? s

/-- The store once the gate was tried. -/
def noteGate (t : OpenTransaction) (s : Store) : Store := if t.busy then s else t.noteSettling s

@[simp] theorem rows_noteGate (t : OpenTransaction) (s : Store) :
    (t.noteGate s).rows = s.rows := by
  simp only [noteGate]
  split <;> simp

@[simp] theorem failures_noteGate (t : OpenTransaction) (s : Store) :
    (t.noteGate s).failures = s.failures := by
  simp only [noteGate]
  split <;> simp

theorem busy_of_gate?_none {t : OpenTransaction} {s : Store} (h : t.gate? s = none) :
    t.busy = false := by
  simp only [gate?] at h
  split at h
  · cases h
  · rename_i hbusy
    simpa using hbusy

theorem obstacle?_of_gate?_none {t : OpenTransaction} {s : Store} (h : t.gate? s = none) :
    t.obstacle? s = none := by
  simpa [gate?, busy_of_gate?_none h] using h

section Operations

variable {α : Type} (t : OpenTransaction) (s : Store)

/-- What stands behind the gate finds the transaction settled, and a closed gate leaves the
    transaction as it is. -/
theorem gate_eq (next : Work (Transaction Session × Store) DatabaseError α) :
    (do Transaction.unlessBusy; Transaction.settle; next : Work _ _ _) (t.toTransaction, s) =
      match t.gate? s with
      | none => next (t.settled.toTransaction, t.noteGate s)
      | some e => (.failed e, t.toTransaction, t.noteGate s) := by
  cases hbusy : t.busy with
  | true =>
    -- A held session closes the gate before anything is sent.
    have hunless := Transaction.unlessBusy_of_busy (t := t.toTransaction) hbusy s
    rw [Work.bind_of_failed hunless]
    simp only [gate?, noteGate, hbusy, if_true]
  | false =>
    -- Otherwise the gate is as open as settling is successful.
    have hunless := Transaction.unlessBusy_of_idle (t := t.toTransaction) hbusy s
    have hsettle := t.settle_eq s
    rw [Work.bind_of_done hunless]
    simp only [gate?, noteGate, hbusy, Bool.false_eq_true, if_false]
    cases hobstacle : t.obstacle? s with
    | none =>
      rw [hobstacle] at hsettle
      rw [Work.bind_of_done hsettle]
    | some e =>
      rw [hobstacle] at hsettle
      rw [Work.bind_of_failed hsettle]

theorem checkOut_eq :
    Transaction.checkOut (t.toTransaction, s) =
      match t.gate? s with
      | none => (.done (), { t.settled with busy := true }.toTransaction, t.noteGate s)
      | some e => (.failed e, t.toTransaction, t.noteGate s) := by
  rw [Transaction.checkOut, gate_eq]
  split
  · rfl
  · rfl

/-- The savepoint that is opened next. -/
def next : Savepoint := ⟨t.issued + 1⟩

/-- The settled transaction once the number of the next savepoint is used up. -/
def numbered : OpenTransaction := { t.settled with issued := t.issued + 1 }

theorem openSavepoint_eq :
    Transaction.openSavepoint (t.toTransaction, s) =
      match t.gate? s with
      | some e => (.failed e, t.toTransaction, t.noteGate s)
      | none =>
        match t.numbered.refusal? (t.noteGate s) (.create t.next) with
        | none =>
          (.done t.next, (t.numbered.after (.create t.next)).toTransaction,
            (t.noteGate s).noted t.label (Order.create t.next).text)
        | some e =>
          (.failed (.savepoint t.next.name .create e), t.numbered.toTransaction,
            (t.noteGate s).noted t.label (Order.create t.next).text) := by
  rw [Transaction.openSavepoint, gate_eq]
  cases t.gate? s with
  | some e => rfl
  | none =>
    have hactive : Transaction.ifActive (t.settled.toTransaction, t.noteGate s) =
        (.done (), t.settled.toTransaction, t.noteGate s) := rfl
    have hnumber : Transaction.update (fun t => { t with issued := t.issued + 1 })
        (t.settled.toTransaction, t.noteGate s) =
          (.done (), t.numbered.toTransaction, t.noteGate s) := by
      simp [Transaction.update, Work.modify, toTransaction, numbered, session]
    -- The statement is sent once the number is used up, so it is answered by `numbered`.
    have hlabel : t.numbered.label = t.label := by simp [numbered]
    have hsend := t.numbered.send_text (t.noteGate s) (.create t.next)
    rw [hlabel] at hsend
    simp only
    rw [Work.bind_of_done hactive, Work.bind_of_done hnumber, Work.bind_state]
    cases hrefusal : t.numbered.refusal? (t.noteGate s) (.create t.next) with
    | none =>
      rw [hrefusal] at hsend
      exact Work.bind_of_done (Work.mapError_of_done hsend _) _
    | some e =>
      rw [hrefusal] at hsend
      exact Work.bind_of_failed (Work.mapError_of_failed hsend _) _

/-- What an order gives that is sent behind the gate, where errors are told of a savepoint. -/
theorem gated_send_eq (o : Order) (f : DatabaseError → DatabaseError) :
    Work.mapError f (do Transaction.unlessBusy; Transaction.settle; Transaction.send o.text)
        (t.toTransaction, s) =
      match t.gate? s with
      | some e => (.failed (f e), t.toTransaction, t.noteGate s)
      | none =>
        let noted := (t.noteGate s).noted t.label o.text
        match t.settled.refusal? (t.noteGate s) o with
        | none => (.done (), (t.settled.after o).toTransaction, noted)
        | some e => (.failed (f e), t.settled.toTransaction, noted) := by
  have hgate := t.gate_eq s (Transaction.send o.text)
  -- Two things can fail, the gate and then the statement, and both errors are wrapped alike.
  cases hclosed : t.gate? s with
  | some e =>
    rw [hclosed] at hgate
    exact Work.mapError_of_failed hgate _
  | none =>
    rw [hclosed] at hgate
    simp only [send_text, label_settled] at hgate
    cases hrefusal : t.settled.refusal? (t.noteGate s) o with
    | none =>
      rw [hrefusal] at hgate
      exact Work.mapError_of_done hgate _
    | some e =>
      rw [hrefusal] at hgate
      exact Work.mapError_of_failed hgate _

theorem rollbackTo_eq (sp : Savepoint) :
    Transaction.rollbackTo sp (t.toTransaction, s) =
      match t.gate? s with
      | some e => (.failed (.savepoint sp.name .rollbackTo e), t.toTransaction, t.noteGate s)
      | none =>
        match t.settled.refusal? (t.noteGate s) (.rollbackTo sp) with
        | none =>
          (.done (), (t.settled.after (.rollbackTo sp)).toTransaction,
            (t.noteGate s).noted t.label (Order.rollbackTo sp).text)
        | some e =>
          (.failed (.savepoint sp.name .rollbackTo e), t.settled.toTransaction,
            (t.noteGate s).noted t.label (Order.rollbackTo sp).text) :=
  t.gated_send_eq s (.rollbackTo sp) _

theorem release_eq (sp : Savepoint) :
    Transaction.release sp (t.toTransaction, s) =
      match t.gate? s with
      | some e => (.failed (.savepoint sp.name .release e), t.toTransaction, t.noteGate s)
      | none =>
        match t.settled.refusal? (t.noteGate s) (.release sp) with
        | none =>
          (.done (), (t.settled.after (.release sp)).toTransaction,
            (t.noteGate s).noted t.label (Order.release sp).text)
        | some e =>
          (.failed (.savepoint sp.name .release e), t.settled.toTransaction,
            (t.noteGate s).noted t.label (Order.release sp).text) :=
  t.gated_send_eq s (.release sp) _

/-- What is left of the transaction once its session is gone. -/
def closed : Transaction Session := { session := none, issued := t.issued }

/-- A commit that passes the gate ends the transaction, and publishes its rows unless the
    statement fails. -/
theorem commit_eq :
    Transaction.commit (t.toTransaction, s) =
      match t.gate? s with
      | some e => (.failed e, t.toTransaction, t.noteGate s)
      | none =>
        let noted := (t.noteGate s).noted t.label "COMMIT"
        if s.isFailing ⟨t.label, "COMMIT"⟩ then (.failed (Store.injected "COMMIT"), t.closed, noted)
        else (.done (), t.closed, { noted with rows := s.rows ++ t.settled.rows }) := by
  rw [Transaction.commit, gate_eq]
  cases hgate : t.gate? s with
  | some e => rfl
  | none =>
    have htake : Transaction.take (t.settled.toTransaction, t.noteGate s) =
        (.done t.settled.session, t.closed, t.noteGate s) := by
      simp [Transaction.take, toTransaction, closed, busy_of_gate?_none hgate]
    -- The gate only adds to the journal, so behind it the same statements fail.
    have hfailing : (t.noteGate s).isFailing ⟨t.label, "COMMIT"⟩ =
        s.isFailing ⟨t.label, "COMMIT"⟩ := by
      simp [Store.isFailing]
    have hrecord := Store.record_eq t.label "COMMIT" (t.noteGate s)
    rw [hfailing] at hrecord
    have hlabel : t.settled.session.label = t.label := t.label_settled
    have hcommit : Backend.commit t.settled.session = Store.commit t.settled.session := rfl
    simp only
    rw [Work.bind_of_done htake, Transaction.onBackend, hcommit, Store.commit, hlabel]
    split
    · rename_i hfail
      rw [if_pos hfail] at hrecord
      simp only [Work.bind_of_failed hrecord]
    · rename_i hfail
      rw [if_neg hfail] at hrecord
      simp only [Work.bind_of_done hrecord]
      simp [Work.modify, session]

/-- A rollback that is not refused as busy ends the transaction, whatever its statement says. -/
theorem rollback_eq :
    Transaction.rollback (t.toTransaction, s) =
      if t.busy then (.failed .transactionBusy, t.toTransaction, s)
      else
        let failing := s.isFailing ⟨t.label, "ROLLBACK"⟩
        (if failing then .failed (Store.injected "ROLLBACK") else .done (), t.closed,
          s.noted t.label "ROLLBACK") := by
  cases hbusy : t.busy with
  | true =>
    have hunless := Transaction.unlessBusy_of_busy (t := t.toTransaction) hbusy s
    rw [Transaction.rollback, Work.bind_of_failed hunless, if_pos rfl]
  | false =>
    have hunless := Transaction.unlessBusy_of_idle (t := t.toTransaction) hbusy s
    -- There is no settling here: what is abandoned is forgotten once the session is taken.
    have htake : Transaction.take (t.toTransaction, s) =
        (.done t.session, { t.closed with abandoned := t.abandoned }, s) := by
      simp [Transaction.take, toTransaction, closed, hbusy]
    rw [Transaction.rollback, Work.bind_of_done hunless, Work.bind_of_done htake]
    have hrecord := Store.record_eq t.label "ROLLBACK" s
    have hrollback : Backend.rollback t.session s = Store.record t.label "ROLLBACK" s := rfl
    simp [Work.bind_modify, Transaction.update, Transaction.onBackend, hrollback, hrecord, closed]

end Operations

end OpenTransaction

end SharedPages
