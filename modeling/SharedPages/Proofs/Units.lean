import SharedPages.Connection

/-!
# Units of work, end by end

A unit of work is opened, its steps run, and it is closed in a way that depends
on how they ended. This file says what `Database.runNested` and
`Database.runOutermost` give in each of these cases, and how work on one
transaction of a database is seen in its `view`. Steps that end with a value or an
error may also work on more than the database, and then the unit is opened and
closed on the database in their state.

## Key results

- `within_of_view`: work on a transaction is work on what is seen of it
- `runNested_of_unopened_on`, `runNested_of_done_on`, `runNested_of_failed_on`,
  `runOutermost_of_unopened_on`, `runOutermost_of_done_on`, `runOutermost_of_failed_on`
- `runNested_of_done`, `runNested_of_failed`, `runNested_of_panicked`, `runNested_of_suspended`
- `runOutermost_of_done`, `runOutermost_of_failed`, `runOutermost_of_panicked`,
  `runOutermost_of_suspended`
-/

namespace SharedPages

/-- What becomes of the error of steps when they are undone, which may fail as well. -/
def TransactionError.afterRollback {κ ε α : Type} (e : ε) : Outcome κ α → TransactionError κ ε
  | .failed r => .rollbackFailed e r
  | _ => .aborted e

namespace Work

variable {π σ ε ε' α β : Type} {w : Work σ ε α} {s s' : σ}

/-- Work on a part of the state leaves the rest. -/
theorem on_of_eq [Holds π σ] {w : Work π ε α} {s : σ} {o : Outcome ε α} {p : π}
    (h : w (Holds.get s) = (o, p)) : w.on s = (o, Holds.set p s) := by
  simp only [Work.on, h]

theorem of_mapError_done {f : ε → ε'} {a : α} (h : w.mapError f s = (.done a, s')) :
    w s = (.done a, s') := by
  simp only [mapError, mapOutcome, Prod.mk.injEq] at h
  obtain ⟨ho, rfl⟩ := h
  cases hw : (w s).1 with
  | done a' =>
    rw [hw] at ho
    cases ho
    exact Prod.ext hw rfl
  | failed e => rw [hw] at ho; cases ho
  | panicked p => rw [hw] at ho; cases ho
  | suspended => rw [hw] at ho; cases ho

/-- What follows matters only where work is done. -/
theorem bind_congr {next next' : α → Work σ ε β}
    (h : ∀ a s', w s = (.done a, s') → next a s' = next' a s') :
    (w >>= next) s = (w >>= next') s := by
  cases hw : w s with
  | mk o s' =>
    cases o with
    | done a => rw [bind_of_done hw, bind_of_done hw, h a s' hw]
    | failed e => rw [bind_of_failed hw, bind_of_failed hw]
    | panicked p => rw [bind_of_panicked hw, bind_of_panicked hw]
    | suspended => rw [bind_of_suspended hw, bind_of_suspended hw]

end Work

namespace Database

variable {β τ ε ε' α : Type} {id : TransactionId} {d d₁ d₂ d₃ : Database β τ}

/-! ## Transactions of a database -/

/-- A transaction, with the database behind it. -/
def view (id : TransactionId) (d : Database β τ) : Option (Transaction τ × β) :=
  d.transactions[id.index]?.map fun t => (t, d.backend)

variable {p : Transaction τ × β}

theorem eq_of_view (h : d.view id = some p) :
    d.transactions[id.index]? = some p.1 ∧ d.backend = p.2 := by
  simp only [view, Option.map_eq_some_iff] at h
  obtain ⟨t, ht, rfl⟩ := h
  exact ⟨ht, rfl⟩

/-- Work on a transaction is work on what is seen of it. -/
theorem within_of_view (h : d.view id = some p)
    (w : Work (Transaction τ × β) DatabaseError α) :
    ∃ d', within id w d = ((w p).1, d') ∧ d'.view id = some (w p).2 := by
  obtain ⟨ht, hbackend⟩ := eq_of_view h
  -- The transaction is there, so what is put in its place is found there.
  have hlt : id.index < d.transactions.size := (Array.getElem?_eq_some_iff.mp ht).1
  refine ⟨_, by simp only [within, ht, hbackend]; rfl, ?_⟩
  simp [view, Array.getElem?_setIfInBounds_self_of_lt hlt]

/-- Work that leaves a transaction and the database behind it alone leaves everything alone. -/
theorem within_of_unchanged {t : Transaction τ} {w : Work (Transaction τ × β) DatabaseError α}
    {o : Outcome DatabaseError α} (ht : d.transactions[id.index]? = some t)
    (hw : w (t, d.backend) = (o, t, d.backend)) : within id w d = (o, d) := by
  have hset : d.transactions.setIfInBounds id.index t = d.transactions := by
    obtain ⟨hlt, rfl⟩ := Array.getElem?_eq_some_iff.mp ht
    rw [Array.setIfInBounds, dif_pos hlt, Array.set_getElem_self]
  simp only [within, ht, hw, hset]

theorem view_change (h : d.view id = some p) (f : Transaction τ → Transaction τ) :
    (change id f d).view id = some (f p.1, p.2) := by
  obtain ⟨ht, hbackend⟩ := eq_of_view h
  simp only [view, change, Array.getElem?_modify, ht, hbackend, if_true, Option.map_some]

theorem onBackend_of_view (h : d.view id = some p) (w : Work β ε α) :
    ∃ d', onBackend w d = ((w p.2).1, d') ∧ d'.view id = some (p.1, (w p.2).2) := by
  obtain ⟨ht, hbackend⟩ := eq_of_view h
  refine ⟨_, by simp only [onBackend, hbackend]; rfl, ?_⟩
  simp [view, ht]

/-! ## Connections -/

variable [Backend β τ] {client : Client}

theorem withConnection_of_done_on {σ : Type} [Holds (Database β τ) σ] {s s₂ : σ}
    {fault : DatabaseError → ε} {w : Work σ ε α} {o : Outcome ε α}
    (hcheckOut : checkOut client (Holds.get s : Database β τ) = (.done (), d₁))
    (hw : w (Holds.set d₁ s) = (o, s₂)) :
    withConnection β client fault w s =
      (o, Holds.set (giveBack client (Holds.get s₂ : Database β τ)) s₂) := by
  refine (Work.bind_of_done (Work.on_of_eq (Work.mapError_of_done hcheckOut fault)) _).trans ?_
  simp only [Work.ensuring, hw]

theorem withConnection_of_done {fault : DatabaseError → ε} {w : Work (Database β τ) ε α}
    {o : Outcome ε α} (hcheckOut : checkOut client d = (.done (), d₁)) (hw : w d₁ = (o, d₂)) :
    withConnection β client fault w d = (o, giveBack client d₂) :=
  withConnection_of_done_on hcheckOut hw

theorem withConnection_of_failed {fault : DatabaseError → ε} {w : Work (Database β τ) ε α}
    {e : DatabaseError} (hcheckOut : checkOut client d = (.failed e, d₁)) :
    withConnection β client fault w d = (.failed (fault e), d₁) := by
  have hon : ((checkOut client : Work (Database β τ) _ _).mapError fault).on d =
      (.failed (fault e), d₁) :=
    Work.mapError_of_failed hcheckOut fault
  rw [withConnection, Work.bind_of_failed hon]

/-! ## Which units are nested -/

section Run

variable {σ : Type} [Holds (Database β τ) σ] {ctx : Context} (steps : Context → Work σ ε α)

theorem run_of_transaction (hctx : ctx.transaction? = some id) :
    run β ctx steps = runNested β id (steps ctx) := by
  simp only [run, hctx]

theorem run_of_no_transaction (hctx : ctx.transaction? = none) :
    run β ctx steps = runOutermost β fun id => steps (ctx.withTransaction id) := by
  simp only [run, hctx]

end Run

/-! ## Units whose steps end with a value or an error -/

section OnState

variable {σ : Type} [Holds (Database β τ) σ] {s s₂ : σ} {sp : Savepoint}
  {o : Outcome DatabaseError Unit}

/-- Steps whose savepoint cannot be opened never run. -/
theorem runNested_of_unopened_on {steps : Work σ ε α} {e : DatabaseError}
    (hopen : within id Transaction.openSavepoint (Holds.get s) = (.failed e, d₁)) :
    runNested β id steps s = (.failed (.begin e), Holds.set d₁ s) :=
  Work.bind_of_failed (Work.on_of_eq (Work.mapError_of_failed hopen _)) _

theorem runNested_of_done_on {steps : Work σ ε α} {a : α}
    (hopen : within id Transaction.openSavepoint (Holds.get s) = (.done sp, d₁))
    (hsteps : steps (Holds.set d₁ s) = (.done a, s₂))
    (hrelease : within id (Transaction.release sp) (Holds.get s₂) = (o, d₃)) :
    runNested β id steps s = ((o.map fun _ => a).mapError .release, Holds.set d₃ s₂) := by
  refine (Work.bind_of_done (Work.on_of_eq (Work.mapError_of_done hopen _)) _).trans ?_
  rw [Work.bind_outcome, hsteps]
  cases o with
  | done =>
    exact Work.bind_of_done (Work.on_of_eq (Work.mapError_of_done hrelease _)) _
  | failed =>
    exact Work.bind_of_failed (Work.on_of_eq (Work.mapError_of_failed hrelease _)) _
  | panicked =>
    exact Work.bind_of_panicked (Work.on_of_eq (Work.mapError_of_panicked hrelease _)) _
  | suspended =>
    exact Work.bind_of_suspended (Work.on_of_eq (Work.mapError_of_suspended hrelease _)) _

theorem runNested_of_failed_on {steps : Work σ ε α} {e : ε}
    (hopen : within id Transaction.openSavepoint (Holds.get s) = (.done sp, d₁))
    (hsteps : steps (Holds.set d₁ s) = (.failed e, s₂))
    (hrollback : within id (Transaction.rollbackTo sp) (Holds.get s₂) = (o, d₃)) :
    runNested β id steps s = (.failed (.afterRollback e o), Holds.set d₃ s₂) := by
  refine (Work.bind_of_done (Work.on_of_eq (Work.mapError_of_done hopen _)) _).trans ?_
  rw [Work.bind_outcome, hsteps]
  refine (Work.bind_outcome _ _ _).trans ?_
  rw [Work.on_of_eq hrollback]
  cases o <;> rfl

/-- Steps whose transaction cannot be begun never run. -/
theorem runOutermost_of_unopened_on {steps : TransactionId → Work σ ε α} {e : DatabaseError}
    (hopen : (begin : Work (Database β τ) _ _) (Holds.get s) = (.failed e, d₁)) :
    runOutermost β steps s = (.failed (.begin e), Holds.set d₁ s) :=
  Work.bind_of_failed (Work.on_of_eq (Work.mapError_of_failed hopen _)) _

theorem runOutermost_of_done_on {steps : TransactionId → Work σ ε α} {a : α}
    (hopen : (begin : Work (Database β τ) _ _) (Holds.get s) = (.done id, d₁))
    (hsteps : steps id (Holds.set d₁ s) = (.done a, s₂))
    (hcommit : within id Transaction.commit (Holds.get s₂) = (o, d₃)) :
    runOutermost β steps s = ((o.map fun _ => a).mapError .commit, Holds.set d₃ s₂) := by
  refine (Work.bind_of_done (Work.on_of_eq (Work.mapError_of_done hopen _)) _).trans ?_
  rw [Work.bind_outcome, hsteps]
  cases o with
  | done => exact Work.bind_of_done (Work.on_of_eq (Work.mapError_of_done hcommit _)) _
  | failed => exact Work.bind_of_failed (Work.on_of_eq (Work.mapError_of_failed hcommit _)) _
  | panicked =>
    exact Work.bind_of_panicked (Work.on_of_eq (Work.mapError_of_panicked hcommit _)) _
  | suspended =>
    exact Work.bind_of_suspended (Work.on_of_eq (Work.mapError_of_suspended hcommit _)) _

theorem runOutermost_of_failed_on {steps : TransactionId → Work σ ε α} {e : ε}
    (hopen : (begin : Work (Database β τ) _ _) (Holds.get s) = (.done id, d₁))
    (hsteps : steps id (Holds.set d₁ s) = (.failed e, s₂))
    (hrollback : within id Transaction.rollback (Holds.get s₂) = (o, d₃)) :
    runOutermost β steps s = (.failed (.afterRollback e o), Holds.set d₃ s₂) := by
  refine (Work.bind_of_done (Work.on_of_eq (Work.mapError_of_done hopen _)) _).trans ?_
  rw [Work.bind_outcome, hsteps]
  refine (Work.bind_outcome _ _ _).trans ?_
  rw [Work.on_of_eq hrollback]
  cases o <;> rfl

end OnState

/-! ## Nested units -/

section Nested

variable {steps : Work (Database β τ) ε α} {sp : Savepoint} {o : Outcome DatabaseError Unit}

theorem runNested_of_unopened {e : DatabaseError}
    (hopen : within id Transaction.openSavepoint d = (.failed e, d₁)) :
    runNested β id steps d = (.failed (.begin e), d₁) :=
  runNested_of_unopened_on hopen

variable (hopen : within id Transaction.openSavepoint d = (.done sp, d₁))
include hopen

theorem runNested_of_done {a : α} (hsteps : steps d₁ = (.done a, d₂))
    (hrelease : within id (Transaction.release sp) d₂ = (o, d₃)) :
    runNested β id steps d = ((o.map fun _ => a).mapError .release, d₃) :=
  runNested_of_done_on hopen hsteps hrelease

theorem runNested_of_failed {e : ε} (hsteps : steps d₁ = (.failed e, d₂))
    (hrollback : within id (Transaction.rollbackTo sp) d₂ = (o, d₃)) :
    runNested β id steps d = (.failed (.afterRollback e o), d₃) :=
  runNested_of_failed_on hopen hsteps hrollback

theorem runNested_of_panicked {p : Panic} (hsteps : steps d₁ = (.panicked p, d₂))
    (hrollback : within id (Transaction.rollbackTo sp) d₂ = (o, d₃)) :
    runNested β id steps d = (.panicked p, d₃) := by
  refine (Work.bind_of_done (Work.mapError_of_done hopen _) _).trans ?_
  rw [Work.bind_outcome, hsteps]
  refine (Work.bind_outcome _ _ _).trans ?_
  rw [Work.on_self, hrollback]
  rfl

theorem runNested_of_suspended (hsteps : steps d₁ = (.suspended, d₂)) :
    runNested β id steps d = (.suspended, change id (.abandon sp) d₂) := by
  refine (Work.bind_of_done (Work.mapError_of_done hopen _) _).trans ?_
  rw [Work.bind_outcome, hsteps]
  rfl

end Nested

/-! ## Outermost units -/

section Outermost

variable {steps : TransactionId → Work (Database β τ) ε α} {o : Outcome DatabaseError Unit}

theorem runOutermost_of_unopened {e : DatabaseError}
    (hopen : (begin : Work (Database β τ) _ _) d = (.failed e, d₁)) :
    runOutermost β steps d = (.failed (.begin e), d₁) :=
  runOutermost_of_unopened_on hopen

variable (hopen : (begin : Work (Database β τ) _ _) d = (.done id, d₁))
include hopen

theorem runOutermost_of_done {a : α} (hsteps : steps id d₁ = (.done a, d₂))
    (hcommit : within id Transaction.commit d₂ = (o, d₃)) :
    runOutermost β steps d = ((o.map fun _ => a).mapError .commit, d₃) :=
  runOutermost_of_done_on hopen hsteps hcommit

theorem runOutermost_of_failed {e : ε} (hsteps : steps id d₁ = (.failed e, d₂))
    (hrollback : within id Transaction.rollback d₂ = (o, d₃)) :
    runOutermost β steps d = (.failed (.afterRollback e o), d₃) :=
  runOutermost_of_failed_on hopen hsteps hrollback

theorem runOutermost_of_panicked {p : Panic} (hsteps : steps id d₁ = (.panicked p, d₂))
    (hrollback : within id Transaction.rollback d₂ = (o, d₃)) :
    runOutermost β steps d = (.panicked p, d₃) := by
  refine (Work.bind_of_done (Work.mapError_of_done hopen _) _).trans ?_
  rw [Work.bind_outcome, hsteps]
  refine (Work.bind_outcome _ _ _).trans ?_
  rw [Work.on_self, hrollback]
  rfl

theorem runOutermost_of_suspended (hsteps : steps id d₁ = (.suspended, d₂)) :
    runOutermost β steps d = (.suspended, d₂) := by
  refine (Work.bind_of_done (Work.mapError_of_done hopen _) _).trans ?_
  rw [Work.bind_outcome, hsteps]
  rfl

end Outermost

end Database

end SharedPages
