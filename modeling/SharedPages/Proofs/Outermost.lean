import SharedPages.Proofs.ProgramRows

/-!
# What an outermost unit commits

A unit in a context without a transaction begins one, and its steps find it
fresh. When they end well, the rows that survive in their trace are committed
in one step, unless the commit fails; in every other case nothing is committed.

## Key results

- `Database.begin_cases`: a transaction is begun, unless the statement fails
- `Program.run_rows`: what a run of an outermost unit commits
-/

namespace SharedPages

open OpenTransaction

variable {ε α : Type} {id : TransactionId} {ctx : Context} {t : OpenTransaction} {s : Store}
  {d d₁ d₂ : Database Store Session} {rows : List String}

theorem Context.transaction?_withTransaction (ctx : Context) (id : TransactionId) :
    (ctx.withTransaction id).transaction? = some id := by
  simp [transaction?, withTransaction, find?, bind, lookup?]

namespace Database

/-- A transaction is begun, unless the statement fails. It is journalled either way. -/
theorem begin_noted (d : Database Store Session) :
    (∃ e d', (begin : Work (Database Store Session) _ _) d = (.failed e, d') ∧
      d.backend.failures ≠ [] ∧ d'.backend = d.backend.noted "write" "BEGIN") ∨
    ∃ id d', (begin : Work (Database Store Session) _ _) d = (.done id, d') ∧
      d'.view id = some ((fresh "write").toTransaction, d.backend.noted "write" "BEGIN") := by
  have hrecord := Store.record_eq "write" "BEGIN" d.backend
  -- The statement is noted in the journal in either case.
  by_cases hfailing : d.backend.isFailing ⟨"write", "BEGIN"⟩
  · rw [if_pos hfailing] at hrecord
    have hbegin : onBackend (Backend.begin PoolRole.write) d =
        (.failed (Store.injected "BEGIN"),
          { d with backend := d.backend.noted "write" "BEGIN" }) := by
      have : Backend.begin PoolRole.write d.backend = _ := Work.bind_of_failed hrecord _
      simp only [onBackend, this]
    exact .inl ⟨_, _, Work.bind_of_failed hbegin _, Store.failures_ne_nil hfailing, rfl⟩
  · rw [if_neg hfailing] at hrecord
    have hbegin : onBackend (Backend.begin PoolRole.write) d =
        (.done (fresh "write").session, { d with backend := d.backend.noted "write" "BEGIN" }) := by
      have : Backend.begin PoolRole.write d.backend = _ := Work.bind_of_done hrecord _
      simp only [onBackend, this]
      rfl
    refine .inr ⟨_, _, Work.bind_of_done hbegin _, ?_⟩
    simp [view, fresh, toTransaction]

/-- A transaction is begun, unless the statement fails. -/
theorem begin_cases (d : Database Store Session) :
    (∃ e d', (begin : Work (Database Store Session) _ _) d = (.failed e, d') ∧
      d.backend.failures ≠ [] ∧ d.backend.Agrees d'.backend) ∨
    ∃ id d' s', (begin : Work (Database Store Session) _ _) d = (.done id, d') ∧
      d'.view id = some ((fresh "write").toTransaction, s') ∧ d.backend.Agrees s' := by
  rcases begin_noted d with ⟨e, d', hbegin, hfailing, hbackend⟩ | ⟨id, d', hbegin, hview⟩
  · exact .inl ⟨e, d', hbegin, hfailing, hbackend ▸ ⟨rfl, rfl⟩⟩
  · exact .inr ⟨id, d', _, hbegin, hview, rfl, rfl⟩

/-- A transaction that was just begun has no floor but the lowest. -/
theorem level_fresh (label : String) : Level 0 (fresh label) :=
  (ordered_fresh label).level (Nat.zero_le _) rfl

section Close

variable {t₂ : OpenTransaction} {s₂ : Store} (hlevel : Level 0 t₂)
  (hview₂ : d₂.view id = some (t₂.toTransaction, s₂))
include hview₂

include hlevel in
/-- A commit publishes the rows of the settled transaction, unless it fails. -/
theorem commit_rows :
    ∃ o d', within id Transaction.commit d₂ = (o, d') ∧
      (t₂.busy = true ∨ s₂.failures ≠ [] ∨ o = .done ()) ∧
      d'.backend.rows = s₂.rows ++ if o = .done () then t₂.settled.rows else [] := by
  obtain ⟨d', hcommit, hview'⟩ := within_of_view hview₂ Transaction.commit
  refine ⟨_, d', hcommit, ?_⟩
  have hbackend := (eq_of_view hview').2
  rw [commit_eq] at hbackend ⊢
  cases hgate : t₂.gate? s₂ with
  | some e =>
    simp only [hgate] at hbackend ⊢
    refine ⟨(hlevel.busy_or_failing_of_gate? hgate).imp_right .inl, ?_⟩
    simp [hbackend]
  | none =>
    simp only [hgate] at hbackend ⊢
    cases hfailing : s₂.isFailing ⟨t₂.label, "COMMIT"⟩ with
    | true =>
      -- The transaction ends, and its rows are lost.
      simp only [hfailing, if_true] at hbackend ⊢
      exact ⟨.inr (.inl (Store.failures_ne_nil hfailing)), by simp [hbackend]⟩
    | false =>
      simp only [hfailing, Bool.false_eq_true, if_false] at hbackend ⊢
      exact ⟨.inr (.inr trivial), by simp [hbackend]⟩

/-- A rollback publishes nothing. -/
theorem rollback_rows :
    ∃ o d', within id Transaction.rollback d₂ = (o, d') ∧ d'.backend.rows = s₂.rows := by
  obtain ⟨d', hrollback, hview'⟩ := within_of_view hview₂ Transaction.rollback
  refine ⟨_, d', hrollback, ?_⟩
  have hbackend := (eq_of_view hview').2
  rw [rollback_eq] at hbackend
  -- Whether it is refused, fails or succeeds makes no difference to the rows.
  split at hbackend
  · rw [hbackend]
  · rw [hbackend, Store.rows_noted]

include hlevel

/-- How an outermost unit ends that was begun: what it wrote is committed unless it is undone. It
    is undone whenever its closure does not end well, and if it does, then not unless a connection
    is checked out or statements fail. -/
theorem ofOutermost_of_opened (play : Context → Work (Database Store Session) ε α)
    (trace : Context → Database Store Session → Trace) {o : Outcome ε α}
    (hopen : (begin : Work (Database Store Session) _ _) d = (.done id, d₁))
    (hplay : play (ctx.withTransaction id) d₁ = (o, d₂)) :
    ∃ undone, (∀ rest, Trace.ofOutermost play trace ctx d rest =
        .unit (.of o) undone t₂.busy (trace (ctx.withTransaction id) d₁) rest) ∧
      (t₂.busy = true ∨ s₂.failures ≠ [] ∨ undone = decide (Ending.of o ≠ .ok)) ∧
      (undone = false ↔
        ∃ a, (runOutermost Store (fun id => play (ctx.withTransaction id)) d).1 = .done a) ∧
      (runOutermost Store (fun id => play (ctx.withTransaction id)) d).2.backend.rows =
        s₂.rows ++ if undone then [] else t₂.settled.rows := by
  have hheld := isHeld_of_view hview₂
  cases o with
  | done a =>
    -- Here the rows are undone just if the commit fails.
    obtain ⟨o, d₃, hcommit, hundone, hrows⟩ := commit_rows hlevel hview₂
    rw [runOutermost_of_done hopen hplay hcommit]
    refine ⟨decide (o ≠ .done ()), ?_, ?_, ?_, by simpa using hrows⟩
    · simp only [Trace.ofOutermost, hopen, hplay, hheld, hcommit, implies_true]
    · exact hundone.imp_right (.imp_right fun h => by simp [h, Ending.of])
    · cases o <;> simp [Outcome.map, Outcome.mapError]
  | failed e =>
    -- Whether the rollback succeeds or not, the rows were never committed.
    obtain ⟨o, d₃, hrollback, hrows⟩ := rollback_rows hview₂
    rw [runOutermost_of_failed hopen hplay hrollback]
    refine ⟨true, ?_, .inr (.inr rfl), by simp, by simpa using hrows⟩
    simp only [Trace.ofOutermost, hopen, hplay, hheld, implies_true]
  | panicked p =>
    obtain ⟨o, d₃, hrollback, hrows⟩ := rollback_rows hview₂
    rw [runOutermost_of_panicked hopen hplay hrollback]
    refine ⟨true, ?_, .inr (.inr rfl), by simp, by simpa using hrows⟩
    simp only [Trace.ofOutermost, hopen, hplay, hheld, implies_true]
  | suspended =>
    -- Nothing more is sent, and what is not committed is not seen by others.
    rw [runOutermost_of_suspended hopen hplay]
    refine ⟨true, ?_, .inr (.inr rfl), by simp, by simp [(eq_of_view hview₂).2]⟩
    simp only [Trace.ofOutermost, hopen, hplay, hheld, implies_true]

end Close

end Database

open Database

namespace Program

/-- Runs a closure as a unit of work. -/
def run (p : Program ε α) (ctx : Context) :
    Work (Database Store Session) (TransactionError DatabaseError ε) α :=
  Database.run Store ctx fun ctx => p.play ctx

/-- What is seen of a run. -/
def runTrace (p : Program ε α) (ctx : Context) (d : Database Store Session) : Trace :=
  .ofUnit (fun ctx => p.play ctx) (fun ctx => p.trace ctx) ctx d .nil

theorem run_outermost (hctx : ctx.transaction? = none) (p : Program ε α) :
    p.run ctx = runOutermost Store (fun id => p.play (ctx.withTransaction id)) := by
  simp only [run, Database.run, hctx]

theorem runTrace_outermost (hctx : ctx.transaction? = none) (p : Program ε α)
    (d : Database Store Session) :
    p.runTrace ctx d =
      .ofOutermost (fun ctx => p.play ctx) (fun ctx => p.trace ctx) ctx d .nil := by
  simp only [runTrace, Trace.ofUnit, hctx]

/-- What a run of an outermost unit commits: first the rows that were written outside, and then
    those that no unit undid. -/
theorem run_rows (hctx : ctx.transaction? = none) (p : Program ε α) (d : Database Store Session) :
    (p.run ctx d).2.backend.rows =
      d.backend.rows ++ (p.runTrace ctx d).outside ++ (p.runTrace ctx d).surviving := by
  rw [p.run_outermost hctx, p.runTrace_outermost hctx]
  rcases begin_cases d with ⟨e, d', hopen, -, hagrees⟩ | ⟨id, d₁, s₁, hopen, hview₁, hagrees⟩
  · rw [runOutermost_of_unopened hopen]
    simp [Trace.ofOutermost, hopen, Trace.outside, Trace.surviving, hagrees.rows]
  · obtain ⟨t₂, s₂, hview₂, hgrows, hrows⟩ :=
      p.play_grew (ctx.transaction?_withTransaction id) hview₁ (level_fresh "write")
    have hplayed : p.play (ctx.withTransaction id) d₁ =
      ((p.play (ctx.withTransaction id) d₁).1, (p.play (ctx.withTransaction id) d₁).2) := rfl
    obtain ⟨undone, htrace, -, -, hcommitted⟩ := ofOutermost_of_opened hgrows.level hview₂
      (fun ctx => p.play ctx) (fun ctx => p.trace ctx) hopen hplayed
    -- The transaction began without rows, so all that it has grew in the run.
    have hsettled : (fresh "write").settled.rows = [] := rfl
    rw [hcommitted, htrace, hrows, hagrees.rows, hgrows.rows_eq, hsettled]
    simp [Trace.outside, Trace.surviving]

end Program

end SharedPages
