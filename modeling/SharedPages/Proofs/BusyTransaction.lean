import SharedPages.Proofs.Program
import SharedPages.Proofs.Units

/-!
# What is attempted on a busy transaction

While a connection of a transaction is checked out, whatever is asked of the
transaction is refused, and so is every unit of work in it
(`Database.Refuses`). Each operation looks whether the transaction is busy before
it does anything else, so nothing is left of an attempt: no statement, no
savepoint number, and what waits to be settled goes on waiting.

So the attempts can be left out. A `Course` does whatever it likes with a database
and looks at all that comes of it; `Course.erased` is the same course, but what it
would attempt on the transaction while that is busy is not done, and the course
goes on as with the refusal. Both come to the same (`Course.play_erased`), and
everything else in them happens in the same order with the same results
(`Course.log_erased`).

## Key results

- `Database.refuses_of_held`: what is attempted on a busy transaction
- `Database.run_congr`: a unit depends on its steps only where it runs them
- `Course.play_erased`, `Course.log_erased`: courses without their attempts
- `Course.busy_inert`: all of it
-/

namespace SharedPages

open Database

/-! ## What is asked of a transaction -/

/-- What is asked of a transaction through its handle, and what it gives. -/
inductive Transaction.Request : Type → Type where
  | openSavepoint : Request Savepoint
  | rollbackTo (sp : Savepoint) : Request Unit
  | release (sp : Savepoint) : Request Unit
  | commit : Request Unit
  | rollback : Request Unit
  | checkOut : Request Unit

namespace Transaction.Request

variable {β τ γ : Type}

/-- Does what is asked. -/
def perform [Backend β τ] : Request γ → Work (Transaction τ × β) DatabaseError γ
  | openSavepoint => Transaction.openSavepoint
  | rollbackTo sp => Transaction.rollbackTo sp
  | release sp => Transaction.release sp
  | commit => Transaction.commit
  | rollback => Transaction.rollback
  | checkOut => Transaction.checkOut

/-- How a busy transaction refuses. Ending a savepoint fails with an error about that savepoint. -/
def busyError : Request γ → DatabaseError
  | rollbackTo sp => .savepoint sp.name .rollbackTo .transactionBusy
  | release sp => .savepoint sp.name .release .transactionBusy
  | openSavepoint | commit | rollback | checkOut => .transactionBusy

variable [Backend β τ] {t : Transaction τ}

/-- A busy transaction refuses whatever is asked, and nothing changes. -/
theorem perform_of_busy (h : t.busy = true) (request : Request γ) (b : β) :
    request.perform (t, b) = (.failed request.busyError, t, b) := by
  have hbusy : unlessBusy (t, b) = (.failed .transactionBusy, t, b) := unlessBusy_of_busy h b
  cases request with
  | openSavepoint => exact Work.bind_of_failed hbusy _
  | rollbackTo sp => exact Work.mapError_of_failed (Work.bind_of_failed hbusy _) _
  | release sp => exact Work.mapError_of_failed (Work.bind_of_failed hbusy _) _
  | commit => exact Work.bind_of_failed hbusy _
  | rollback => exact Work.bind_of_failed hbusy _
  | checkOut => exact Work.bind_of_failed hbusy _

end Transaction.Request

/-! ## Busy transactions of a database -/

namespace Database

variable {β τ γ ε α : Type} [Backend β τ] {id : TransactionId} {ctx : Context}
  {d d₁ : Database β τ}

/-- Whatever is asked of the transaction is refused, and so is every unit of work in it, whose steps
    do not run. Nothing changes. -/
structure Refuses (id : TransactionId) (d : Database β τ) : Prop where
  request : ∀ {γ : Type} (request : Transaction.Request γ),
    within id request.perform d = (.failed request.busyError, d)
  unit : ∀ {ε α : Type} (ctx : Context) (steps : Context → Work (Database β τ) ε α),
    ctx.transaction? = some id → run β ctx steps d = (.failed (.begin .transactionBusy), d)

theorem within_of_held (h : d.isHeld id = true) (request : Transaction.Request γ) :
    within id request.perform d = (.failed request.busyError, d) := by
  simp only [isHeld, Option.any_eq_true_iff_get] at h
  obtain ⟨hsome, hbusy⟩ := h
  exact within_of_unchanged (Option.some_get hsome).symm (request.perform_of_busy hbusy d.backend)

theorem refuses_of_held (h : d.isHeld id = true) : d.Refuses id where
  request := within_of_held h
  unit ctx steps hctx := by
    rw [run_of_transaction steps hctx]
    exact runNested_of_unopened (within_of_held h .openSavepoint)

/-- Opens a unit of work. This gives the context and the database that its steps find, if it can be
    opened. -/
def enter (ctx : Context) (d : Database β τ) : Option (Context × Database β τ) :=
  match ctx.transaction? with
  | some id =>
    match within id Transaction.openSavepoint d with
    | (.done _, d) => some (ctx, d)
    | _ => none
  | none =>
    match (begin : Work (Database β τ) _ _) d with
    | (.done id, d) => some (ctx.withTransaction id, d)
    | _ => none

theorem enter_of_held (hctx : ctx.transaction? = some id) (h : d.isHeld id = true) :
    enter ctx d = none := by
  have hopen : within id Transaction.openSavepoint d = (.failed .transactionBusy, d) :=
    within_of_held h .openSavepoint
  simp only [enter, hctx, hopen]

/-- A unit does the same with other steps, if these do the same where it runs them. -/
theorem run_congr {steps steps' : Context → Work (Database β τ) ε α}
    (h : ∀ c d₁, enter ctx d = some (c, d₁) → steps c d₁ = steps' c d₁) :
    run β ctx steps d = run β ctx steps' d := by
  cases hctx : ctx.transaction? with
  | some id =>
    rw [run_of_transaction steps hctx, run_of_transaction steps' hctx]
    -- The steps only run once the savepoint is there, so they agree where they are run.
    refine Work.bind_congr fun sp d₁ hopened => ?_
    have hopen : within id Transaction.openSavepoint d = (.done sp, d₁) :=
      Work.of_mapError_done hopened
    rw [Work.bind_outcome, Work.bind_outcome, h ctx d₁ (by simp only [enter, hctx, hopen])]
  | none =>
    rw [run_of_no_transaction steps hctx, run_of_no_transaction steps' hctx]
    refine Work.bind_congr fun id d₁ hbegun => ?_
    have hbegin : (begin : Work (Database β τ) _ _) d = (.done id, d₁) :=
      Work.of_mapError_done hbegun
    have hsame := h (ctx.withTransaction id) d₁ (by simp only [enter, hctx, hbegin])
    simp only [Work.bind_outcome, hsame]

end Database

/-! ## Courses -/

/-- Whatever is done with a database, one thing after the other, depending on what comes of it. It
    gives a value of type `α` or fails with an error of type `ε`. -/
inductive Course (β τ : Type) : Type → Type → Type 1 where
  | done {ε α : Type} (value : α) : Course β τ ε α
  | fail {ε α : Type} (error : ε) : Course β τ ε α
  | panic {ε α : Type} (payload : Panic) : Course β τ ε α
  /-- Waits for ever, until it is dropped. -/
  | pend {ε α : Type} : Course β τ ε α
  /-- Asks something of a transaction. -/
  | ask {ε α γ : Type} (id : TransactionId) (request : Transaction.Request γ)
    (next : Outcome DatabaseError γ → Course β τ ε α) : Course β τ ε α
  /-- Runs a unit. If that is suspended, it is dropped before the course goes on. -/
  | unit {ε α ε' α' : Type} (ctx : Context) (body : Context → Course β τ ε' α')
    (next : Outcome (TransactionError DatabaseError ε') α' → Course β τ ε α) : Course β τ ε α
  /-- Does anything else: runs statements on a connection that is checked out, or gives it back,
      drops a guard, changes the statements that fail, looks at the database. -/
  | work {ε α γ : Type} (w : Work (Database β τ) DatabaseError γ)
    (next : Outcome DatabaseError γ → Course β τ ε α) : Course β τ ε α

namespace Course

/-- What was done in a course, and what came of it. -/
inductive Event : Type 1 where
  /-- Something was asked of a transaction, while a connection of it was checked out or not. -/
  | asked {γ : Type} (id : TransactionId) (request : Transaction.Request γ) (held : Bool)
    (outcome : Outcome DatabaseError γ)
  /-- A unit was run in a transaction, while a connection of that was checked out or not, or a unit
      with a transaction of its own. -/
  | ran {ε α : Type} (transaction? : Option TransactionId) (held : Bool)
    (outcome : Outcome (TransactionError DatabaseError ε) α)
  | worked {γ : Type} (outcome : Outcome DatabaseError γ)

namespace Event

/-- Something was attempted on the transaction while a connection of it was checked out. -/
def isAttempt (id : TransactionId) : Event → Bool
  | asked id' _ held _ => id' = id && held
  | ran transaction? held _ => transaction? = some id && held
  | worked _ => false

/-- It failed because the transaction was busy. -/
def Refused : Event → Prop
  | asked _ request _ outcome => outcome = .failed request.busyError
  | ran _ _ outcome => outcome = .failed (.begin .transactionBusy)
  | worked _ => False

end Event

variable {β τ ε α γ : Type} [Backend β τ]

/-- Plays a course. -/
def play {ε α : Type} : Course β τ ε α → Work (Database β τ) ε α
  | done value => Work.done value
  | fail error => Work.fail error
  | panic payload => Work.panic payload
  | pend => Work.pend
  | ask id request next => (within id request.perform).outcome >>= fun o => (next o).play
  | unit ctx body next =>
    (Database.run β ctx fun ctx => (body ctx).play).outcome >>= fun o => (next o).play
  | work w next => w.outcome >>= fun o => (next o).play

/-- What is done when a course is played. The steps of a unit come before its end, if it is
    opened. -/
def log {ε α : Type} : Course β τ ε α → Database β τ → List Event
  | ask id request next, d =>
    let (o, d') := within id request.perform d
    .asked id request (d.isHeld id) o :: (next o).log d'
  | unit ctx body next, d =>
    let (o, d') := Database.run β ctx (fun ctx => (body ctx).play) d
    ((enter ctx d).elim [] fun start => (body start.1).log start.2) ++
    .ran ctx.transaction? (ctx.transaction?.any (d.isHeld ·)) o :: (next o).log d'
  | work w next, d =>
    let (o, d') := w d
    .worked o :: (next o).log d'
  | _, _ => []

/-- The course as it is played, without what it attempts on the transaction while that is busy.
    Instead of an attempt comes what follows it. -/
def erased (id : TransactionId) {ε α : Type} :
    Course β τ ε α → Database β τ → Course β τ ε α
  | ask id' request next, d =>
    if id' = id ∧ d.isHeld id = true then (next (.failed request.busyError)).erased id d
    else .ask id' request fun o => (next o).erased id (within id' request.perform d).2
  | unit ctx body next, d =>
    if ctx.transaction? = some id ∧ d.isHeld id = true then
      (next (.failed (.begin .transactionBusy))).erased id d
    else
      .unit ctx (fun c => (enter ctx d).elim (body c) fun start => (body c).erased id start.2)
        fun o => (next o).erased id (Database.run β ctx (fun ctx => (body ctx).play) d).2
  | work w next, d => .work w fun o => (next o).erased id (w d).2
  | p, _ => p

variable {id : TransactionId} {d : Database β τ}

/-! ## Courses without their attempts -/

theorem play_ask (id : TransactionId) (request : Transaction.Request γ)
    (next : Outcome DatabaseError γ → Course β τ ε α) (d : Database β τ) :
    (ask id request next).play d =
      (next (within id request.perform d).1).play (within id request.perform d).2 := rfl

theorem play_unit {ε' α' : Type} (ctx : Context) (body : Context → Course β τ ε' α')
    (next : Outcome (TransactionError DatabaseError ε') α' → Course β τ ε α) (d : Database β τ) :
    (unit ctx body next).play d =
      (next (Database.run β ctx (fun ctx => (body ctx).play) d).1).play
        (Database.run β ctx (fun ctx => (body ctx).play) d).2 := rfl

theorem erased_ask_of_held (h : d.isHeld id = true) (request : Transaction.Request γ)
    (next : Outcome DatabaseError γ → Course β τ ε α) :
    (ask id request next).erased id d = (next (.failed request.busyError)).erased id d :=
  if_pos ⟨rfl, h⟩

theorem erased_unit_of_held {ε' α' : Type} {ctx : Context} (hctx : ctx.transaction? = some id)
    (h : d.isHeld id = true) (body : Context → Course β τ ε' α')
    (next : Outcome (TransactionError DatabaseError ε') α' → Course β τ ε α) :
    (unit ctx body next).erased id d = (next (.failed (.begin .transactionBusy))).erased id d :=
  if_pos ⟨hctx, h⟩

/-- A unit with steps that are erased for the database where they start. -/
theorem run_erased {ε' α' : Type} {ctx : Context} {body : Context → Course β τ ε' α'}
    (h : ∀ c d₁, ((body c).erased id d₁).play d₁ = (body c).play d₁) :
    Database.run β ctx (fun c => ((enter ctx d).elim (body c)
        fun start => (body c).erased id start.2).play) d =
      Database.run β ctx (fun c => (body c).play) d :=
  run_congr fun c d₁ hentered => by
    rw [hentered]
    exact h c d₁

/-- A course comes to the same without what it attempts on a busy transaction. -/
theorem play_erased (id : TransactionId) (p : Course β τ ε α) (d : Database β τ) :
    (p.erased id d).play d = p.play d := by
  induction p generalizing d with
  | done | fail | panic | pend => rfl
  | ask id' request next ih =>
    -- A request is erased if it addresses the transaction while a session of it is held.
    by_cases hattempt : id' = id ∧ d.isHeld id = true
    · obtain ⟨rfl, hheld⟩ := hattempt
      rw [erased_ask_of_held hheld, play_ask, within_of_held hheld, ih]
    · rw [erased, if_neg hattempt, play_ask, play_ask, ih]
  | unit ctx body next ihbody ihnext =>
    -- So is a nested unit, and with it all its steps, since the savepoint is refused first.
    by_cases hattempt : ctx.transaction? = some id ∧ d.isHeld id = true
    · obtain ⟨hctx, hheld⟩ := hattempt
      rw [erased_unit_of_held hctx hheld, play_unit, (refuses_of_held hheld).unit ctx _ hctx,
        ihnext]
    · rw [erased, if_neg hattempt, play_unit, play_unit, run_erased ihbody, ihnext]
  | work w next ih => exact ih _ _

/-- Only the attempts are missing from what is done. -/
theorem log_erased (id : TransactionId) (p : Course β τ ε α) (d : Database β τ) :
    (p.erased id d).log d = (p.log d).filter (!·.isAttempt id) := by
  induction p generalizing d with
  | done | fail | panic | pend => rfl
  | ask id' request next ih =>
    by_cases hattempt : id' = id ∧ d.isHeld id = true
    · obtain ⟨rfl, hheld⟩ := hattempt
      simp only [erased_ask_of_held hheld, log, within_of_held hheld, ih]
      rw [List.filter_cons_of_neg (by simp [Event.isAttempt, hheld])]
    · have hkept : (id' = id && d.isHeld id') = false := by
        by_cases hid : id' = id
        · simpa [hid] using hattempt
        · simp [hid]
      simp only [erased, if_neg hattempt, log, ih]
      rw [List.filter_cons_of_pos (by simp only [Event.isAttempt, hkept, Bool.not_false])]
  | unit ctx body next ihbody ihnext =>
    by_cases hattempt : ctx.transaction? = some id ∧ d.isHeld id = true
    · obtain ⟨hctx, hheld⟩ := hattempt
      have hrun := (refuses_of_held hheld).unit ctx (fun c => (body c).play) hctx
      simp only [erased_unit_of_held hctx hheld, log, hrun, enter_of_held hctx hheld,
        Option.elim_none, List.nil_append, ihnext]
      rw [List.filter_cons_of_neg (by simp [Event.isAttempt, hctx, hheld])]
    · have hkept : (ctx.transaction? = some id && ctx.transaction?.any (d.isHeld ·)) = false := by
        by_cases hid : ctx.transaction? = some id
        · simpa [hid] using hattempt
        · simp [hid]
      -- the steps start where the erased ones were made for
      have hsteps : ((enter ctx d).elim [] fun start =>
            ((enter ctx d).elim (body start.1) fun s => (body start.1).erased id s.2).log start.2) =
          ((enter ctx d).elim [] fun start => (body start.1).log start.2).filter
            (!·.isAttempt id) := by
        cases enter ctx d with
        | none => rfl
        | some start => exact ihbody start.1 start.2
      simp only [erased, if_neg hattempt, log, run_erased fun c d₁ => play_erased id (body c) d₁,
        ihnext, List.filter_append, hsteps]
      rw [List.filter_cons_of_pos (by simp only [Event.isAttempt, hkept, Bool.not_false])]
  | work w next ih =>
    simp only [erased, log, ih]
    rw [List.filter_cons_of_pos rfl]

/-- What is attempted on a busy transaction is refused. -/
theorem refused_of_isAttempt (p : Course β τ ε α) (d : Database β τ) :
    ∀ e ∈ p.log d, e.isAttempt id = true → e.Refused := by
  induction p generalizing d with
  | done | fail | panic | pend => simp [log]
  | ask id' request next ih =>
    -- The event is the request itself, or it belongs to what comes after the answer.
    intro e he hattempt
    rcases List.mem_cons.mp he with rfl | he
    · obtain ⟨-, hheld⟩ := by simpa [Event.isAttempt] using hattempt
      exact congrArg Prod.fst (within_of_held hheld request)
    · exact ih _ _ e he hattempt
  | unit ctx body next ihbody ihnext =>
    intro e he hattempt
    rcases List.mem_append.mp he with he | he
    · -- If the unit could not be entered, its steps left no events.
      cases hentered : enter ctx d with
      | none => simp [hentered] at he
      | some start =>
        rw [hentered] at he
        exact ihbody start.1 start.2 e he hattempt
    rcases List.mem_cons.mp he with rfl | he
    · obtain ⟨hctx, hheld⟩ := by simpa [Event.isAttempt] using hattempt
      replace hheld : d.isHeld id = true := by simpa [hctx] using hheld
      have hrun := (refuses_of_held hheld).unit ctx (fun c => (body c).play) hctx
      exact congrArg Prod.fst hrun
    · exact ihnext _ _ e he hattempt
  | work w next ih =>
    intro e he hattempt
    rcases List.mem_cons.mp he with rfl | he
    · cases hattempt
    · exact ih _ _ e he hattempt

/-- A busy transaction is inert: it refuses whatever is attempted, and a course comes to the same,
    with the same database in the end and the same events in between, if nothing is attempted. -/
theorem busy_inert (id : TransactionId) (p : Course β τ ε α) (d : Database β τ) :
    (d.isHeld id = true → d.Refuses id) ∧
      (∀ e ∈ p.log d, e.isAttempt id = true → e.Refused) ∧
      (p.erased id d).play d = p.play d ∧
      (p.erased id d).log d = (p.log d).filter (!·.isAttempt id) :=
  ⟨refuses_of_held, refused_of_isAttempt p d, play_erased id p d, log_erased id p d⟩

/-- Attempts everything there is on a transaction, and then goes on. -/
def attempting (id : TransactionId) (sp : Savepoint) (p : Course β τ ε α) : Course β τ ε α :=
  .ask id .openSavepoint fun _ => .ask id (.rollbackTo sp) fun _ => .ask id (.release sp) fun _ =>
  .ask id .commit fun _ => .ask id .rollback fun _ => .ask id .checkOut fun _ =>
  .unit (Context.background.withTransaction id) (fun _ => (.done () : Course β τ Unit Unit))
    fun _ => p

/-- Writes a row on a connection while an abandoned savepoint waits, gives the connection back, and
    goes on with a unit and the commit. -/
def resuming : Course Store Session DatabaseError Unit :=
  attempting ⟨0⟩ ⟨1⟩ <|
  .work (execute "INSERT b" (.transaction ⟨0⟩)) fun _ =>
  attempting ⟨0⟩ ⟨1⟩ <|
  .work (Work.modify (giveBack (.transaction ⟨0⟩))) fun _ =>
  .unit (Context.background.withTransaction ⟨0⟩)
    (fun ctx => .work (Database.statement (.ofContext .write ctx) "INSERT c") fun _ =>
      (.done () : Course Store Session DatabaseError Unit)) fun _ =>
  .ask ⟨0⟩ .commit fun _ => .done ()

/-- Fourteen attempts are refused, and without them the statements are the same: the abandoned
    savepoint is settled once the connection is back, and the next one has the number two. -/
theorem busy_inert_resuming :
    let t : Transaction Session :=
      { session := some ⟨"write", some ["a"], [⟨"sp_0001", 1⟩]⟩, issued := 1, abandoned := [⟨1⟩],
        busy := true }
    let d : Database Store Session := { backend := {}, transactions := #[t] }
    d.Refuses ⟨0⟩ ∧ (resuming.log d).length = 19 ∧
      ((resuming.erased ⟨0⟩ d).log d).length = 5 ∧
      ((resuming.erased ⟨0⟩ d).play d).2.backend.rows = ["a", "c"] ∧
      ((resuming.erased ⟨0⟩ d).play d).2.backend.journal.reverse.map (·.statement) =
        ["INSERT b", "ROLLBACK TO SAVEPOINT sp_0001", "SAVEPOINT sp_0002", "INSERT c",
          "RELEASE SAVEPOINT sp_0002", "COMMIT"] := by
  intro t d
  obtain ⟨hrefuses, -, hplay, hlog⟩ := busy_inert ⟨0⟩ resuming d
  rw [hplay, hlog]
  exact ⟨hrefuses rfl, by decide +kernel, by decide +kernel, by decide +kernel,
    by decide +kernel⟩

end Course

end SharedPages
