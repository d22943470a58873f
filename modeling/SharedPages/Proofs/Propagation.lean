import SharedPages.Proofs.Outermost
import SharedPages.Proofs.Watched
import SharedPages.UnitOfWork

/-!
# What becomes of a failure in nested units

A service runs steps as a unit of work, and passes on the error of the unit as an
error of its own (`UnitError.ofTransaction`). Its steps may do the same, and so
on, to any depth (`nested`). Where the innermost steps fail, every unit around
them is undone in turn, and some of them perhaps cannot be.

The error arrives at the top as it is, except for one layer for each unit that
could not be undone, which holds what the database said to that. Panics arrive
untouched.

Between the end of the innermost steps and the end of all there is nothing but
the units being undone. What decides about each of them can thus be read off the
database at the end of the innermost steps (`Undo.failure?`): whether its own
statement is made to fail, and for a nested unit also whether something was
abandoned that cannot be settled.

## Key results

- `Database.rollbackTo_unwinds`: undoing a nested unit, and what stays for the units around it
- `nested_of_panicked`: panics pass through
- `nested_of_failed`, `nested_of_failed_outermost`: the units inside a transaction, and around it
- `nested_propagates`: all units
-/

namespace SharedPages

open OpenTransaction Database

/-! ## Errors of units -/

/-- Errors that the failure of a unit of work can be turned into. -/
class UnitError (ε : Type) extends Report ε where
  /-- The error that is a failed unit. -/
  transaction : TransactionError Cause ε → ε
  /-- What a failed unit is turned into. -/
  ofTransaction : TransactionError Cause ε → ε
  ofTransaction_aborted (e : ε) : ofTransaction (.aborted e) = e
  ofTransaction_rollbackFailed (e : ε) (r : Cause) :
    ofTransaction (.rollbackFailed e r) = transaction (.rollbackFailed e r)
  message_transaction (t : TransactionError Cause ε) : message (transaction t) = t.message

instance : UnitError UserError where
  transaction := .transaction
  ofTransaction := .ofTransaction
  ofTransaction_aborted _ := rfl
  ofTransaction_rollbackFailed _ _ := rfl
  message_transaction := UserError.message_transaction

instance : UnitError PageError where
  transaction := .transaction
  ofTransaction := .ofTransaction
  ofTransaction_aborted _ := rfl
  ofTransaction_rollbackFailed _ _ := rfl
  message_transaction := PageError.message_transaction

namespace UnitError

variable {ε : Type} [UnitError ε]

/-- An error inside layers of units that failed and could not be undone. The causes are what the
    database said when it should undo them, that of the outermost layer first. -/
inductive Wraps (e : ε) : List Cause → ε → Prop where
  | bare : Wraps e [] e
  | layer {inner : ε} {r : Cause} {rs : List Cause} (t : TransactionError Cause ε)
      (source : t.source? = some inner) (rollback : t.rollback? = some r)
      (rest : Wraps e rs inner) : Wraps e (r :: rs) (transaction t)

/-- What becomes of the error of steps, once it was tried to undo them. -/
def layered (e : ε) : Option DatabaseError → ε
  | none => e
  | some r => transaction (.rollbackFailed e (.database r))

theorem ofTransaction_afterRollback {α : Type} (e : ε) (o : Outcome DatabaseError α) :
    ofTransaction ((TransactionError.afterRollback e o).mapCause .database) =
      layered e o.error? := by
  cases o with
  | failed r => exact ofTransaction_rollbackFailed e (.database r)
  | done | panicked | suspended => exact ofTransaction_aborted e

end UnitError

/-- A part of the text is the other text. -/
def Report.Mentions (text part : String) : Prop := ∃ before after, text = before ++ part ++ after

namespace Report.Mentions

variable {text part whole : String}

theorem refl (text : String) : Mentions text text := ⟨"", "", by simp⟩

theorem trans (h : Mentions whole text) (h' : Mentions text part) : Mentions whole part := by
  obtain ⟨before, after, rfl⟩ := h
  obtain ⟨before', after', rfl⟩ := h'
  exact ⟨before ++ before', after' ++ after, by simp only [String.append_assoc]⟩

/-- A unit that could not be undone speaks of its source and of the failure to undo it. -/
theorem of_rollbackFailed {κ ε : Type} [Report κ] [Report ε] (e : ε) (r : κ) :
    Mentions (TransactionError.rollbackFailed e r).message (message e) ∧
      Mentions (TransactionError.rollbackFailed e r).message (message r) := by
  constructor
  · refine ⟨Report.of "rollback error" (message r) ++ ", " ++ ("original error" ++ ": "), "", ?_⟩
    simp [TransactionError.message, Report.both, Report.of, -String.reduceAppend,
      String.append_assoc]
  · refine ⟨"rollback error" ++ ": ", ", " ++ Report.of "original error" (message e), ?_⟩
    simp [TransactionError.message, Report.both, Report.of, -String.reduceAppend,
      String.append_assoc]

end Report.Mentions

open Report in
/-- An error in layers speaks of the innermost error, and of every failure to undo a unit. -/
theorem UnitError.Wraps.mentions {ε : Type} [UnitError ε] {e top : ε} {rs : List Cause}
    (h : Wraps e rs top) :
    Mentions (message top) (message e) ∧ ∀ r ∈ rs, Mentions (message top) (message r) := by
  induction h with
  | bare => exact ⟨.refl _, fun r hr => absurd hr List.not_mem_nil⟩
  | @layer inner r rs t source rollback rest ih =>
    obtain rfl : t = .rollbackFailed inner r := by
      cases t <;> simp_all [TransactionError.source?, TransactionError.rollback?]
    obtain ⟨hsource, hrollback⟩ := Mentions.of_rollbackFailed inner r
    rw [message_transaction]
    refine ⟨hsource.trans ih.1, ?_⟩
    rintro r' (_ | ⟨_, hr'⟩)
    · exact hrollback
    · exact hsource.trans (ih.2 r' hr')

/-! ## Nested units -/

variable {ε α : Type} {id : TransactionId} {ctx ctx' : Context} {t t' t₀ t₂ : OpenTransaction}
  {s s' s₂ : Store} {d d' d₁ d₂ d₃ : Database Store Session} {floor : Nat} {rows : List String}

/-- The steps of a unit around another unit. -/
structure Stage (ε α : Type) where
  before : Program ε Unit
  /-- What follows if the other unit succeeds. -/
  after : α → Program ε α

/-- How a unit is undone. -/
inductive Undo where
  | whole
  | savepoint (sp : Savepoint)
deriving DecidableEq

/-- The steps of a unit, with the other unit among them. If that fails, they pass its error on. -/
def Stage.steps (stage : Stage ε α) (other : Context → Work (Database Store Session) ε α)
    (ctx : Context) : Work (Database Store Session) ε α := do
  stage.before.play ctx
  let a ← other ctx
  (stage.after a).play ctx

/-- Runs units, each of them inside the one before, and steps inside them all. -/
def nested [UnitError ε] (inner : Program ε α) :
    List (Stage ε α) → Context → Work (Database Store Session) ε α
  | [], ctx => inner.play ctx
  | stage :: stages, ctx =>
    (UnitRunner.onDatabase Store ε α ctx (stage.steps (nested inner stages))).mapError
      UnitError.ofTransaction

/-- Runs the first steps of a unit that was opened, if they succeed. -/
def Stage.prepare (stage : Stage ε α) (u : Undo) (ctx : Context) (d : Database Store Session) :
    Option (Undo × Context × Database Store Session) :=
  match stage.before.play ctx d with
  | (.done _, d) => some (u, ctx, d)
  | _ => none

/-- Opens a unit and runs its first steps: how it is to be undone, the context of its steps, and the
    database. -/
def Stage.enter (stage : Stage ε α) (ctx : Context) (d : Database Store Session) :
    Option (Undo × Context × Database Store Session) :=
  match ctx.transaction? with
  | none =>
    match (begin : Work (Database Store Session) _ _) d with
    | (.done id, d) => stage.prepare .whole (ctx.withTransaction id) d
    | _ => none
  | some id =>
    match within id Transaction.openSavepoint d with
    | (.done sp, d) => stage.prepare (.savepoint sp) ctx d
    | _ => none

/-- Enters units, each of them inside the one before: how they are to be undone, the outermost
    first, and what the innermost steps find. -/
def descend : List (Stage ε α) → Context → Database Store Session →
    Option (List Undo × Context × Database Store Session)
  | [], ctx, d => some ([], ctx, d)
  | stage :: stages, ctx, d => do
    let (u, ctx, d) ← stage.enter ctx d
    let (us, ctx, d) ← descend stages ctx d
    return (u :: us, ctx, d)

namespace Database

/-- Why the transaction cannot settle what was abandoned, if it cannot. -/
def obstacle? (id : TransactionId) (d : Database Store Session) : Option DatabaseError :=
  (within id Transaction.settle d).1.error?

/-- The error of a statement of the transaction that is made to fail. -/
def injected? (id : TransactionId) (statement : String) (d : Database Store Session) :
    Option DatabaseError :=
  match d.transactions[id.index]?.bind (·.session) with
  | some c =>
    if d.backend.isFailing ⟨c.label, statement⟩ then some (Store.injected statement) else none
  | none => none

end Database

/-- Why a unit cannot be undone, if it cannot. -/
def Undo.failure? (id : TransactionId) (d : Database Store Session) : Undo → Option DatabaseError
  | whole => d.injected? id "ROLLBACK"
  | savepoint sp => (d.obstacle? id <|> d.injected? id sp.rollbackStatement).map
      (.savepoint sp.name .rollbackTo)

/-! ## Entering a unit -/

section Enter

variable {stage : Stage ε α} {u : Undo}

theorem Stage.prepare_eq_some {u' : Undo} (h : stage.prepare u ctx d = some (u', ctx', d')) :
    u' = u ∧ ctx' = ctx ∧ stage.before.play ctx d = (.done (), d') := by
  unfold prepare at h
  split at h
  · rename_i hbefore
    cases h
    exact ⟨rfl, rfl, hbefore⟩
  · cases h

theorem Stage.enter_outermost (hctx : ctx.transaction? = none)
    (h : stage.enter ctx d = some (u, ctx', d')) :
    ∃ id d₁, (begin : Work (Database Store Session) _ _) d = (.done id, d₁) ∧ u = .whole ∧
      ctx' = ctx.withTransaction id ∧ stage.before.play ctx' d₁ = (.done (), d') := by
  simp only [enter, hctx] at h
  split at h
  · rename_i hbegin
    obtain ⟨rfl, rfl, hbefore⟩ := prepare_eq_some h
    exact ⟨_, _, hbegin, rfl, rfl, hbefore⟩
  · cases h

theorem Stage.enter_nested (hctx : ctx.transaction? = some id)
    (h : stage.enter ctx d = some (u, ctx', d')) :
    ∃ sp d₁, within id Transaction.openSavepoint d = (.done sp, d₁) ∧ u = .savepoint sp ∧
      ctx' = ctx ∧ stage.before.play ctx d₁ = (.done (), d') := by
  simp only [enter, hctx] at h
  split at h
  · rename_i hopen
    obtain ⟨rfl, rfl, hbefore⟩ := prepare_eq_some h
    exact ⟨_, _, hopen, rfl, rfl, hbefore⟩
  · cases h

theorem descend_cons {stages : List (Stage ε α)} {us : List Undo}
    (h : descend (stage :: stages) ctx d = some (us, ctx', d')) :
    ∃ u us' ctx₁ d₁, us = u :: us' ∧ stage.enter ctx d = some (u, ctx₁, d₁) ∧
      descend stages ctx₁ d₁ = some (us', ctx', d') := by
  simp only [descend] at h
  cases henter : stage.enter ctx d with
  | none => rw [henter] at h; cases h
  | some p =>
    obtain ⟨u, ctx₁, d₁⟩ := p
    cases hrest : descend stages ctx₁ d₁ with
    | none => simp [henter, hrest] at h
    | some q =>
      obtain ⟨us', ctx₂, d₂⟩ := q
      simp only [henter, hrest, Option.bind_eq_bind, Option.bind_some, Option.pure_def,
        Option.some.injEq, Prod.mk.injEq] at h
      obtain ⟨rfl, rfl, rfl⟩ := h
      exact ⟨u, us', ctx₁, d₁, rfl, rfl, hrest⟩

end Enter

/-! ## One unit -/

section Unit

variable [UnitError ε] {inner : Program ε α} {stage : Stage ε α} {stages : List (Stage ε α)}
  {o : Outcome DatabaseError Unit}

omit [UnitError ε] in
/-- The steps of a unit end as the other unit does, if that does not succeed. -/
private theorem steps_of_failed {other : Context → Work (Database Store Session) ε α} {e : ε}
    (hbefore : stage.before.play ctx d₁ = (.done (), d₂))
    (hother : other ctx d₂ = (.failed e, d₃)) :
    stage.steps other ctx d₁ = (.failed e, d₃) :=
  (Work.bind_of_done hbefore _).trans (Work.bind_of_failed hother _)

omit [UnitError ε] in
private theorem steps_of_panicked {other : Context → Work (Database Store Session) ε α} {p : Panic}
    (hbefore : stage.before.play ctx d₁ = (.done (), d₂))
    (hother : other ctx d₂ = (.panicked p, d₃)) :
    stage.steps other ctx d₁ = (.panicked p, d₃) :=
  (Work.bind_of_done hbefore _).trans (Work.bind_of_panicked hother _)

/-- What a service makes of a unit that failed with its steps. -/
private theorem mapError_of_afterRollback {e : ε}
    {steps : Context → Work (Database Store Session) ε α}
    (h : Database.run Store ctx steps d = (.failed (.afterRollback e o), d')) :
    (UnitRunner.onDatabase Store ε α ctx steps).mapError UnitError.ofTransaction d =
      (.failed (UnitError.layered e o.error?), d') := by
  rw [← UnitError.ofTransaction_afterRollback]
  exact Work.mapError_of_failed (Work.mapError_of_failed h _) _

private theorem mapError_of_panicked {p : Panic}
    {steps : Context → Work (Database Store Session) ε α}
    (h : Database.run Store ctx steps d = (.panicked p, d')) :
    (UnitRunner.onDatabase Store ε α ctx steps).mapError UnitError.ofTransaction d =
      (.panicked p, d') :=
  Work.mapError_of_panicked (Work.mapError_of_panicked h _) _

/-- Panics pass through all units, whatever comes of undoing them. -/
theorem nested_of_panicked {us : List Undo} {p : Panic}
    (hdescend : descend stages ctx d = some (us, ctx', d₁))
    (hinner : inner.play ctx' d₁ = (.panicked p, d₂)) :
    ∃ d', nested inner stages ctx d = (.panicked p, d') := by
  -- Induction on the stages from the outermost inwards, as they are entered.
  induction stages generalizing ctx d us with
  | nil =>
    cases hdescend
    exact ⟨d₂, hinner⟩
  | cons stage stages ih =>
    obtain ⟨u, us', ctx₁, d₃, rfl, henter, hrest⟩ := descend_cons hdescend
    obtain ⟨d₄, hnested⟩ := ih hrest
    cases hctx : ctx.transaction? with
    | none =>
      -- The outermost unit rolls back, however that ends, and hands on the panic.
      obtain ⟨id, d₀, hbegin, rfl, rfl, hbefore⟩ := Stage.enter_outermost hctx henter
      obtain ⟨o, d', hrollback⟩ : ∃ o d', within id Transaction.rollback d₄ = (o, d') :=
        ⟨_, _, rfl⟩
      refine ⟨d', mapError_of_panicked ?_⟩
      rw [run_of_no_transaction _ hctx]
      exact runOutermost_of_panicked hbegin (steps_of_panicked hbefore hnested) hrollback
    | some id =>
      -- A nested unit does the same for its savepoint.
      obtain ⟨sp, d₀, hopen, rfl, rfl, hbefore⟩ := Stage.enter_nested hctx henter
      obtain ⟨o, d', hrollback⟩ : ∃ o d', within id (Transaction.rollbackTo sp) d₄ = (o, d') :=
        ⟨_, _, rfl⟩
      refine ⟨d', mapError_of_panicked ?_⟩
      rw [run_of_transaction _ hctx]
      exact runNested_of_panicked hopen (steps_of_panicked hbefore hnested) hrollback

end Unit

/-! ## What decides about undoing -/

theorem Store.isFailing_congr (h : s'.failures = s.failures) : s'.isFailing = s.isFailing := by
  funext e
  simp only [isFailing, h]

theorem OpenTransaction.obstacle?_congr (h : s'.failures = s.failures) :
    t.obstacle? s' = t.obstacle? s := by
  simp only [OpenTransaction.obstacle?, refusal?, Store.isFailing_congr h]

theorem OpenTransaction.obstacle?_of_abandoned_nil (h : t.abandoned = []) :
    t.obstacle? s = none := by
  simp only [OpenTransaction.obstacle?, earliest?_eq_none.mpr h]

section View

variable (hview : d.view id = some (t.toTransaction, s))
include hview

theorem Database.obstacle?_of_view : d.obstacle? id = t.obstacle? s := by
  obtain ⟨d', hsettle, -⟩ := within_of_view hview Transaction.settle
  rw [Database.obstacle?, hsettle, settle_eq]
  cases t.obstacle? s <;> rfl

theorem Database.injected?_of_view (statement : String) :
    d.injected? id statement =
      if s.isFailing ⟨t.label, statement⟩ then some (Store.injected statement) else none := by
  obtain ⟨ht, hbackend⟩ := eq_of_view hview
  simp only [injected?, ht, hbackend, Option.bind_some, toTransaction, session]

/-- What decides about undoing units is the same later, if these three are the same. -/
theorem Undo.failure?_congr (hview' : d'.view id = some (t'.toTransaction, s'))
    (hlabel : t'.label = t.label) (hfailures : s'.failures = s.failures)
    (hobstacle : t'.obstacle? s' = t.obstacle? s) (u : Undo) :
    u.failure? id d' = u.failure? id d := by
  have hinjected (statement : String) : d'.injected? id statement = d.injected? id statement := by
    simp only [injected?_of_view hview, injected?_of_view hview', hlabel,
      Store.isFailing_congr hfailures]
  cases u with
  | whole => exact hinjected _
  | savepoint sp =>
    simp only [failure?, hinjected, obstacle?_of_view hview, obstacle?_of_view hview', hobstacle]

end View

/-- The transaction is still open and above its floor, nothing of it is held, and what decides
    about undoing units is what it was. -/
def Database.Unwound (id : TransactionId) (floor : Nat) (t : OpenTransaction)
    (d d' : Database Store Session) : Prop :=
  ∃ t' s' rows, d'.view id = some (toTransaction t', s') ∧ Grows floor t rows t' ∧
    t'.busy = false ∧ ∀ u : Undo, u.failure? id d' = u.failure? id d

/-- A nested unit is undone, unless something in its way cannot be settled or its statement fails.
    For the units around it nothing is different then. -/
theorem Database.rollbackTo_unwinds (hlevel : Level floor t₀) (hnone : t₀.abandoned = [])
    (hgrows : Grows t₀.next.seq t₀.opened rows t₂)
    (hview₂ : d₂.view id = some (t₂.toTransaction, s₂)) (hidle : t₂.busy = false) :
    ∃ o d', within id (Transaction.rollbackTo t₀.next) d₂ = (o, d') ∧
      o.error? = (Undo.savepoint t₀.next).failure? id d₂ ∧ Unwound id floor t₀ d₂ d' := by
  have hsettled : Grows t₀.next.seq t₀.opened rows t₂.settled :=
    List.append_nil rows ▸ hgrows.trans hgrows.level.settled
  have hmarks := hsettled.marks_next
  have hgate : t₂.gate? s₂ = t₂.obstacle? s₂ := by simp [gate?, hidle]
  have hfailing : (t₂.noteGate s₂).isFailing = s₂.isFailing :=
    Store.isFailing_congr (failures_noteGate t₂ s₂)
  obtain ⟨d', hrollback, hview'⟩ := within_of_view hview₂ (Transaction.rollbackTo t₀.next)
  refine ⟨_, d', hrollback, ?_⟩
  rw [Undo.failure?, obstacle?_of_view hview₂, injected?_of_view hview₂]
  rw [rollbackTo_eq, hgate] at hview' ⊢
  cases hobstacle : t₂.obstacle? s₂ with
  | some e =>
    -- The obstacle stays, and will stop the units around this one in the same way.
    simp only [hobstacle] at hview' ⊢
    refine ⟨rfl, _, _, _, hview', hgrows.outer hlevel hnone, hidle, ?_⟩
    exact Undo.failure?_congr hview₂ hview' rfl (by simp) (obstacle?_congr (by simp))
  | none =>
    -- There is no obstacle now and there will be none, for what was abandoned is settled.
    have hcongr {t' : OpenTransaction} {s' : Store}
        (hview' : d'.view id = some (t'.toTransaction, s')) (hlabel : t'.label = t₂.label)
        (hfailures : s'.failures = s₂.failures) (hnone' : t'.abandoned = []) (u : Undo) :
        u.failure? id d' = u.failure? id d₂ :=
      u.failure?_congr hview₂ hview' hlabel hfailures
        ((obstacle?_of_abandoned_nil hnone').trans hobstacle.symm)
    have hrefusal := hsettled.level.ordered.refusal?_rollbackTo hmarks (t₂.noteGate s₂)
    rw [label_settled, hfailing] at hrefusal
    simp only [hobstacle] at hview' ⊢
    split at hrefusal
    · -- The statement is made to fail, and all stays open that was.
      rename_i hfails
      simp only [hrefusal] at hview' ⊢
      rw [if_pos hfails]
      exact ⟨rfl, _, _, _, hview', hsettled.outer hlevel hnone, by simp [hidle],
        hcongr hview' (by simp) (by simp) (by simp)⟩
    · -- Everything above the savepoint is gone.
      rename_i hpasses
      simp only [hrefusal] at hview' ⊢
      rw [if_neg hpasses]
      exact ⟨rfl, _, _, _, hview', hsettled.rolledBack hlevel hnone (abandoned_settled t₂),
        by simp [hidle], hcongr hview' (by simp) (by simp) (by simp)⟩

/-- The transaction as a whole is rolled back, unless its statement fails. -/
theorem Database.rollback_error? (hview₂ : d₂.view id = some (t₂.toTransaction, s₂))
    (hidle : t₂.busy = false) :
    ∃ o d', within id Transaction.rollback d₂ = (o, d') ∧
      o.error? = Undo.whole.failure? id d₂ := by
  obtain ⟨d', hrollback, -⟩ := within_of_view hview₂ Transaction.rollback
  refine ⟨_, d', hrollback, ?_⟩
  rw [rollback_eq, Undo.failure?, injected?_of_view hview₂, hidle]
  cases s₂.isFailing ⟨t₂.label, "ROLLBACK"⟩ <;> rfl

/-! ## All units -/

section Failures

variable [UnitError ε] {inner : Program ε α} {stages : List (Stage ε α)} {us : List Undo} {e : ε}

/-- The failures to undo units. -/
def Undo.failures (id : TransactionId) (d : Database Store Session) (us : List Undo) : List Cause :=
  (us.filterMap (·.failure? id d)).map .database

theorem UnitError.Wraps.undo {e' : ε} (h : Wraps e (Undo.failures id d us) e') (u : Undo) :
    Wraps e (Undo.failures id d (u :: us)) (UnitError.layered e' (u.failure? id d)) := by
  simp only [Undo.failures, List.filterMap_cons] at h ⊢
  cases u.failure? id d with
  | none => exact h
  | some r => exact .layer (.rollbackFailed e' (.database r)) rfl rfl h

/-- Units inside a transaction: the error of the innermost steps gets a layer for each unit that
    could not be undone. -/
theorem nested_of_failed (hctx : ctx.transaction? = some id)
    (hview : d.view id = some (t.toTransaction, s)) (hlevel : Level floor t)
    (hdescend : descend stages ctx d = some (us, ctx', d₁))
    (hinner : inner.play ctx' d₁ = (.failed e, d₂)) (hidle : d₂.isHeld id = false) :
    ∃ top d', nested inner stages ctx d = (.failed top, d') ∧
      UnitError.Wraps e (Undo.failures id d₂ us) top ∧ Unwound id floor t d₂ d' := by
  -- Induction on the units. What the units inside leave is above the savepoint of this one.
  induction stages generalizing d t s floor us with
  | nil =>
    cases hdescend
    obtain ⟨t₂, s₂, hview₂, hgrows, -⟩ := inner.play_grew hctx hview hlevel
    rw [hinner] at hview₂
    have hidle₂ : t₂.busy = false := (isHeld_of_view hview₂).symm.trans hidle
    exact ⟨e, d₂, hinner, .bare, t₂, s₂, _, hview₂, hgrows, hidle₂, fun _ => rfl⟩
  | cons stage stages ih =>
    obtain ⟨u, us', ctx₁, d₀, rfl, henter, hrest⟩ := descend_cons hdescend
    obtain ⟨sp, d₃, hopen, rfl, rfl, hbefore⟩ := Stage.enter_nested hctx henter
    rcases openSavepoint_of_view hview hlevel with
      ⟨_, _, hunopened, -⟩ | ⟨d₃', s₃, hopened, -, hview₃, -⟩
    · cases congrArg Prod.fst (hopen.symm.trans hunopened)
    · obtain ⟨hsp, rfl⟩ := Prod.mk.inj (hopen.symm.trans hopened)
      obtain rfl := Outcome.done.inj hsp
      -- Opening the savepoint settled what was abandoned, and the unit works above it.
      have hsettled := hlevel.settled
      have hlevel₃ := (hsettled.level.opened (abandoned_settled t)).2
      obtain ⟨t₄, s₄, hview₄, hgrows₄, -⟩ := stage.before.play_grew hctx hview₃ hlevel₃
      rw [hbefore] at hview₄
      obtain ⟨e', d₅, hnested, hwraps, t₅, s₅, rows, hview₅, hgrows₅, hidle₅, hsame₅⟩ :=
        ih hview₄ hgrows₄.level hrest
      obtain ⟨o, d', hrollback, herror, t', s', rows', hview', hgrows', hidle', hsame'⟩ :=
        rollbackTo_unwinds hsettled.level (abandoned_settled t) (hgrows₄.trans hgrows₅) hview₅
          hidle₅
      refine ⟨UnitError.layered e' o.error?, d', mapError_of_afterRollback ?_, ?_, t', s', _,
        hview', hsettled.trans hgrows', hidle', fun u => (hsame' u).trans (hsame₅ u)⟩
      · rw [run_of_transaction _ hctx]
        exact runNested_of_failed hopen (steps_of_failed hbefore hnested) hrollback
      · rw [herror, hsame₅]
        exact hwraps.undo _

end Failures

/-- The steps inside a transaction have the context of the outermost steps in it. -/
theorem descend_of_transaction {stages : List (Stage ε α)} {us : List Undo}
    (hctx : ctx.transaction? = some id) (h : descend stages ctx d = some (us, ctx', d')) :
    ctx' = ctx := by
  induction stages generalizing d us with
  | nil => cases h; rfl
  | cons stage stages ih =>
    obtain ⟨u, us', ctx₁, d₁, rfl, henter, hrest⟩ := descend_cons h
    obtain ⟨-, -, -, -, rfl, -⟩ := Stage.enter_nested hctx henter
    exact ih hrest

theorem length_descend {stages : List (Stage ε α)} {us : List Undo}
    (h : descend stages ctx d = some (us, ctx', d')) : us.length = stages.length := by
  induction stages generalizing ctx d us with
  | nil => cases h; rfl
  | cons stage stages ih =>
    obtain ⟨u, us', ctx₁, d₁, rfl, -, hrest⟩ := descend_cons h
    rw [List.length_cons, List.length_cons, ih hrest]

/-- The outermost unit begins the transaction that all others are inside, and its error gets one
    more layer if it cannot be rolled back. -/
theorem nested_of_failed_outermost [UnitError ε] {inner : Program ε α} {stages : List (Stage ε α)}
    {us : List Undo} {e : ε} (hctx : ctx.transaction? = none)
    (hdescend : descend stages ctx d = some (us, ctx', d₁)) (hid : ctx'.transaction? = some id)
    (hinner : inner.play ctx' d₁ = (.failed e, d₂)) (hidle : d₂.isHeld id = false) :
    ∃ top, (nested inner stages ctx d).1 = .failed top ∧
      UnitError.Wraps e (Undo.failures id d₂ us) top := by
  cases stages with
  | nil =>
    -- The inner program runs in a transaction, so there is at least the stage that began it.
    cases hdescend
    rw [hctx] at hid
    cases hid
  | cons stage stages =>
    obtain ⟨u, us', ctx₁, d₃, rfl, henter, hrest⟩ := descend_cons hdescend
    obtain ⟨id', d₀, hbegin, rfl, rfl, hbefore⟩ := Stage.enter_outermost hctx henter
    have hctx₁ := ctx.transaction?_withTransaction id'
    obtain rfl := descend_of_transaction hctx₁ hrest
    obtain rfl : id' = id := Option.some.inj (hctx₁.symm.trans hid)
    -- What `begin` did is known twice, from entering the stage and from the state it leaves.
    rcases begin_noted d with ⟨_, _, hfailed, -⟩ | ⟨_, _, hbegun, hview₀⟩
    · cases congrArg Prod.fst (hbegin.symm.trans hfailed)
    · obtain ⟨hsame, rfl⟩ := Prod.mk.inj (hbegin.symm.trans hbegun)
      obtain rfl := Outcome.done.inj hsame
      obtain ⟨t₃, s₃, hview₃, hgrows₃, -⟩ :=
        stage.before.play_grew hctx₁ hview₀ (level_fresh "write")
      rw [hbefore] at hview₃
      -- All other stages are nested units within this transaction.
      obtain ⟨e', d₄, hnested, hwraps, t₄, s₄, -, hview₄, -, hidle₄, hsame₄⟩ :=
        nested_of_failed hctx₁ hview₃ hgrows₃.level hrest hinner hidle
      -- The rollback adds its own error if it has one, outside of all the others.
      obtain ⟨o, d', hrollback, herror⟩ := rollback_error? hview₄ hidle₄
      have hrun : Database.run Store ctx (stage.steps (nested inner stages)) d =
          (.failed (.afterRollback e' o), d') := by
        rw [run_of_no_transaction _ hctx]
        exact runOutermost_of_failed hbegin (steps_of_failed hbefore hnested) hrollback
      refine ⟨UnitError.layered e' o.error?,
        congrArg Prod.fst (mapError_of_afterRollback hrun), ?_⟩
      rw [herror, hsame₄]
      exact hwraps.undo _

open Report in
/-- However deep units are nested, a panic of the innermost steps arrives at the top with its
    payload, and an error arrives inside one layer for each unit that could not be undone: as it
    is, if all of them could. The text of what arrives holds those of the error and of every
    failure to undo a unit. -/
theorem nested_propagates [UnitError ε] (inner : Program ε α) {stages : List (Stage ε α)}
    {us : List Undo} (hctx : ctx.transaction? = none)
    (hdescend : descend stages ctx d = some (us, ctx', d₁)) (hid : ctx'.transaction? = some id) :
    us.length = stages.length ∧
      (∀ p d₂, inner.play ctx' d₁ = (.panicked p, d₂) →
        (nested inner stages ctx d).1 = .panicked p) ∧
      ∀ e d₂, inner.play ctx' d₁ = (.failed e, d₂) → d₂.isHeld id = false →
        ∃ top, (nested inner stages ctx d).1 = .failed top ∧
          UnitError.Wraps e ((us.filterMap (·.failure? id d₂)).map .database) top ∧
          ((∀ u ∈ us, u.failure? id d₂ = none) → top = e) ∧
          Mentions (message top) (message e) ∧
          ∀ u ∈ us, ∀ f, u.failure? id d₂ = some f → Mentions (message top) f.message := by
  refine ⟨length_descend hdescend, ?_, ?_⟩
  · intro p d₂ hinner
    obtain ⟨d', hnested⟩ := nested_of_panicked hdescend hinner
    rw [hnested]
  · intro e d₂ hinner hidle
    obtain ⟨top, hnested, hwraps⟩ := nested_of_failed_outermost hctx hdescend hid hinner hidle
    -- All that is said of the top follows from its layers.
    obtain ⟨hmessage, hfailures⟩ := hwraps.mentions
    refine ⟨top, hnested, hwraps, ?_, hmessage, ?_⟩
    · intro hnone
      have hnil : Undo.failures id d₂ us = [] := by
        simpa [Undo.failures, List.filterMap_eq_nil_iff] using hnone
      rw [hnil] at hwraps
      cases hwraps
      rfl
    · intro u hu f hf
      exact hfailures (.database f) (List.mem_map_of_mem (List.mem_filterMap.mpr ⟨u, hu, hf⟩))

/-- Three units that write a row each. -/
def writing : List (Stage PageError Unit) :=
  ["a", "b", "c"].map fun row => ⟨.act (.insert .unit row) fun _ => .done (), fun _ => .done ()⟩

/-- Of three units, the one in the middle can be undone. -/
theorem nested_propagates_writing :
    let d : Database Store Session :=
      { backend := { failures := ["ROLLBACK", "ROLLBACK TO SAVEPOINT sp_0002"] } }
    let failure : DatabaseError :=
      .savepoint "sp_0002" .rollbackTo (Store.injected "ROLLBACK TO SAVEPOINT sp_0002")
    ∃ top, (nested (.fail PageError.alreadyJoined) writing .background d).1 = .failed top ∧
      UnitError.Wraps .alreadyJoined
        [.database (Store.injected "ROLLBACK"), .database failure] top ∧
      Report.Mentions top.message "user already joined the page" := by
  intro d failure
  have hruns : (descend writing .background d).map (fun (us, ctx, d) =>
      (ctx.transaction?, us.filterMap (·.failure? ⟨0⟩ d), d.isHeld ⟨0⟩)) =
        some (some ⟨0⟩, [Store.injected "ROLLBACK", failure], false) := by
    decide +kernel
  obtain ⟨⟨us, ctx', d₁⟩, hdescend, hfacts⟩ := Option.map_eq_some_iff.mp hruns
  simp only [Prod.mk.injEq] at hfacts
  obtain ⟨hid, hfailures, hidle⟩ := hfacts
  obtain ⟨-, -, hfailed⟩ := nested_propagates (.fail PageError.alreadyJoined) rfl hdescend hid
  obtain ⟨top, hnested, hwraps, -, hmessage, -⟩ := hfailed .alreadyJoined d₁ rfl hidle
  rw [hfailures] at hwraps
  exact ⟨top, hnested, hwraps, hmessage⟩

end SharedPages
