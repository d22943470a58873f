import SharedPages.Proofs.Outermost
import SharedPages.Proofs.Preservation

/-!
# When a transaction ends with its unit

A closure can let its context escape, and connections that it checked out. Once
its outermost unit has returned, the context should be of no use: nothing more
can be done in the transaction (`Database.Finished`). Whatever has no session
and is not busy stays so (`Database.Over`), so this is decided at the moment
when the unit returns.

A unit that returns has committed or rolled back, or was refused to. It is
refused to if a connection is still checked out, and a commit is refused also
if what is abandoned cannot be settled. In these cases the transaction stays
open, and the escaped context goes on working on it.

## Key results

- `Database.finished_iff_over`: what it takes for a transaction to be of no use
- `Closure.run_finishes`: which units end their transaction
-/

namespace SharedPages

variable {ε α : Type} {id : TransactionId} {ctx : Context} {t : Transaction Session} {s : Store}
  {d d' d₁ d₂ : Database Store Session}

/-! ## Closures -/

/-- The steps of a unit of work, whatever they do. They cannot make a transaction vanish. -/
structure Closure (ε α : Type) where
  steps : Context → Work (Database Store Session) ε α
  size_le : ∀ ctx d, d.transactions.size ≤ (steps ctx d).2.transactions.size

namespace Database

theorem stable_size (n : Nat) : Stable fun d => n ≤ d.transactions.size where
  onBackend _ _ h := h
  adopt session d h := by
    simp only [adopt, Array.size_push]
    omega
  within id w _ d h := by
    simp only [within]
    split
    · simpa using h
    · exact h
  change id f _ _ d h := by simpa [change] using h

/-! ## Transactions that are over -/

/-- The transaction has no session, and no connection of it is checked out. -/
def Over (id : TransactionId) (d : Database Store Session) : Prop :=
  ∃ t, d.transactions[id.index]? = some t ∧ t.session = none ∧ t.busy = false

/-- A transaction that is over stays so. -/
theorem stable_over (id : TransactionId) : Stable (Over id) where
  onBackend _ _ h := h
  adopt session d h := by
    obtain ⟨t, ht, hover⟩ := h
    have hlt := (Array.getElem?_eq_some_iff.mp ht).1
    refine ⟨t, ?_, hover⟩
    simp only [adopt, Array.getElem?_push_lt hlt]
    rw [← ht, Array.getElem?_eq_getElem hlt]
  within id' w hw d h := by
    obtain ⟨t, ht, hover⟩ := h
    simp only [within]
    split
    · -- Work on another transaction does not meet this one, and work on this one is inert.
      rename_i t' ht'
      refine ⟨t, ?_, hover⟩
      rw [Array.getElem?_setIfInBounds]
      split
      · rename_i hindex
        rw [hindex, ht, Option.some.injEq] at ht'
        subst ht'
        rw [if_pos (hindex ▸ (Array.getElem?_eq_some_iff.mp ht).1), hw t d.backend hover.1]
      · exact ht
    · exact ⟨t, ht, hover⟩
  change id' f hsession hbusy d h := by
    obtain ⟨t, ht, hover⟩ := h
    simp only [Over, change, Array.getElem?_modify, ht]
    split
    · refine ⟨f t, rfl, (hsession t).trans hover.1, ?_⟩
      exact Bool.eq_false_iff.mpr fun h => by simp [hbusy t h] at hover
    · exact ⟨t, rfl, hover⟩

end Database

/-! ## The ends of a transaction -/

namespace Transaction

private theorem execute_cases (text : String) (c : Session) (s : Store) :
    ∃ c' s', Backend.execute text (c, s) = (.done (), c', s') ∨
      ∃ e, Backend.execute text (c, s) = (.failed e, c', s') := by
  have hexecute : Backend.execute text (c, s) = Store.execute text (c, s) := rfl
  rw [hexecute, Store.execute, Store.record_eq]
  cases s.isFailing ⟨c.label, text⟩ with
  | true => exact ⟨_, _, .inr ⟨_, rfl⟩⟩
  | false =>
    simp only [Bool.false_eq_true, if_false]
    cases c.apply (s.noted c.label text) (.ofText text) with
    | ok p => exact ⟨_, _, .inl rfl⟩
    | error e => exact ⟨_, _, .inr ⟨_, rfl⟩⟩

/-- A statement succeeds or fails, and the session stays. -/
private theorem send_cases {c : Session} (hsession : t.session = some c) (s : Store)
    (text : String) :
    ∃ t' s', (send text (t, s) = (.done (), t', s') ∨ ∃ e, send text (t, s) = (.failed e, t', s')) ∧
      t'.busy = t.busy ∧ t'.session.isSome = true := by
  obtain ⟨c', s', hexecute⟩ := execute_cases text c s
  refine ⟨{ t with session := some c' }, s', ?_, rfl, rfl⟩
  rcases hexecute with hdone | ⟨e, hfailed⟩
  · exact .inl (by simp only [send, hsession, hdone])
  · exact .inr ⟨e, by simp only [send, hsession, hfailed]⟩

/-- Settling succeeds, or fails in an open session because of the rollback. -/
private theorem settle_cases (t : Transaction Session) (s : Store) :
    ∃ t' s', t'.busy = t.busy ∧ t'.session.isSome = t.session.isSome ∧
      (settle (t, s) = (.done (), t', s') ∨
        t.session.isSome = true ∧
          ∃ sp e, settle (t, s) = (.failed (.savepoint sp .rollbackTo e), t', s')) := by
  cases hearliest : t.earliest? with
  | none => exact ⟨t, s, rfl, rfl, .inl (by simp only [settle, hearliest])⟩
  | some sp =>
    cases hsession : t.session with
    | none => exact ⟨t, s, rfl, by rw [hsession], .inl (by simp only [settle, hearliest, hsession])⟩
    | some c =>
      obtain ⟨t', s', hsend, hbusy, hopen⟩ := send_cases hsession s sp.rollbackStatement
      simp only [settle, hearliest, hsession]
      rcases hsend with hdone | ⟨e, hfailed⟩
      · exact ⟨{ t' with abandoned := [] }, s', hbusy, hopen,
          .inl (Work.bind_of_done (Work.mapError_of_done hdone _) _)⟩
      · exact ⟨t', s', hbusy, hopen,
          .inr ⟨rfl, _, e, Work.bind_of_failed (Work.mapError_of_failed hfailed _) _⟩⟩

/-- A connection is refused for want of a transaction only if there is none, and nothing is held. -/
private theorem over_of_checkOut
    (h : (checkOut (t, s)).1 = .failed .noActiveTransaction) :
    t.session = none ∧ t.busy = false := by
  cases hbusy : t.busy with
  | true =>
    -- While a session is held the error is another one.
    rw [checkOut, Work.bind_of_failed (unlessBusy_of_busy hbusy s)] at h
    cases h
  | false =>
    refine ⟨?_, rfl⟩
    cases hsession : t.session with
    | none => rfl
    | some c =>
      -- A session that is there lets the check-out through, or settling fails with its own error.
      obtain ⟨t', s', -, hopen, hdone | ⟨-, sp, e, hfailed⟩⟩ := settle_cases t s
      · have hactive : ifActive (t', s') = (.done (), t', s') := if_pos (by simp [hopen, hsession])
        rw [checkOut, Work.bind_of_done (unlessBusy_of_idle hbusy s), Work.bind_of_done hdone,
          Work.bind_of_done hactive] at h
        cases h
      · rw [checkOut, Work.bind_of_done (unlessBusy_of_idle hbusy s),
          Work.bind_of_failed hfailed] at h
        cases h

/-- A rollback ends the transaction, unless a connection is checked out. -/
private theorem rollback_ends (t : Transaction Session) (s : Store) :
    (rollback (t, s)).2.1.session = none ∧ (rollback (t, s)).2.1.busy = false ↔
      t.busy = false := by
  cases hbusy : t.busy with
  | true =>
    rw [rollback, Work.bind_of_failed (unlessBusy_of_busy hbusy s)]
    simp [hbusy]
  | false =>
    rw [rollback, Work.bind_of_done (unlessBusy_of_idle hbusy s)]
    cases hsession : t.session with
    | none =>
      rw [Work.bind_of_failed (take_of_none hsession s)]
      simp [hsession, hbusy]
    | some c =>
      rw [Work.bind_of_done (take_of_some hsession s)]
      simp [update, Work.bind_modify, onBackend, hbusy]

/-- A commit ends the transaction, unless a connection is checked out or what is abandoned cannot be
    settled. -/
private theorem commit_ends (t : Transaction Session) (s : Store) :
    (commit (t, s)).2.1.session = none ∧ (commit (t, s)).2.1.busy = false ↔
      t.busy = false ∧ (settle (t, s)).1 = .done () := by
  cases hbusy : t.busy with
  | true =>
    -- A held session makes commit return early and leaves the transaction as it is.
    rw [commit, Work.bind_of_failed (unlessBusy_of_busy hbusy s)]
    simp [hbusy]
  | false =>
    rw [commit, Work.bind_of_done (unlessBusy_of_idle hbusy s)]
    -- If settling succeeds the session is taken before anything else can fail.
    obtain ⟨t', s', hbusy', hopen, hdone | ⟨hsome, sp, e, hfailed⟩⟩ := settle_cases t s
    · rw [Work.bind_of_done hdone, hdone]
      cases hsession : t'.session with
      | none =>
        rw [Work.bind_of_failed (take_of_none hsession s')]
        simp [hsession, hbusy', hbusy]
      | some c =>
        rw [Work.bind_of_done (take_of_some hsession s')]
        simp [onBackend, hbusy', hbusy]
    · -- Settling that fails had a session to fail on, and keeps it.
      rw [Work.bind_of_failed hfailed, hfailed]
      rw [← hopen] at hsome
      simp [Option.isSome_iff_ne_none.mp hsome]

end Transaction

/-! ## Transactions that are of no use -/

namespace Database

/-- Nothing can be done in the transaction any more, whatever context it is bound to. -/
def Finished (id : TransactionId) (d : Database Store Session) : Prop :=
  ∀ ctx : Context, ctx.transaction? = some id →
    (∀ role, (checkOut (.ofContext role ctx) d).1 = .failed .noActiveTransaction) ∧
    ∀ (ε α : Type) (steps : Context → Work (Database Store Session) ε α),
      (run Store ctx steps d).1 = .failed (.begin .noActiveTransaction)

/-- A transaction is of no use if and only if it has no session and nothing of it is held. -/
theorem finished_iff_over (hview : d.view id = some (t, s)) :
    Finished id d ↔ t.session = none ∧ t.busy = false := by
  constructor
  · intro hfinished
    -- Checking out in any context that is bound to the transaction tells whether it is over.
    have hctx := Context.background.transaction?_withTransaction id
    have hcheckOut := (hfinished _ hctx).1 .write
    rw [Action.ofContext_eq hctx] at hcheckOut
    obtain ⟨d', hwithin, -⟩ := within_of_view hview Transaction.checkOut
    exact Transaction.over_of_checkOut ((congrArg Prod.fst hwithin).symm.trans hcheckOut)
  · rintro ⟨hsession, hbusy⟩ ctx hctx
    have herror : t.overError = .noActiveTransaction := by simp [Transaction.overError, hbusy]
    constructor
    · intro role
      obtain ⟨d', hcheckOut, -⟩ := within_of_view hview Transaction.checkOut
      rw [Transaction.checkOut_of_over hsession, herror] at hcheckOut
      rw [Action.ofContext_eq hctx]
      exact congrArg Prod.fst hcheckOut
    · intro ε α steps
      obtain ⟨d', hopen, -⟩ := within_of_view hview Transaction.openSavepoint
      rw [Transaction.openSavepoint_of_over hsession, herror] at hopen
      rw [run_nested hctx, runNested_of_unopened hopen]

/-- The database after programs were played one after another, in whatever contexts. -/
inductive Later (d : Database Store Session) : Database Store Session → Prop where
  | now : Later d d
  | play {ε α : Type} {d' : Database Store Session} (later : Later d d') (p : Program ε α)
    (ctx : Context) : Later d (p.play ctx d').2

theorem Later.over (h : Later d d') (hover : Over id d) : Over id d' := by
  -- Induction on the programs that were played: each preserves that the transaction is over.
  induction h with
  | now => exact hover
  | play _ p ctx ih => exact (stable_over id).play p ctx _ ih

/-- A transaction that is of no use stays so, and only such a one. -/
theorem later_finished_iff (hview : d.view id = some (t, s)) :
    (∀ d', Later d d' → d'.Finished id) ↔ t.session = none ∧ t.busy = false := by
  constructor
  · exact fun hfinished => (finished_iff_over hview).mp (hfinished d .now)
  · intro hover d' hlater
    obtain ⟨t', ht', hover'⟩ := hlater.over ⟨t, (eq_of_view hview).1, hover⟩
    have hview' : d'.view id = some (t', d'.backend) := by simp only [view, ht', Option.map_some]
    exact (finished_iff_over hview').mpr hover'

end Database

open Database

namespace Closure

/-- An outermost unit that returns or panics ends its transaction for good, if and only if no
    connection is checked out when its closure ends, and if the closure ended well, what is
    abandoned can be settled. -/
theorem run_finishes (c : Closure ε α) (hctx : ctx.transaction? = none) {o : Outcome ε α}
    (hopen : (begin : Work (Database Store Session) _ _) d = (.done id, d₁))
    (hsteps : c.steps (ctx.withTransaction id) d₁ = (o, d₂)) (hended : o ≠ .suspended) :
    (∀ d', Later (Database.run Store ctx c.steps d).2 d' → d'.Finished id) ↔
      d₂.isHeld id = false ∧
        ((∃ a, o = .done a) → (within id Transaction.settle d₂).1 = .done ()) := by
  have hrun : Database.run Store ctx c.steps =
      runOutermost Store fun id => c.steps (ctx.withTransaction id) := by
    simp only [Database.run, hctx]
  -- The closure cannot make its transaction vanish, so it is still there at the end.
  obtain ⟨t, s, hview⟩ : ∃ t s, d₂.view id = some (t, s) := by
    rcases begin_cases d with ⟨e, d', hfailed, -⟩ | ⟨id', d', s', hbegun, hview', -⟩
    · cases congrArg Prod.fst (hopen.symm.trans hfailed)
    · obtain ⟨hid, rfl⟩ := Prod.mk.inj (hopen.symm.trans hbegun)
      obtain rfl := Outcome.done.inj hid
      have hlt := (Array.getElem?_eq_some_iff.mp (eq_of_view hview').1).1
      have hsize := c.size_le (ctx.withTransaction id) d₁
      rw [hsteps] at hsize
      have hlt₂ : id.index < d₂.transactions.size := Nat.lt_of_lt_of_le hlt hsize
      exact ⟨d₂.transactions[id.index], d₂.backend, by simp [view, hlt₂]⟩
  have hheld : d₂.isHeld id = t.busy := by
    simp only [isHeld, (eq_of_view hview).1, Option.any_some]
  rw [hrun, hheld]
  -- What is left to the unit is one commit or one rollback.
  cases o with
  | done a =>
    obtain ⟨d₃, hcommit, hview₃⟩ := within_of_view hview Transaction.commit
    obtain ⟨d', hsettle, -⟩ := within_of_view hview Transaction.settle
    rw [runOutermost_of_done hopen hsteps hcommit, later_finished_iff hview₃,
      Transaction.commit_ends, hsettle]
    simp
  | failed e =>
    obtain ⟨d₃, hrollback, hview₃⟩ := within_of_view hview Transaction.rollback
    rw [runOutermost_of_failed hopen hsteps hrollback, later_finished_iff hview₃,
      Transaction.rollback_ends]
    simp
  | panicked p =>
    obtain ⟨d₃, hrollback, hview₃⟩ := within_of_view hview Transaction.rollback
    rw [runOutermost_of_panicked hopen hsteps hrollback, later_finished_iff hview₃,
      Transaction.rollback_ends]
    simp
  | suspended => exact absurd rfl hended

end Closure

/-! ## Programs as closures -/

namespace Program

/-- A program is a closure. -/
def closure (p : Program ε α) : Closure ε α where
  steps ctx := p.play ctx
  size_le ctx d := (stable_size d.transactions.size).play p ctx d (Nat.le_refl _)

/-- A closure in which a nested unit is dropped half-way. -/
def dropping : Program Unit Unit :=
  let pending : Program Unit Unit := .act (.insert .unit "b") fun _ => .pend
  .unit pending fun _ => .done ()

/-- A closure that lets a connection escape. -/
def escaping : Program Unit Unit :=
  .act (.insert .unit "a") fun _ => .act .checkOut fun _ => .done ()

end Program

namespace Closure

/-- The commit fails, but the transaction is over. -/
theorem run_finishes_dropping :
    let d : Database Store Session := { backend := { failures := ["COMMIT"] } }
    (Database.run Store .background Program.dropping.closure.steps d).1 =
      .failed (.commit (Store.injected "COMMIT")) ∧
    ∀ d', Later (Database.run Store .background Program.dropping.closure.steps d).2 d' →
      d'.Finished ⟨0⟩ := by
  intro d
  have heta {α : Type} {p : α × Database Store Session} {a : α} (h : p.1 = a) : p = (a, p.2) := by
    rw [← h]
  have hopen := heta (p := (begin : Work (Database Store Session) _ _) d) (a := .done ⟨0⟩)
    (by decide +kernel)
  have hsteps := heta (a := .done ()) (p := Program.dropping.closure.steps
    (Context.background.withTransaction ⟨0⟩) ((begin : Work (Database Store Session) _ _) d).2)
    (by decide +kernel)
  have hiff := run_finishes Program.dropping.closure rfl hopen hsteps (by decide)
  exact ⟨by decide +kernel, hiff.mpr ⟨by decide +kernel, fun _ => by decide +kernel⟩⟩

/-- The commit is refused because a connection escaped. Once it is given back, a unit in the escaped
    context succeeds, though what it writes will never be committed. -/
theorem escaping_not_finished :
    let d : Database Store Session := { backend := {} }
    let ctx := Context.background.withTransaction ⟨0⟩
    let giving : Program Unit Unit := .act .giveBack fun _ => .done ()
    let writing : Program Unit Nat := .act (.insert .unit "z") fun _ => .done 1
    let ended := (Database.run Store .background Program.escaping.closure.steps d).2
    let returned := (giving.play ctx ended).2
    (Database.run Store .background Program.escaping.closure.steps d).1 =
      .failed (.commit .transactionBusy) ∧
    (writing.run ctx returned).1 = .done 1 ∧ (writing.run ctx returned).2.backend.rows = [] ∧
    ¬ ∀ d', Later ended d' → d'.Finished ⟨0⟩ := by
  intro d ctx giving writing ended returned
  have hwritten : (writing.run ctx returned).1 = .done 1 := by decide +kernel
  refine ⟨by decide +kernel, hwritten, by decide +kernel, fun hfinished => ?_⟩
  have hrefused := (hfinished returned (.play .now giving ctx) ctx rfl).2 _ _ fun ctx =>
    writing.play ctx
  cases hwritten.symm.trans hrefused

end Closure

end SharedPages
