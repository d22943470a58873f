import SharedPages.Proofs.Outermost
import SharedPages.Proofs.SentStatements

/-!
# What the server gets around a unit of work

A server logs what it gets. Around the steps of a unit of work, that is what opens
the unit and, after the steps, what undoes them or closes the unit. What that is
depends on whether there is an enclosing unit: then it is a savepoint of that
one's transaction, and if savepoints were abandoned in it, the transaction first
goes back to the earliest of them. A unit's `Bracket` is all of this.

Each of these statements may be refused. A unit that cannot be opened fails, and
its steps never run. Steps that leave the transaction at rest (`Resting`) are
undone or closed by one statement, whatever comes of it.

## Key results

- `Transaction.openSavepoint_cases`: what is sent to open a savepoint
- `Sql.Bracket.Opens.encloses`: what is sent around the steps of a unit
- `Sql.Bracket.run_of_not_opens`: a unit that cannot be opened
-/

namespace SharedPages

open Scenario (World)

namespace Sql

variable {pool : PoolRole} {e : Endpoint}

/-! ## The log -/

namespace Endpoint

/-- The server after it got some statements, oldest first. -/
def got (calls : List Call) (e : Endpoint) : Endpoint := { e with log := calls.reverse ++ e.log }

@[simp] theorem got_got (calls calls' : List Call) (e : Endpoint) :
    (e.got calls).got calls' = e.got (calls ++ calls') := by
  simp [got]

/-- What comes of a statement without parameters. -/
def answer (e : Endpoint) (pool : PoolRole) (text : String) : Outcome DatabaseError Unit :=
  (e.refusal? pool text).elim (.done ()) fun r => .failed (.classify r.error)

@[simp] theorem answer_got (calls : List Call) (e : Endpoint) : (e.got calls).answer = e.answer :=
  rfl

theorem answer_of_accepted {text : String} (h : e.refusal? pool text = none) :
    e.answer pool text = .done () := by
  rw [answer, h]
  rfl

theorem answer_of_refused {text : String} (h : e.refusal? pool text ≠ none) :
    ∃ cause, e.answer pool text = .failed cause := by
  obtain ⟨r, hr⟩ := Option.ne_none_iff_exists'.mp h
  exact ⟨_, by rw [answer, hr]; rfl⟩

end Endpoint

/-- A statement without parameters, as it is logged. -/
def Call.plain (pool : PoolRole) (text : String) : Call := ⟨pool, { text }⟩

theorem Endpoint.plain_eq (pool : PoolRole) (text : String) (e : Endpoint) :
    Endpoint.plain pool text e = (e.answer pool text, e.got [.plain pool text]) := by
  simp only [Endpoint.plain, Endpoint.answer]
  cases e.refusal? pool text <;> rfl

end Sql

/-! ## Transactions on the server -/

namespace Transaction

open Sql

variable {pool : PoolRole} {t : Transaction PoolRole} {e : Endpoint}

/-- The session is open, no connection is checked out, and nothing is abandoned. -/
structure Resting (pool : PoolRole) (t : Transaction PoolRole) : Prop where
  session : t.session = some pool
  idle : t.busy = false
  settled : t.earliest? = none

/-- The savepoint that is opened next. -/
def upcoming (t : Transaction PoolRole) : Savepoint := ⟨t.issued + 1⟩

/-- What is sent to open a savepoint. If savepoints were abandoned, the transaction first goes back
    to the earliest of them. -/
def opening (t : Transaction PoolRole) : List String :=
  (t.earliest?.map (·.rollbackStatement)).toList ++ [t.upcoming.createStatement]

/-- A statement is sent on the session, and leaves the transaction as it is. -/
theorem send_logged (h : t.session = some pool) (text : String) (e : Endpoint) :
    send text (t, e) = (e.answer pool text, t, e.got [.plain pool text]) := by
  obtain ⟨session, issued, abandoned, busy⟩ := t
  cases h
  have hplain := Endpoint.plain_eq pool text e
  simp only [send, Backend.execute, hplain]

theorem settle_of_settled (h : t.earliest? = none) (e : Endpoint) :
    settle (t, e) = (.done (), t, e) := by
  simp only [settle, h]

/-- Nothing of what opens a savepoint is refused. -/
def Accepted (pool : PoolRole) (t : Transaction PoolRole) (e : Endpoint) : Prop :=
  ∀ text ∈ t.opening, e.refusal? pool text = none

/-- Once nothing is abandoned any more, a savepoint is opened by one statement. -/
theorem openSavepoint_of_settle {t₁ : Transaction PoolRole} {e₁ : Endpoint}
    (hidle : t.busy = false) (hsettle : settle (t, e) = (.done (), t₁, e₁))
    (hsession : t₁.session = some pool) :
    (e₁.refusal? pool t₁.upcoming.createStatement = none ∧
      openSavepoint (t, e) = (.done t₁.upcoming, { t₁ with issued := t₁.issued + 1 },
        e₁.got [.plain pool t₁.upcoming.createStatement])) ∨
    (e₁.refusal? pool t₁.upcoming.createStatement ≠ none ∧
      ∃ cause p, openSavepoint (t, e) = (.failed cause, p)) := by
  have hactive : ifActive (t₁, e₁) = (.done (), t₁, e₁) := by
    simp only [ifActive, hsession]
    rfl
  have hsend := send_logged (t := { t₁ with issued := t₁.issued + 1 }) hsession
    t₁.upcoming.createStatement e₁
  -- The three steps before the statement are passed, so it alone decides.
  have hopen : openSavepoint (t, e) = _ :=
    (Work.bind_of_done (unlessBusy_of_idle hidle e) _).trans
      ((Work.bind_of_done hsettle _).trans (Work.bind_of_done hactive _))
  by_cases haccepted : e₁.refusal? pool t₁.upcoming.createStatement = none
  · rw [Endpoint.answer_of_accepted haccepted] at hsend
    exact .inl ⟨haccepted, hopen.trans (Work.bind_of_done (Work.mapError_of_done hsend _) _)⟩
  · obtain ⟨cause, hcause⟩ := Endpoint.answer_of_refused haccepted
    rw [hcause] at hsend
    exact .inr ⟨haccepted, _, _, hopen.trans
      (Work.bind_of_failed (Work.mapError_of_failed hsend _) _)⟩

/-- A savepoint is opened, unless something that is sent for it is refused. -/
theorem openSavepoint_cases (hidle : t.busy = false) (hsession : t.session = some pool) :
    (t.Accepted pool e ∧ ∃ t', t'.Resting pool ∧
      openSavepoint (t, e) = (.done t.upcoming, t', e.got (t.opening.map (.plain pool)))) ∨
    (¬ t.Accepted pool e ∧ ∃ cause p, openSavepoint (t, e) = (.failed cause, p)) := by
  cases hearliest : t.earliest? with
  | none =>
    have hopening : t.opening = [t.upcoming.createStatement] := by
      rw [opening, hearliest]
      rfl
    have haccepted : t.Accepted pool e ↔ e.refusal? pool t.upcoming.createStatement = none := by
      rw [Accepted, hopening, List.forall_mem_singleton]
    rw [haccepted, hopening]
    -- Nothing is abandoned, so one statement opens the savepoint.
    refine (openSavepoint_of_settle hidle (settle_of_settled hearliest e) hsession).imp_left ?_
    exact fun ⟨hcreate, hopen⟩ =>
      ⟨hcreate, { t with issued := t.issued + 1 }, ⟨hsession, hidle, hearliest⟩, hopen⟩
  | some sp =>
    have hopening : t.opening = [sp.rollbackStatement, t.upcoming.createStatement] := by
      rw [opening, hearliest]
      rfl
    have haccepted : t.Accepted pool e ↔ e.refusal? pool sp.rollbackStatement = none ∧
        e.refusal? pool t.upcoming.createStatement = none := by
      rw [Accepted, hopening, List.forall_mem_cons, List.forall_mem_singleton]
    have hsettle : settle (t, e) = (do
        (send sp.rollbackStatement).mapError (.savepoint sp.name .rollbackTo)
        update fun t => { t with abandoned := [] } : Work _ _ _) (t, e) := by
      simp only [settle, hearliest, hsession]
    have hsend := send_logged hsession sp.rollbackStatement e
    rw [haccepted, hopening]
    by_cases hback : e.refusal? pool sp.rollbackStatement = none
    · -- one abandoned savepoint is gone back to, which discards all of them
      rw [Endpoint.answer_of_accepted hback] at hsend
      have hsettled := hsettle.trans (Work.bind_of_done (Work.mapError_of_done hsend _) _)
      obtain ⟨hcreate, hopen⟩ | ⟨hcreate, hopen⟩ :=
        openSavepoint_of_settle hidle hsettled hsession
      · rw [Endpoint.got_got] at hopen
        exact .inl ⟨⟨hback, hcreate⟩, { t with issued := t.issued + 1, abandoned := [] },
          ⟨hsession, hidle, rfl⟩, hopen⟩
      · exact .inr ⟨fun h => hcreate h.2, hopen⟩
    · -- The way back is refused, so the savepoint is not even asked for.
      obtain ⟨cause, hcause⟩ := Endpoint.answer_of_refused hback
      rw [hcause] at hsend
      have hsettled := hsettle.trans (Work.bind_of_failed (Work.mapError_of_failed hsend _) _)
      exact .inr ⟨fun h => hback h.1, _, _, (Work.bind_of_done (unlessBusy_of_idle hidle e) _).trans
        (Work.bind_of_failed hsettled _)⟩

/-- No savepoint is opened in a transaction that is busy or over. -/
theorem openSavepoint_of_not_idle (h : t.busy = true ∨ t.session = none) :
    ∃ cause p, openSavepoint (t, e) = (.failed cause, p) := by
  by_cases hbusy : t.busy = true
  · exact ⟨_, _, Work.bind_of_failed (unlessBusy_of_busy hbusy e) _⟩
  · have hsession := h.resolve_left hbusy
    -- without a session, there is nothing to go back in
    have hsettle : settle (t, e) = (.done (), t, e) := by
      obtain ⟨session, issued, abandoned, busy⟩ := t
      cases hsession
      simp only [settle]
      split <;> first | rfl | contradiction
    have hactive : ifActive (t, e) = (.failed .noActiveTransaction, t, e) := by
      simp only [ifActive, hsession]
      rfl
    exact ⟨_, _, (Work.bind_of_done (unlessBusy_of_idle (by simpa using hbusy) e) _).trans
      ((Work.bind_of_done hsettle _).trans (Work.bind_of_failed hactive _))⟩

theorem openSavepoint_of_not_accepted
    (h : ∀ pool, t.busy = false → t.session = some pool → ¬ t.Accepted pool e) :
    ∃ cause p, openSavepoint (t, e) = (.failed cause, p) := by
  cases hbusy : t.busy with
  | true => exact openSavepoint_of_not_idle (.inl hbusy)
  | false =>
    cases hsession : t.session with
    | none => exact openSavepoint_of_not_idle (.inr hsession)
    | some pool =>
      obtain ⟨haccepted, -⟩ | ⟨-, hfailed⟩ := openSavepoint_cases (e := e) hbusy hsession
      · exact absurd haccepted (h pool hbusy hsession)
      · exact hfailed

section Resting

variable (h : t.Resting pool)
include h

theorem checkOut_resting (e : Endpoint) :
    checkOut (t, e) = (.done (), { t with busy := true }, e) := by
  have hactive : ifActive (t, e) = (.done (), t, e) := by
    simp only [ifActive, h.session]
    rfl
  exact (Work.bind_of_done (unlessBusy_of_idle h.idle e) _).trans
    ((Work.bind_of_done (settle_of_settled h.settled e) _).trans (Work.bind_of_done hactive _))

theorem gated_send_resting (text : String) (f : DatabaseError → DatabaseError) (e : Endpoint) :
    (do unlessBusy; settle; send text : Work _ _ _).mapError f (t, e) =
      ((e.answer pool text).mapError f, t, e.got [.plain pool text]) := by
  have hgate : (do unlessBusy; settle; send text : Work _ _ _) (t, e) = _ :=
    (Work.bind_of_done (unlessBusy_of_idle h.idle e) _).trans
      ((Work.bind_of_done (settle_of_settled h.settled e) _).trans (send_logged h.session text e))
  simp only [Work.mapError, Work.mapOutcome, hgate]

theorem rollbackTo_resting (sp : Savepoint) (e : Endpoint) :
    rollbackTo sp (t, e) = ((e.answer pool sp.rollbackStatement).mapError
      (.savepoint sp.name .rollbackTo), t, e.got [.plain pool sp.rollbackStatement]) :=
  gated_send_resting h sp.rollbackStatement _ e

theorem release_resting (sp : Savepoint) (e : Endpoint) :
    release sp (t, e) = ((e.answer pool sp.releaseStatement).mapError
      (.savepoint sp.name .release), t, e.got [.plain pool sp.releaseStatement]) :=
  gated_send_resting h sp.releaseStatement _ e

theorem commit_resting (e : Endpoint) :
    ∃ t', commit (t, e) = (e.answer pool "COMMIT", t', e.got [.plain pool "COMMIT"]) := by
  have hplain := Endpoint.plain_eq pool "COMMIT" e
  refine ⟨{ t with session := none }, (Work.bind_of_done (unlessBusy_of_idle h.idle e) _).trans
    ((Work.bind_of_done (settle_of_settled h.settled e) _).trans
      ((Work.bind_of_done (take_of_some h.session e) _).trans ?_))⟩
  simp only [onBackend, Backend.commit, hplain]

theorem rollback_resting (e : Endpoint) :
    ∃ t', rollback (t, e) = (e.answer pool "ROLLBACK", t', e.got [.plain pool "ROLLBACK"]) := by
  have hplain := Endpoint.plain_eq pool "ROLLBACK" e
  refine ⟨{ t with session := none, abandoned := [] },
    (Work.bind_of_done (unlessBusy_of_idle h.idle e) _).trans
      ((Work.bind_of_done (take_of_some h.session e) _).trans
        ((Work.bind_modify _ _ _).trans ?_))⟩
  simp only [onBackend, Backend.rollback, hplain]

end Resting

end Transaction

namespace Database

open Sql

/-- A transaction is begun on the write pool, unless that is closed or the statement is refused. -/
theorem begin_logged (d : Database Endpoint PoolRole) :
    (.write ∉ d.backend.closed ∧ d.backend.refusal? .write "BEGIN" = none ∧
      ∃ id d' t, (begin : Work (Database Endpoint PoolRole) _ _) d = (.done id, d') ∧
        t.Resting .write ∧ d'.view id = some (t, d.backend.got [.plain .write "BEGIN"])) ∨
    (¬ (.write ∉ d.backend.closed ∧ d.backend.refusal? .write "BEGIN" = none) ∧
      ∃ cause d', (begin : Work (Database Endpoint PoolRole) _ _) d = (.failed cause, d')) := by
  -- An error of the pool or of the statement is passed on.
  have hfailed {cause : DatabaseError} {e : Endpoint}
      (hsession : Backend.begin .write d.backend = (.failed cause, e)) :
      (begin : Work (Database Endpoint PoolRole) _ _) d =
        (.failed cause, { d with backend := e }) := by
    refine Work.bind_of_failed ?_ _
    simp only [onBackend, hsession]
  by_cases hclosed : .write ∈ d.backend.closed
  · have hunclosed : Endpoint.unlessClosed .write d.backend = _ := if_pos (by simpa using hclosed)
    exact .inr ⟨fun h => h.1 hclosed, _, _, hfailed (Work.bind_of_failed hunclosed _)⟩
  have hunclosed : Endpoint.unlessClosed .write d.backend = (.done (), d.backend) :=
    if_neg (by simpa using hclosed)
  -- The pool is open, so `BEGIN` is sent, and the server decides.
  have hplain := Endpoint.plain_eq .write "BEGIN" d.backend
  by_cases haccepted : d.backend.refusal? .write "BEGIN" = none
  · rw [Endpoint.answer_of_accepted haccepted] at hplain
    have hsession : Backend.begin .write d.backend =
        (.done .write, d.backend.got [.plain .write "BEGIN"]) :=
      (Work.bind_of_done hunclosed _).trans (Work.bind_of_done hplain _)
    have hbackend : onBackend (Backend.begin .write) d =
        (.done .write, { d with backend := d.backend.got [.plain .write "BEGIN"] }) := by
      simp only [onBackend, hsession]
    refine .inl ⟨hclosed, haccepted, _, _, { session := some .write },
      Work.bind_of_done hbackend _, ⟨rfl, rfl, rfl⟩, ?_⟩
    simp [view]
  · obtain ⟨cause, hcause⟩ := Endpoint.answer_of_refused haccepted
    rw [hcause] at hplain
    exact .inr ⟨fun h => haccepted h.2, _, _,
      hfailed ((Work.bind_of_done hunclosed _).trans (Work.bind_of_failed hplain _))⟩

theorem openSavepoint_of_not_accepted (id : TransactionId) {d : Database Endpoint PoolRole}
    (h : ∀ t pool, d.transactions[id.index]? = some t → t.busy = false → t.session = some pool →
      ¬ t.Accepted pool d.backend) :
    ∃ cause d', within id Transaction.openSavepoint d = (.failed cause, d') := by
  cases hfound : d.transactions[id.index]? with
  | none => exact ⟨.noActiveTransaction, d, by simp only [within, hfound]⟩
  | some t =>
    have hview : d.view id = some (t, d.backend) := by
      simp only [view, hfound, Option.map_some]
    obtain ⟨cause, p, hopen⟩ := Transaction.openSavepoint_of_not_accepted (h t · hfound)
    obtain ⟨d', hwithin, -⟩ := within_of_view hview Transaction.openSavepoint
    rw [hopen] at hwithin
    exact ⟨cause, d', hwithin⟩

end Database

namespace Sql

variable {ℓ ε α : Type} {ctx : Context} {w : World Endpoint PoolRole ℓ}

/-! ## What is sent around the steps of a unit -/

/-- What a unit of work sends before its steps, and what it sends after them, to undo them or to
    keep what they did. -/
structure Bracket where
  pool : PoolRole
  opening : List String
  undo : String
  close : String
deriving DecidableEq

namespace Bracket

/-- Without an enclosing unit, a transaction is begun. -/
def outermost : Bracket := ⟨.write, ["BEGIN"], "ROLLBACK", "COMMIT"⟩

/-- Inside of a unit, the next savepoint of its transaction is opened. -/
def nested (pool : PoolRole) (t : Transaction PoolRole) : Bracket :=
  ⟨pool, t.opening, t.upcoming.rollbackStatement, t.upcoming.releaseStatement⟩

/-- A unit of work in that context can be opened, with what it sends around its steps. -/
inductive Opens (ctx : Context) (d : Database Endpoint PoolRole) : Bracket → Prop where
  | outermost (outside : ctx.transaction? = none) (isOpen : .write ∉ d.backend.closed)
      (accepted : d.backend.refusal? .write "BEGIN" = none) : Opens ctx d .outermost
  | nested {id : TransactionId} {t : Transaction PoolRole} {pool : PoolRole}
      (inside : ctx.transaction? = some id) (found : d.transactions[id.index]? = some t)
      (idle : t.busy = false) (session : t.session = some pool)
      (accepted : t.Accepted pool d.backend) : Opens ctx d (.nested pool t)

/-- A unit of work in that context runs its steps in a transaction that is at rest, after what is
    sent to open the unit. If they leave the transaction so, it ends with one more statement. -/
def Encloses (b : Bracket) (ctx : Context) (w : World Endpoint PoolRole ℓ)
    (steps : Context → Work (World Endpoint PoolRole ℓ) ε α) : Prop :=
  ∃ ctx₁ id t w₁, ctx₁.transaction? = some id ∧ t.Resting b.pool ∧ w₁.supply = w.supply ∧
    w₁.database.view id = some (t, w.database.backend.got (b.opening.map (.plain b.pool))) ∧
    ∀ e₂ w₂, w₂.database.view id = some (t, e₂) →
      (∀ a, steps ctx₁ w₁ = (.done a, w₂) →
        ∃ (f : DatabaseError → TransactionError DatabaseError ε) (w' : World Endpoint PoolRole ℓ),
          Database.run Endpoint ctx steps w =
            (((e₂.answer b.pool b.close).map fun _ => a).mapError f, w') ∧
          w'.database.backend = e₂.got [.plain b.pool b.close]) ∧
      ∀ err, steps ctx₁ w₁ = (.failed err, w₂) →
        ∃ (f : DatabaseError → DatabaseError) (w' : World Endpoint PoolRole ℓ),
          Database.run Endpoint ctx steps w =
            (.failed (.afterRollback err ((e₂.answer b.pool b.undo).mapError f)), w') ∧
          w'.database.backend = e₂.got [.plain b.pool b.undo]

variable (steps : Context → Work (World Endpoint PoolRole ℓ) ε α)

theorem encloses_outermost {id : TransactionId} {d₁ : Database Endpoint PoolRole}
    {t : Transaction PoolRole} (houtside : ctx.transaction? = none)
    (hbegin : (Database.begin : Work (Database Endpoint PoolRole) _ _) w.database = (.done id, d₁))
    (hresting : t.Resting .write)
    (hview : d₁.view id = some (t, w.database.backend.got [.plain .write "BEGIN"])) :
    outermost.Encloses ctx w steps := by
  refine ⟨ctx.withTransaction id, id, t, { w with database := d₁ },
    ctx.transaction?_withTransaction id, hresting, rfl, hview, fun e₂ w₂ hview₂ => ?_⟩
  rw [Database.run_of_no_transaction steps houtside]
  refine ⟨fun a hsteps => ?_, fun err hsteps => ?_⟩
  · obtain ⟨t', hcommit⟩ := Transaction.commit_resting hresting e₂
    obtain ⟨d₃, hwithin, hview₃⟩ := Database.within_of_view hview₂ Transaction.commit
    rw [hcommit] at hwithin hview₃
    exact ⟨.commit, _, Database.runOutermost_of_done_on hbegin hsteps hwithin,
      (Database.eq_of_view hview₃).2⟩
  · obtain ⟨t', hrollback⟩ := Transaction.rollback_resting hresting e₂
    obtain ⟨d₃, hwithin, hview₃⟩ := Database.within_of_view hview₂ Transaction.rollback
    rw [hrollback] at hwithin hview₃
    -- what is said when the steps cannot be undone is passed on as it is
    have hsame (o : Outcome DatabaseError Unit) : o.mapError (fun cause => cause) = o := by
      cases o <;> rfl
    refine ⟨fun cause => cause, { w₂ with database := d₃ }, ?_, (Database.eq_of_view hview₃).2⟩
    rw [hsame]
    exact Database.runOutermost_of_failed_on hbegin hsteps hwithin

theorem encloses_nested {id : TransactionId} {d₁ : Database Endpoint PoolRole}
    {t t₁ : Transaction PoolRole} {pool : PoolRole} (hinside : ctx.transaction? = some id)
    (hopen : Database.within id Transaction.openSavepoint w.database = (.done t.upcoming, d₁))
    (hresting : t₁.Resting pool)
    (hview : d₁.view id = some (t₁, w.database.backend.got (t.opening.map (.plain pool)))) :
    (nested pool t).Encloses ctx w steps := by
  -- The steps run on the transaction as the opened savepoint left it, at rest.
  refine ⟨ctx, id, t₁, { w with database := d₁ }, hinside, hresting, rfl, hview,
    fun e₂ w₂ hview₂ => ?_⟩
  rw [Database.run_of_transaction steps hinside]
  refine ⟨fun a hsteps => ?_, fun err hsteps => ?_⟩
  · -- Steps that are done are followed by the release, whose answer is that of the unit.
    have hrelease := Transaction.release_resting hresting t.upcoming e₂
    obtain ⟨d₃, hwithin, hview₃⟩ :=
      Database.within_of_view hview₂ (Transaction.release t.upcoming)
    rw [hrelease] at hwithin hview₃
    refine ⟨fun cause => .release (.savepoint t.upcoming.name .release cause),
      { w₂ with database := d₃ }, (Database.runNested_of_done_on hopen hsteps hwithin).trans ?_,
      (Database.eq_of_view hview₃).2⟩
    show _ = (((e₂.answer pool t.upcoming.releaseStatement).map fun _ => a).mapError _, _)
    cases e₂.answer pool t.upcoming.releaseStatement <;> rfl
  · -- After steps that failed the unit fails anyway, whatever the server says to going back.
    have hrollback := Transaction.rollbackTo_resting hresting t.upcoming e₂
    obtain ⟨d₃, hwithin, hview₃⟩ :=
      Database.within_of_view hview₂ (Transaction.rollbackTo t.upcoming)
    rw [hrollback] at hwithin hview₃
    exact ⟨.savepoint t.upcoming.name .rollbackTo, _,
      Database.runNested_of_failed_on hopen hsteps hwithin, (Database.eq_of_view hview₃).2⟩

/-- A unit that can be opened sends what its bracket says, around whatever steps. -/
theorem Opens.encloses {b : Bracket} (h : Opens ctx w.database b) : b.Encloses ctx w steps := by
  cases h with
  | outermost houtside hopen haccepted =>
    -- That the unit opens excludes that its first statements are refused.
    obtain ⟨-, -, id, d₁, t, hbegin, hresting, hview⟩ | ⟨hnot, -⟩ :=
      Database.begin_logged w.database
    · exact encloses_outermost steps houtside hbegin hresting hview
    · exact absurd ⟨hopen, haccepted⟩ hnot
  | @nested id t pool hinside hfound hidle hsession haccepted =>
    have hview : w.database.view id = some (t, w.database.backend) := by
      simp only [Database.view, hfound, Option.map_some]
    obtain ⟨-, t₁, hresting, hopen⟩ | ⟨hnot, -⟩ :=
      Transaction.openSavepoint_cases (e := w.database.backend) hidle hsession
    · obtain ⟨d₁, hwithin, hview₁⟩ := Database.within_of_view hview Transaction.openSavepoint
      rw [hopen] at hwithin hview₁
      exact encloses_nested steps hinside hwithin hresting hview₁
    · exact absurd haccepted hnot

/-- The steps of any other unit never run, and the server gets nothing with parameters. -/
theorem run_of_not_opens (h : ∀ b, ¬ Opens ctx w.database b) :
    ∃ cause w', Database.run Endpoint ctx steps w = (.failed (.begin cause), w') ∧
      w'.database.backend.bound = w.database.backend.bound ∧
      w'.database.backend.replies = w.database.backend.replies := by
  suffices hfailed : ∃ cause d', Database.run Endpoint ctx steps w =
      (.failed (.begin cause), { w with database := d' }) ∧
      (d'.backend.bound, d'.backend.replies) =
        (w.database.backend.bound, w.database.backend.replies) by
    obtain ⟨cause, d', hrun, hseen⟩ := hfailed
    exact ⟨cause, _, hrun, Prod.mk.inj hseen⟩
  cases hctx : ctx.transaction? with
  | none =>
    -- `BEGIN` was refused or the pool is closed, and neither binds any values.
    obtain ⟨hopen, haccepted, -⟩ | ⟨-, cause, d', hbegin⟩ := Database.begin_logged w.database
    case inl => exact absurd (.outermost hctx hopen haccepted) (h _)
    have hseen := Database.see_begin Endpoint.hides_bound w.database
    rw [hbegin] at hseen
    rw [Database.run_of_no_transaction steps hctx]
    exact ⟨cause, d', Database.runOutermost_of_unopened_on hbegin, hseen⟩
  | some id =>
    -- The same holds of the statements that would have opened the savepoint.
    obtain ⟨cause, d', hopen⟩ := Database.openSavepoint_of_not_accepted id
      fun t pool hfound hidle hsession haccepted =>
        h _ (.nested hctx hfound hidle hsession haccepted)
    have hseen := Database.see_openSavepoint Endpoint.hides_bound id w.database
    rw [hopen] at hseen
    rw [Database.run_of_transaction steps hctx]
    exact ⟨cause, d', Database.runNested_of_unopened_on hopen, hseen⟩

end Bracket

end Sql

end SharedPages
