import SharedPages.Proofs.Handle
import SharedPages.Proofs.Program

/-!
# What every program preserves

An invariant of a database is preserved by every program, in whatever context
it plays, if it is preserved by the few things that programs are made of:
beginning a transaction, working on one, and giving back or abandoning what was
taken (`Database.Stable`). Working on a transaction may be counted on to leave
it alone once it is over (`Transaction.Inert`).

## Key results

- `Work.Keeps.bind`: work one after another
- `Database.Stable.play`: what programs preserve
-/

namespace SharedPages

/-! ## Work that keeps an invariant -/

namespace Work

variable {σ ε ε' α β : Type} {I : σ → Prop} {w : Work σ ε α}

/-- The work keeps an invariant of the state, however it ends. -/
def Keeps (I : σ → Prop) (w : Work σ ε α) : Prop := ∀ s, I s → I (w s).2

theorem keeps_done (a : α) : (Work.done a : Work σ ε α).Keeps I := fun _ h => h

theorem keeps_fail (e : ε) : (Work.fail e : Work σ ε α).Keeps I := fun _ h => h

theorem keeps_panic (p : Panic) : (Work.panic p : Work σ ε α).Keeps I := fun _ h => h

theorem keeps_pend : (Work.pend : Work σ ε α).Keeps I := fun _ h => h

theorem keeps_modify {f : σ → σ} (hf : ∀ s, I s → I (f s)) :
    (Work.modify f : Work σ ε Unit).Keeps I := hf

/-- Work one after another. -/
theorem Keeps.bind {next : α → Work σ ε β} (hw : w.Keeps I) (hnext : ∀ a, (next a).Keeps I) :
    (w >>= next).Keeps I := by
  intro s hs
  have hkept := hw s hs
  -- Only work that is done goes on; any other end is the end of it all.
  cases hws : w s with
  | mk o s' =>
    rw [hws] at hkept
    cases o with
    | done a =>
      rw [bind_of_done hws]
      exact hnext a s' hkept
    | failed e => rwa [bind_of_failed hws]
    | panicked p => rwa [bind_of_panicked hws]
    | suspended => rwa [bind_of_suspended hws]

theorem Keeps.mapError (hw : w.Keeps I) (f : ε → ε') : (w.mapError f).Keeps I := hw

theorem Keeps.outcome (hw : w.Keeps I) : (w.outcome : Work σ ε' _).Keeps I := hw

theorem Keeps.ensuring {last : σ → σ} (hw : w.Keeps I) (hlast : ∀ s, I s → I (last s)) :
    (w.ensuring last).Keeps I := fun s hs => hlast _ (hw s hs)

end Work

/-! ## Transactions that are over -/

/-- The work leaves a transaction alone that has no session. -/
def Transaction.Inert {α : Type} (w : Work (Transaction Session × Store) DatabaseError α) : Prop :=
  ∀ (t : Transaction Session) (s : Store), t.session = none → (w (t, s)).2.1 = t

namespace Transaction

theorem inert_send (text : String) : Inert (send text) := fun _ s h => by rw [send_of_over h text s]

theorem inert_checkOut : Inert checkOut := fun _ s h => by rw [checkOut_of_over h s]

theorem inert_openSavepoint : Inert openSavepoint := fun _ s h => by rw [openSavepoint_of_over h s]

theorem inert_rollbackTo (sp : Savepoint) : Inert (rollbackTo sp) :=
  fun _ s h => by rw [rollbackTo_of_over h s sp]

theorem inert_release (sp : Savepoint) : Inert (release sp) :=
  fun _ s h => by rw [release_of_over h s sp]

theorem inert_commit : Inert commit := fun _ s h => by rw [commit_of_over h s]

theorem inert_rollback : Inert rollback := fun _ s h => by rw [rollback_of_over h s]

end Transaction

/-! ## Invariants of a database -/

namespace Database

open Transaction Work

/-- An invariant that is preserved by everything that programs are made of. -/
structure Stable (I : Database Store Session → Prop) : Prop where
  onBackend {ε α : Type} (w : Work Store ε α) : (onBackend w).Keeps I
  adopt {ε : Type} (session : Session) : (adopt session : Work _ ε _).Keeps I
  within {α : Type} (id : TransactionId)
    {w : Work (Transaction Session × Store) DatabaseError α} (hw : Inert w) : (within id w).Keeps I
  /-- A transaction keeps its session and is not made busy. -/
  change (id : TransactionId) {f : Transaction Session → Transaction Session}
    (hsession : ∀ t, (f t).session = t.session) (hbusy : ∀ t, (f t).busy = true → t.busy = true)
    (d : Database Store Session) : I d → I (change id f d)

namespace Stable

variable {I : Database Store Session → Prop} (hI : Stable I) {ε α γ : Type}
include hI

theorem checkOut (client : Client) :
    (Database.checkOut client : Work (Database Store Session) _ _).Keeps I := by
  cases client with
  | pool role => exact hI.onBackend _
  | transaction id => exact hI.within id inert_checkOut

theorem giveBack (client : Client) (d : Database Store Session) (h : I d) :
    I (Database.giveBack client d) := by
  cases client with
  | pool role => exact h
  | transaction id =>
    have hbusy (t : Transaction Session) (h : t.giveBack.busy = true) : t.busy = true := by cases h
    exact hI.change id (f := .giveBack) (fun _ => rfl) hbusy d h

theorem execute (text : String) (client : Client) :
    (Database.execute text client : Work (Database Store Session) _ _).Keeps I := by
  cases client with
  | pool role => exact hI.onBackend _
  | transaction id => exact hI.within id (inert_send text)

theorem withConnection {client : Client} {fault : DatabaseError → ε}
    {w : Work (Database Store Session) ε α} (hw : w.Keeps I) :
    (Database.withConnection Store client fault w).Keeps I :=
  .bind ((hI.checkOut client).mapError fault) fun _ => hw.ensuring (hI.giveBack client)

/-- A program preserves the invariant with each action. -/
theorem perform (action : Action γ) (ctx : Context) : (action.perform ctx).Keeps I := by
  -- On a held session the work is done directly, and without one nothing is done.
  have honHeld {γ : Type} {w : Client → Work (Database Store Session) DatabaseError γ}
      (hw : ∀ client, (w client).Keeps I) : (onHeld ctx w).Keeps I := by
    intro d hd
    simp only [onHeld]
    split
    · split
      · exact hw _ d hd
      · exact hd
    · exact hd
  have hvisible (client : Client) : (visibleRows client).Keeps I := fun _ h => h
  -- Every place is one of the ways of reaching a connection that keep the invariant.
  cases action with
  | insert place row =>
    cases place with
    | unit => exact hI.withConnection (hI.execute _ _)
    | held => exact honHeld (hI.execute _)
    | outside => exact hI.withConnection (hI.execute _ _)
  | read place =>
    cases place with
    | unit => exact hI.withConnection (hvisible _)
    | held => exact honHeld hvisible
    | outside => exact hI.withConnection (hvisible _)
  | checkOut => exact hI.checkOut _
  | giveBack => exact keeps_modify (hI.giveBack _)
  | inject failures => exact hI.onBackend _

theorem runNested (id : TransactionId) {steps : Work (Database Store Session) ε α}
    (hsteps : steps.Keeps I) : (Database.runNested Store id steps).Keeps I := by
  refine .bind ((hI.within id inert_openSavepoint).mapError _) fun sp => ?_
  refine .bind hsteps.outcome fun o => ?_
  have hrollback := hI.within id (inert_rollbackTo sp)
  cases o with
  | done a =>
    exact .bind ((hI.within id (inert_release sp)).mapError _) fun _ => keeps_done a
  | failed e =>
    refine .bind hrollback.outcome fun o => ?_
    cases o <;> exact keeps_fail _
  | panicked p => exact .bind hrollback.outcome fun _ => keeps_panic p
  | suspended =>
    refine .bind (keeps_modify fun d => ?_) fun _ => keeps_pend
    exact hI.change id (f := .abandon sp) (fun _ => rfl) (fun _ h => h) d

theorem runOutermost {steps : TransactionId → Work (Database Store Session) ε α}
    (hsteps : ∀ id, (steps id).Keeps I) : (Database.runOutermost Store steps).Keeps I := by
  have hbegin : (begin : Work (Database Store Session) _ _).Keeps I :=
    .bind (hI.onBackend _) hI.adopt
  refine .bind (hbegin.mapError _) fun id => ?_
  refine .bind (hsteps id).outcome fun o => ?_
  have hrollback := hI.within id inert_rollback
  cases o with
  | done a => exact .bind ((hI.within id inert_commit).mapError _) fun _ => keeps_done a
  | failed e =>
    refine .bind hrollback.outcome fun o => ?_
    cases o <;> exact keeps_fail _
  | panicked p => exact .bind hrollback.outcome fun _ => keeps_panic p
  | suspended => exact keeps_pend

theorem run {steps : Context → Work (Database Store Session) ε α}
    (hsteps : ∀ ctx, (steps ctx).Keeps I) (ctx : Context) :
    (Database.run Store ctx steps).Keeps I := by
  simp only [Database.run]
  split
  · exact hI.runNested _ (hsteps ctx)
  · exact hI.runOutermost fun id => hsteps _

/-- A program preserves the invariant, in whatever context it plays. -/
theorem play (p : Program ε α) (ctx : Context) : (p.play ctx).Keeps I := by
  induction p generalizing ctx with
  | done value => exact keeps_done value
  | fail error => exact keeps_fail error
  | panic payload => exact keeps_panic payload
  | pend => exact keeps_pend
  | act action next ih => exact .bind (hI.perform action ctx).outcome fun o => ih o ctx
  | unit body next ihbody ihnext => exact .bind (hI.run ihbody ctx).outcome fun o => ihnext o ctx

end Stable

end Database

end SharedPages
