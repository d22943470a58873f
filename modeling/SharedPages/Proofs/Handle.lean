import SharedPages.Proofs.SavepointStack

/-!
# Runs of a transaction handle

Whoever holds a transaction can open savepoints, end them, arm guards for them,
check its connection out and write rows on it, and commit or roll back, in any
order, while the statements that fail change. A `Handle` is a transaction on
the recording store with the guards that are armed; `Handle.run` plays steps.

## Key results

- `perform_of_over`: a transaction without a session stays as it is
- `perform_moves`: a step ends an open transaction, or moves it
- `run_preserves`: what every move preserves holds of every run that leaves the transaction open
-/

namespace SharedPages

/-! ## Transactions that are over -/

namespace Transaction

variable {α β τ : Type} {t : Transaction τ}

/-- Why a transaction without a session refuses an operation. -/
def overError (t : Transaction τ) : DatabaseError :=
  if t.busy then .transactionBusy else .noActiveTransaction

variable [Backend β τ]

theorem send_of_over (h : t.session = none) (text : String) (b : β) :
    send text (t, b) = (.failed .noActiveTransaction, t, b) := by
  simp only [send, h]

private theorem gate_of_over (h : t.session = none) (b : β)
    (next : Work (Transaction τ × β) DatabaseError α)
    (hnext : next (t, b) = (.failed .noActiveTransaction, t, b)) :
    (do unlessBusy; settle; next : Work _ _ _) (t, b) = (.failed t.overError, t, b) := by
  cases hbusy : t.busy with
  | true =>
    rw [Work.bind_of_failed (unlessBusy_of_busy hbusy b), overError, if_pos hbusy]
  | false =>
    -- Settling needs a session, so nothing is sent, and the operation itself is refused.
    have hsettle : settle (t, b) = (.done (), t, b) := by
      simp only [settle, h]
      cases t.earliest? <;> rfl
    rw [Work.bind_of_done (unlessBusy_of_idle hbusy b), Work.bind_of_done hsettle, hnext, overError,
      if_neg (by simp [hbusy])]

omit [Backend β τ] in
private theorem ifActive_of_over (h : t.session = none) (b : β)
    (next : Unit → Work (Transaction τ × β) DatabaseError α) :
    (ifActive >>= next) (t, b) = (.failed .noActiveTransaction, t, b) :=
  Work.bind_of_failed (by simp [ifActive, h]) _

theorem checkOut_of_over (h : t.session = none) (b : β) :
    checkOut (t, b) = (.failed t.overError, t, b) :=
  gate_of_over h b _ (ifActive_of_over h b _)

theorem openSavepoint_of_over (h : t.session = none) (b : β) :
    openSavepoint (t, b) = (.failed t.overError, t, b) :=
  gate_of_over h b _ (ifActive_of_over h b _)

theorem rollbackTo_of_over (h : t.session = none) (b : β) (sp : Savepoint) :
    rollbackTo sp (t, b) = (.failed (.savepoint sp.name .rollbackTo t.overError), t, b) :=
  Work.mapError_of_failed (gate_of_over h b _ (send_of_over h _ b)) _

theorem release_of_over (h : t.session = none) (b : β) (sp : Savepoint) :
    release sp (t, b) = (.failed (.savepoint sp.name .release t.overError), t, b) :=
  Work.mapError_of_failed (gate_of_over h b _ (send_of_over h _ b)) _

theorem commit_of_over (h : t.session = none) (b : β) :
    commit (t, b) = (.failed t.overError, t, b) :=
  gate_of_over h b _ (Work.bind_of_failed (take_of_none h b) _)

theorem rollback_of_over (h : t.session = none) (b : β) :
    rollback (t, b) = (.failed t.overError, t, b) := by
  cases hbusy : t.busy with
  | true =>
    rw [rollback, Work.bind_of_failed (unlessBusy_of_busy hbusy b), overError, if_pos hbusy]
  | false =>
    rw [rollback, Work.bind_of_done (unlessBusy_of_idle hbusy b),
      Work.bind_of_failed (take_of_none h b), overError, if_neg (by simp [hbusy])]

end Transaction

/-! ## Steps -/

/-- A transaction on the recording store, and the guards that are armed for its savepoints. -/
structure Handle where
  transaction : Transaction Session
  store : Store
  guards : List Savepoint := []

namespace Handle

/-- What can be done with a handle. -/
inductive Step where
  | openSavepoint
  | rollbackTo (sp : Savepoint)
  | release (sp : Savepoint)
  | checkOut
  /-- Writes a row on the connection that is checked out. -/
  | insert (row : String)
  | giveBack
  | commit
  | rollback
  /-- Arms a guard for a savepoint. -/
  | arm (sp : Savepoint)
  | disarm (sp : Savepoint)
  /-- Drops an armed guard, which abandons its savepoint. -/
  | drop (sp : Savepoint)
  /-- Changes the statements that fail. -/
  | inject (failures : List String)

/-- Works on the transaction. -/
def work {α : Type} (w : Work (Transaction Session × Store) DatabaseError α) (h : Handle) :
    Outcome DatabaseError α × Handle :=
  let (o, t, s) := w (h.transaction, h.store)
  (o, { h with transaction := t, store := s })

/-- Takes a step. Opening a savepoint gives that savepoint. Nothing can be written without a
    connection, and only a guard that is armed can be disarmed or dropped. -/
def perform (h : Handle) : Step → Outcome DatabaseError (Option Savepoint) × Handle
  | .openSavepoint => let (o, h) := h.work Transaction.openSavepoint; (o.map some, h)
  | .rollbackTo sp => let (o, h) := h.work (Transaction.rollbackTo sp); (o.map fun _ => none, h)
  | .release sp => let (o, h) := h.work (Transaction.release sp); (o.map fun _ => none, h)
  | .checkOut => let (o, h) := h.work Transaction.checkOut; (o.map fun _ => none, h)
  | .insert row =>
    if h.transaction.busy then
      let (o, h) := h.work (Transaction.send ("INSERT " ++ row))
      (o.map fun _ => none, h)
    else (.failed .noActiveTransaction, h)
  | .giveBack => (.done none, { h with transaction := h.transaction.giveBack })
  | .commit => let (o, h) := h.work Transaction.commit; (o.map fun _ => none, h)
  | .rollback => let (o, h) := h.work Transaction.rollback; (o.map fun _ => none, h)
  | .arm sp => (.done none, { h with guards := sp :: h.guards })
  | .disarm sp => (.done none, { h with guards := h.guards.erase sp })
  | .drop sp =>
    if sp ∈ h.guards then
      (.done none,
        { h with guards := h.guards.erase sp, transaction := h.transaction.abandon sp })
    else (.done none, h)
  | .inject failures => (.done none, { h with store := { h.store with failures } })

/-- The rows that a step writes. -/
def wrote (h : Handle) (step : Step) : List String :=
  match step, (h.perform step).1 with
  | .insert row, .done _ => [row]
  | _, _ => []

/-- Plays steps. -/
def run (h : Handle) (steps : List Step) : Handle :=
  steps.foldl (fun h step => (h.perform step).2) h

/-- The rows that steps write, in their order. -/
def writes (h : Handle) : List Step → List String
  | [] => []
  | step :: steps => h.wrote step ++ (h.perform step).2.writes steps

/-- A handle of a transaction that was just begun. -/
def fresh (label : String) (store : Store) : Handle :=
  { transaction := (OpenTransaction.fresh label).toTransaction, store }

/-! ## What a step does -/

/-- A transaction without a session stays without one. -/
theorem perform_of_over {h : Handle} (hover : h.transaction.session = none) (step : Step) :
    (h.perform step).2.transaction.session = none := by
  cases step with
  | openSavepoint =>
    simp only [perform, work, Transaction.openSavepoint_of_over hover, hover]
  | rollbackTo sp => simp only [perform, work, Transaction.rollbackTo_of_over hover, hover]
  | release sp => simp only [perform, work, Transaction.release_of_over hover, hover]
  | checkOut => simp only [perform, work, Transaction.checkOut_of_over hover, hover]
  | insert row =>
    -- Only a held session could be written on, and there is none.
    simp only [perform, work, Transaction.send_of_over hover]
    split <;> exact hover
  | giveBack => exact hover
  | commit => simp only [perform, work, Transaction.commit_of_over hover, hover]
  | rollback => simp only [perform, work, Transaction.rollback_of_over hover, hover]
  | arm sp => exact hover
  | disarm sp => exact hover
  | drop sp =>
    -- An armed guard notes its savepoint, a disarmed one does nothing.
    simp only [perform]
    split <;> exact hover
  | inject failures => exact hover

theorem run_of_over {h : Handle} (hover : h.transaction.session = none) (steps : List Step) :
    (h.run steps).transaction.session = none := by
  induction steps generalizing h with
  | nil => exact hover
  | cons step steps ih => exact ih (perform_of_over hover step)

section Open

open OpenTransaction

variable {t : OpenTransaction}

/-- A step ends an open transaction, or moves it. -/
theorem perform_moves {h : Handle} (ht : h.transaction = t.toTransaction) (step : Step) :
    (h.perform step).2.transaction.session = none ∨
      ∃ t', (h.perform step).2.transaction = t'.toTransaction ∧ Moves t (h.wrote step) t' := by
  obtain ⟨_, s, guards⟩ := h
  subst ht
  -- Behind the gate, whatever the step does comes after the transaction was settled.
  cases step with
  | openSavepoint =>
    right
    simp only [perform, work, openSavepoint_eq]
    cases hgate : t.gate? s with
    | some e => exact ⟨t, rfl, .refl t⟩
    | none =>
      have hsettle := Moves.single (.settle t (obstacle?_of_gate?_none hgate))
      cases t.numbered.refusal? (t.noteGate s) (.create t.next) with
      | none => exact ⟨_, rfl, hsettle.tail (numbered_after_create t ▸ .create t.settled)⟩
      | some e => exact ⟨_, rfl, hsettle.tail (.rest rfl rfl (by simp [numbered]) (by simp))⟩
  | rollbackTo sp =>
    right
    simp only [perform, work, rollbackTo_eq]
    cases hgate : t.gate? s with
    | some e => exact ⟨t, rfl, .refl t⟩
    | none =>
      have hsettle := Moves.single (.settle t (obstacle?_of_gate?_none hgate))
      cases t.settled.refusal? (t.noteGate s) (.rollbackTo sp) with
      | none => exact ⟨_, rfl, hsettle.tail (.rollbackTo _ sp)⟩
      | some e => exact ⟨_, rfl, hsettle⟩
  | release sp =>
    right
    simp only [perform, work, release_eq]
    cases hgate : t.gate? s with
    | some e => exact ⟨t, rfl, .refl t⟩
    | none =>
      have hsettle := Moves.single (.settle t (obstacle?_of_gate?_none hgate))
      cases t.settled.refusal? (t.noteGate s) (.release sp) with
      | none => exact ⟨_, rfl, hsettle.tail (.release _ sp)⟩
      | some e => exact ⟨_, rfl, hsettle⟩
  | checkOut =>
    right
    simp only [perform, work, checkOut_eq]
    cases hgate : t.gate? s with
    | some e => exact ⟨t, rfl, .refl t⟩
    | none =>
      have hsettle := Moves.single (.settle t (obstacle?_of_gate?_none hgate))
      exact ⟨_, rfl, hsettle.tail (.rest rfl rfl (Nat.le_refl _) (by simp))⟩
  | insert row =>
    -- A connection that is checked out writes past the gate.
    right
    have hsend := t.send_text s (.insert row)
    cases hbusy : t.busy with
    | false =>
      have hbusy' : t.toTransaction.busy = false := hbusy
      simp only [wrote, perform, hbusy']
      exact ⟨t, rfl, .refl t⟩
    | true =>
      have hbusy' : t.toTransaction.busy = true := hbusy
      simp only [Order.text] at hsend
      simp only [wrote, perform, work, hbusy', if_true, hsend]
      cases t.refusal? s (.insert row) with
      | none => exact ⟨_, rfl, .single (.insert t row)⟩
      | some e => exact ⟨t, rfl, .refl t⟩
  | giveBack =>
    exact .inr ⟨{ t with busy := false }, rfl,
      .single (.rest rfl rfl (Nat.le_refl _) (List.Subset.refl _))⟩
  | commit =>
    simp only [perform, work, commit_eq]
    cases t.gate? s with
    | some e => exact .inr ⟨t, rfl, .refl t⟩
    | none =>
      -- Behind the gate the session is gone, whether the statement succeeds or not.
      left
      simp only
      split <;> rfl
  | rollback =>
    simp only [perform, work, rollback_eq]
    cases hbusy : t.busy with
    | true => exact .inr ⟨t, rfl, .refl t⟩
    | false => exact .inl rfl
  | arm sp => exact .inr ⟨t, rfl, .refl t⟩
  | disarm sp => exact .inr ⟨t, rfl, .refl t⟩
  | drop sp =>
    right
    simp only [perform]
    split
    · exact ⟨{ t with abandoned := sp :: t.abandoned }, rfl,
        .single (.rest rfl rfl (Nat.le_refl _) (List.subset_cons_self sp t.abandoned))⟩
    · exact ⟨t, rfl, .refl t⟩
  | inject failures => exact .inr ⟨t, rfl, .refl t⟩

private theorem run_preserves_from {J : List String → OpenTransaction → Prop}
    (hmove : ∀ {t written more t'}, J written t → Move t more t' → J (written ++ more) t')
    {h : Handle} {written : List String} (ht : h.transaction = t.toTransaction)
    (hJ : J written t) (steps : List Step) :
    (h.run steps).transaction.session = none ∨
      ∃ t', (h.run steps).transaction = t'.toTransaction ∧ J (written ++ h.writes steps) t' := by
  -- The rows written so far are generalized, since each step adds to them.
  induction steps generalizing h t written with
  | nil => exact .inr ⟨t, ht, by simpa [writes] using hJ⟩
  | cons step steps ih =>
    rcases perform_moves ht step with hover | ⟨t', ht', hmoves⟩
    · exact .inl (run_of_over hover steps)
    · have hrun := ih ht' (hmoves.preserves hmove hJ)
      rw [List.append_assoc] at hrun
      exact hrun

/-- What every move preserves holds after every run that leaves the transaction open. The
    property may speak of the rows written so far. -/
theorem run_preserves {J : List String → OpenTransaction → Prop}
    (hmove : ∀ {t written more t'}, J written t → Move t more t' → J (written ++ more) t')
    {h : Handle} (ht : h.transaction = t.toTransaction) (hJ : J [] t) (steps : List Step) :
    (h.run steps).transaction.session = none ∨
      ∃ t', (h.run steps).transaction = t'.toTransaction ∧ J (h.writes steps) t' :=
  run_preserves_from hmove ht hJ steps

end Open

end Handle

end SharedPages
