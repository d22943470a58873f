import SharedPages.Proofs.Lifetime

/-!
# The last statement of a transaction

A transaction is in many hands: everybody who has a clone of its handle, a client
of it or a context that carries it can commit it, roll it back, work with its
savepoints and check its connection out, in any order, while others use the
database as well (`Turn`). Whatever they do, the transaction sends one COMMIT or
ROLLBACK at most, and that is the last statement that it sends. Afterwards it
refuses everything and changes nothing, even if that statement failed.

A step of an open transaction leaves it open and sends no such statement, or it
sends one and the transaction is over. Commit is the only operation that can send
something else before, for it settles what was abandoned.

## Key results

- `OpenTransaction.Proceeds`: what an operation makes of an open transaction
- `Operation.run_of_over`: what is over refuses every operation and stays as it is
- `Turn.perform_of_open`, `Turn.perform_of_over`: single turns
- `Turn.play_ends_once`: all turns
-/

namespace SharedPages

open Database

/-- The statement ends a transaction. -/
def JournalEntry.isEnd (e : JournalEntry) : Bool :=
  e.statement == "COMMIT" || e.statement == "ROLLBACK"

/-! ## What is done with a transaction -/

/-- A way to reach a transaction. -/
inductive Access (id : TransactionId) where
  /-- The handle itself, or a clone of it. -/
  | handle
  /-- A context that carries the handle. -/
  | context (ctx : Context) (bound : ctx.transaction? = some id)

/-- What can be done with a transaction that one has reached. -/
inductive Operation where
  | commit
  | rollback
  | openSavepoint
  | rollbackTo (sp : Savepoint)
  | release (sp : Savepoint)
  /-- Checks a connection out, and keeps it. -/
  | checkOut (role : PoolRole)
  /-- Checks a connection out, writes a row and gives the connection back. -/
  | insert (role : PoolRole) (row : String)

/-- What happens next, to a transaction or elsewhere. -/
inductive Turn (id : TransactionId) where
  | use (a : Access id) (op : Operation)
  /-- Writes a row on the connection that is checked out, if one is. -/
  | write (row : String)
  | giveBack
  /-- A guard of a savepoint is dropped while it is armed. -/
  | abandon (sp : Savepoint)
  /-- Something happens to other transactions, or to the database behind them. -/
  | elsewhere (f : Database Store Session → Database Store Session)
    (apart : ∀ d, (f d).transactions[id.index]? = d.transactions[id.index]?)

variable {id : TransactionId} {t t' : OpenTransaction} {s s' s₁ : Store}
  {d d' : Database Store Session}

/-- The client for statements of that role. -/
def Access.client (role : PoolRole) : Access id → Client
  | handle => .transaction id
  | context ctx _ => .ofContext role ctx

/-- Does what is to be done. -/
def Operation.run (a : Access id) : Operation → Work (Database Store Session) DatabaseError Unit
  | commit => within id Transaction.commit
  | rollback => within id Transaction.rollback
  | openSavepoint => (within id Transaction.openSavepoint).mapOutcome (·.map fun _ => ())
  | rollbackTo sp => within id (Transaction.rollbackTo sp)
  | release sp => within id (Transaction.release sp)
  | checkOut role => Database.checkOut (a.client role)
  | insert role row => Database.statement (a.client role) ("INSERT " ++ row)

/-- How a transaction that is over refuses an operation. -/
def Operation.refusal : Operation → DatabaseError
  | rollbackTo sp => .savepoint sp.name .rollbackTo .noActiveTransaction
  | release sp => .savepoint sp.name .release .noActiveTransaction
  | _ => .noActiveTransaction

/-- The statements that a database has journalled since, oldest first. -/
def Database.journaled (d d' : Database Store Session) : List JournalEntry :=
  (d'.backend.journal.take (d'.backend.journal.length - d.backend.journal.length)).reverse

namespace Turn

/-- The database after a turn. -/
def perform (d : Database Store Session) : Turn id → Database Store Session
  | use a op => (op.run a d).2
  | write row =>
    if d.isHeld id then (Database.execute ("INSERT " ++ row) (.transaction id) d).2 else d
  | giveBack => Database.giveBack (.transaction id) d
  | abandon sp => change id (.abandon sp) d
  | elsewhere f _ => f d

/-- What the transaction sends in a turn. -/
def sent (d : Database Store Session) : Turn id → List JournalEntry
  | elsewhere _ _ => []
  | turn => d.journaled (turn.perform d)

/-- The database after some turns. -/
def play (d : Database Store Session) (turns : List (Turn id)) : Database Store Session :=
  turns.foldl perform d

/-- What the transaction sends in the course of some turns. -/
def allSent (d : Database Store Session) : List (Turn id) → List JournalEntry
  | [] => []
  | turn :: turns => turn.sent d ++ allSent (turn.perform d) turns

end Turn

/-! ## Journals -/

theorem Database.journaled_of_eq {more : List JournalEntry}
    (h : d'.backend.journal = more ++ d.backend.journal) : d.journaled d' = more.reverse := by
  simp [journaled, h]

theorem Database.journaled_self (d : Database Store Session) : d.journaled d = [] :=
  journaled_of_eq (List.nil_append _).symm

/-- No order ends a transaction. -/
theorem Order.isEnd_text (label : String) (o : Order) :
    JournalEntry.isEnd ⟨label, o.text⟩ = false := by
  -- A store reads other statements than orders from the two that do.
  have hread (text : String) (hother : Command.ofText text = .other) : o.text ≠ text := by
    intro h
    rw [← h, o.ofText_text] at hother
    cases o <;> cases hother
  simp [JournalEntry.isEnd, hread "COMMIT" (by decide), hread "ROLLBACK" (by decide)]

/-- Statements were journalled, and none of them ends a transaction. -/
def Store.Continues (s s' : Store) : Prop :=
  ∃ more, s'.journal = more ++ s.journal ∧ ∀ e ∈ more, e.isEnd = false

namespace Store.Continues

theorem of_journal_eq (h : s'.journal = s.journal) : s.Continues s' :=
  ⟨[], h, fun _ he => absurd he List.not_mem_nil⟩

theorem refl (s : Store) : s.Continues s := of_journal_eq rfl

/-- One more order is journalled. -/
theorem noted (h : s.Continues s') (label : String) (o : Order) :
    s.Continues (s'.noted label o.text) := by
  obtain ⟨more, hjournal, hmore⟩ := h
  refine ⟨⟨label, o.text⟩ :: more, by simp [Store.noted, hjournal], ?_⟩
  rintro e (_ | ⟨_, he⟩)
  · exact o.isEnd_text label
  · exact hmore e he

theorem noteGate (t : OpenTransaction) (s : Store) : s.Continues (t.noteGate s) := by
  simp only [OpenTransaction.noteGate, OpenTransaction.noteSettling]
  split
  · exact refl s
  · split
    · exact refl s
    · exact (refl s).noted _ (.rollbackTo _)

end Store.Continues

/-! ## Open transactions -/

/-- What becomes of an open transaction and its store in one step. -/
inductive OpenTransaction.Proceeds (t : OpenTransaction) (s : Store) :
    Transaction Session × Store → Prop where
  /-- The transaction stays open. -/
  | on {t' : OpenTransaction} {s' : Store} (continues : s.Continues s') :
    Proceeds t s (t'.toTransaction, s')
  /-- The transaction ends with one last statement. -/
  | ends {s₁ s' : Store} (last : JournalEntry) (continues : s.Continues s₁)
    (journal_eq : s'.journal = last :: s₁.journal) (isEnd : last.isEnd = true) :
    Proceeds t s (t.closed, s')

namespace OpenTransaction

theorem openSavepoint_proceeds (t : OpenTransaction) (s : Store) :
    t.Proceeds s (Transaction.openSavepoint (t.toTransaction, s)).2 := by
  have hgate := Store.Continues.noteGate t s
  rw [openSavepoint_eq]
  cases t.gate? s with
  | some e => exact .on hgate
  | none =>
    cases t.numbered.refusal? (t.noteGate s) (.create t.next) <;> exact .on (hgate.noted _ _)

/-- What is sent behind the gate does not end the transaction. -/
theorem gated_send_proceeds (t : OpenTransaction) (s : Store) (o : Order)
    (f : DatabaseError → DatabaseError) :
    t.Proceeds s (Work.mapError f
      (do Transaction.unlessBusy; Transaction.settle; Transaction.send o.text)
      (t.toTransaction, s)).2 := by
  have hgate := Store.Continues.noteGate t s
  rw [gated_send_eq]
  cases t.gate? s with
  | some e => exact .on hgate
  | none => cases t.settled.refusal? (t.noteGate s) o <;> exact .on (hgate.noted _ _)

theorem commit_proceeds (t : OpenTransaction) (s : Store) :
    t.Proceeds s (Transaction.commit (t.toTransaction, s)).2 := by
  have hgate := Store.Continues.noteGate t s
  rw [commit_eq]
  cases t.gate? s with
  | some e => exact .on hgate
  | none =>
    -- The session is taken before the statement is sent, so it is gone even if that fails.
    simp only
    split <;> exact .ends ⟨t.label, "COMMIT"⟩ hgate rfl (by simp [JournalEntry.isEnd])

theorem rollback_proceeds (t : OpenTransaction) (s : Store) :
    t.Proceeds s (Transaction.rollback (t.toTransaction, s)).2 := by
  rw [rollback_eq]
  split
  · exact .on (.refl s)
  · exact .ends ⟨t.label, "ROLLBACK"⟩ (.refl s) rfl (by simp [JournalEntry.isEnd])

end OpenTransaction

/-- No action ends a transaction. -/
theorem Action.Does.continues {n : Note} (h : Does t s n t' s') : s.Continues s' := by
  have hgate := Store.Continues.noteGate t s
  cases h with
  | refused | read | checkOut => exact hgate
  | insert | insertFails => exact hgate.noted _ _
  | giveBack | missing | readHeld | readOutside => exact .refl s
  | insertHeld | insertHeldFails | insertOutsideFails => exact (Store.Continues.refl s).noted _ _
  | insertOutside row => exact (Store.Continues.refl s).noted "write" (.insert row)
  | inject => exact .of_journal_eq rfl

/-- A turn in which the transaction stays open, and sends nothing that ends it. -/
def Database.StaysOpen (id : TransactionId) (d' : Database Store Session)
    (sent : List JournalEntry) : Prop :=
  (∃ t s, d'.view id = some (OpenTransaction.toTransaction t, s)) ∧ ∀ e ∈ sent, e.isEnd = false

/-- A turn that ends the transaction with the last of its statements. -/
def Database.Closes (id : TransactionId) (d' : Database Store Session)
    (sent : List JournalEntry) : Prop :=
  Over id d' ∧ ∃ body last, sent = body ++ [last] ∧ (∀ e ∈ body, e.isEnd = false) ∧
    last.isEnd = true

/-- The database journals some statements, with which the transaction stays open or ends. -/
def Database.Advances (id : TransactionId) (d d' : Database Store Session) : Prop :=
  ∃ sent, d'.backend.journal = sent.reverse ++ d.backend.journal ∧
    (StaysOpen id d' sent ∨ Closes id d' sent)

theorem Database.advances_of_continues (hview : d.view id = some (t.toTransaction, s))
    (hview' : d'.view id = some (t'.toTransaction, s')) (h : s.Continues s') :
    Advances id d d' := by
  obtain ⟨more, hjournal, hmore⟩ := h
  have hbackend : d.backend = s := (eq_of_view hview).2
  have hbackend' : d'.backend = s' := (eq_of_view hview').2
  refine ⟨more.reverse, by rw [hbackend, hbackend', hjournal, List.reverse_reverse], .inl ?_⟩
  exact ⟨⟨t', s', hview'⟩, fun e he => hmore e (List.mem_reverse.mp he)⟩

/-- What an operation makes of the transaction is seen in the database. -/
theorem Database.within_advances {α : Type}
    {w : Work (Transaction Session × Store) DatabaseError α}
    (hview : d.view id = some (t.toTransaction, s)) (h : t.Proceeds s (w (t.toTransaction, s)).2) :
    Advances id d (within id w d).2 := by
  obtain ⟨d', hwithin, hview'⟩ := within_of_view hview w
  rw [hwithin]
  generalize (w (t.toTransaction, s)).2 = p at h hview'
  cases h with
  | on hcontinues => exact advances_of_continues hview hview' hcontinues
  | @ends s₁ s' last hcontinues hjournal hend =>
    obtain ⟨more, hmore, hquiet⟩ := hcontinues
    have hbackend : d.backend = s := (eq_of_view hview).2
    have hbackend' : d'.backend = s' := (eq_of_view hview').2
    refine ⟨more.reverse ++ [last], by simp [hbackend, hbackend', hjournal, hmore], .inr ?_⟩
    exact ⟨⟨t.closed, (eq_of_view hview').1, rfl, rfl⟩, more.reverse, last, rfl,
      fun e he => hquiet e (List.mem_reverse.mp he), hend⟩

/-! ## Turns -/

/-- Whoever reaches the transaction reaches the same one. -/
theorem Access.client_eq (a : Access id) (role : PoolRole) : a.client role = .transaction id := by
  cases a with
  | handle => rfl
  | context ctx bound => exact Action.ofContext_eq bound role

section Open

variable (hview : d.view id = some (t.toTransaction, s))
include hview

theorem Action.perform_advances {γ : Type} (action : Action γ) :
    Advances id d (action.perform (Context.background.withTransaction id) d).2 := by
  obtain ⟨t', s', hview', hdoes⟩ :=
    action.perform_does (Context.background.transaction?_withTransaction id) hview
  exact advances_of_continues hview hview' hdoes.continues

theorem Operation.run_advances (a : Access id) (op : Operation) :
    Advances id d (op.run a d).2 := by
  -- Whichever way the handle is reached, the client is the transaction itself.
  have hclient (role : PoolRole) : a.client role =
      Client.ofContext .write (Context.background.withTransaction id) := by
    rw [a.client_eq, Action.ofContext_eq (Context.background.transaction?_withTransaction id)]
  cases op with
  | commit => exact within_advances hview (t.commit_proceeds s)
  | rollback => exact within_advances hview (t.rollback_proceeds s)
  | openSavepoint => exact within_advances hview (t.openSavepoint_proceeds s)
  | rollbackTo sp => exact within_advances hview (t.gated_send_proceeds s (.rollbackTo sp) _)
  | release sp => exact within_advances hview (t.gated_send_proceeds s (.release sp) _)
  | checkOut role =>
    -- The last two go through a client, so they are actions in a context with the transaction.
    simp only [run, hclient]
    exact Action.perform_advances hview .checkOut
  | insert role row =>
    simp only [run, hclient]
    exact Action.perform_advances hview (.insert .unit row)

theorem Turn.write_advances (row : String) :
    Advances id d ((write row : Turn id).perform d) := by
  have hctx := Context.background.transaction?_withTransaction id
  have hwrite := Action.perform_advances hview (.insert .held row)
  simp only [Action.perform, onHeld, hctx] at hwrite
  simp only [perform]
  split at hwrite
  · rename_i hheld
    rwa [if_pos hheld]
  · rename_i hheld
    rwa [if_neg hheld]

/-- A turn of the transaction itself adds what it sends to the journal, and nothing else. -/
theorem Turn.perform_advances (turn : Turn id) (hown : ∀ f apart, turn ≠ .elsewhere f apart) :
    Advances id d (turn.perform d) := by
  cases turn with
  | use a op => exact Operation.run_advances hview a op
  | write row => exact write_advances hview row
  | giveBack =>
    have hctx := Context.background.transaction?_withTransaction id
    have hgive := Action.perform_advances hview .giveBack
    simp only [Action.perform, Action.ofContext_eq hctx] at hgive
    exact hgive
  | abandon sp =>
    -- Nothing is sent yet. The savepoint is noted, and the next operation goes back to it.
    let t' : OpenTransaction := { t with abandoned := sp :: t.abandoned }
    have hview' : (change id (.abandon sp) d).view id = some (t'.toTransaction, s) :=
      view_change hview (.abandon sp)
    exact advances_of_continues hview hview' (.refl s)
  | elsewhere f apart => exact absurd rfl (hown f apart)

/-- A turn leaves an open transaction open, or it ends it. -/
theorem Turn.perform_of_open (turn : Turn id) :
    StaysOpen id (turn.perform d) (turn.sent d) ∨ Closes id (turn.perform d) (turn.sent d) := by
  have hown (h : ∀ f apart, turn ≠ .elsewhere f apart) (hsent : turn.sent d =
      d.journaled (turn.perform d)) : StaysOpen id (turn.perform d) (turn.sent d) ∨
        Closes id (turn.perform d) (turn.sent d) := by
    obtain ⟨sent, hjournal, hends⟩ := perform_advances hview turn h
    rwa [hsent, journaled_of_eq hjournal, List.reverse_reverse]
  cases turn with
  | elsewhere f apart =>
    refine .inl ⟨⟨t, (f d).backend, ?_⟩, fun e he => absurd he List.not_mem_nil⟩
    simp only [perform, view, apart, (eq_of_view hview).1, Option.map_some]
  | use | write | giveBack | abandon => exact hown (by rintro _ _ ⟨⟩) rfl

end Open

/-! ## After the end -/

/-- A transaction that is over refuses every operation, and nothing changes. -/
theorem Operation.run_of_over (h : Over id d) (a : Access id) (op : Operation) :
    op.run a d = (.failed op.refusal, d) := by
  obtain ⟨t, ht, hsession, hidle⟩ := h
  -- Without a session every operation is refused before anything is sent.
  have herror : t.overError = .noActiveTransaction := by simp [Transaction.overError, hidle]
  have hcheckOut := within_of_unchanged ht (Transaction.checkOut_of_over hsession d.backend)
  have hopen := within_of_unchanged ht (Transaction.openSavepoint_of_over hsession d.backend)
  cases op with
  | commit =>
    rw [run, within_of_unchanged ht (Transaction.commit_of_over hsession d.backend), herror]
    rfl
  | rollback =>
    rw [run, within_of_unchanged ht (Transaction.rollback_of_over hsession d.backend), herror]
    rfl
  | openSavepoint =>
    rw [run, Work.mapOutcome, hopen, herror]
    rfl
  | rollbackTo sp =>
    rw [run, within_of_unchanged ht (Transaction.rollbackTo_of_over hsession d.backend sp), herror]
    rfl
  | release sp =>
    rw [run, within_of_unchanged ht (Transaction.release_of_over hsession d.backend sp), herror]
    rfl
  | checkOut role =>
    rw [run, a.client_eq, Database.checkOut, hcheckOut, herror]
    rfl
  | insert role row =>
    rw [run, a.client_eq, Database.statement]
    rw [herror] at hcheckOut
    exact withConnection_of_failed hcheckOut

/-- A transaction that is over sends nothing more, and stays so. -/
theorem Turn.perform_of_over (h : Over id d) (turn : Turn id) :
    Over id (turn.perform d) ∧ turn.sent d = [] := by
  cases turn with
  | use a op =>
    simp only [perform, sent, Operation.run_of_over h, journaled_self]
    exact ⟨h, trivial⟩
  | write row =>
    have hover := h
    obtain ⟨t, ht, -, hidle⟩ := h
    have hheld : d.isHeld id = false := by simp [isHeld, ht, hidle]
    -- There is no session to write on, so the turn is void.
    simp [perform, sent, hheld, journaled_self, hover]
  | giveBack =>
    refine ⟨?_, journaled_self _⟩
    exact (stable_over id).giveBack (.transaction id) d h
  | abandon sp =>
    refine ⟨?_, journaled_self _⟩
    exact (stable_over id).change id (f := .abandon sp) (fun _ => rfl) (fun _ h => h) d h
  | elsewhere f apart =>
    obtain ⟨t, ht, hover⟩ := h
    -- Turns elsewhere leave this transaction as it is.
    exact ⟨⟨t, (apart d).trans ht, hover⟩, rfl⟩

/-! ## Runs -/

theorem Database.StaysOpen.append {sent more : List JournalEntry}
    (hsent : ∀ e ∈ sent, e.isEnd = false) (h : StaysOpen id d more) :
    StaysOpen id d (sent ++ more) :=
  ⟨h.1, List.forall_mem_append.mpr ⟨hsent, h.2⟩⟩

theorem Database.Closes.append {sent more : List JournalEntry}
    (hsent : ∀ e ∈ sent, e.isEnd = false) (h : Closes id d more) : Closes id d (sent ++ more) := by
  obtain ⟨hover, body, last, rfl, hbody, hlast⟩ := h
  exact ⟨hover, sent ++ body, last, (List.append_assoc ..).symm,
    List.forall_mem_append.mpr ⟨hsent, hbody⟩, hlast⟩

namespace Turn

theorem play_of_over (h : Over id d) (turns : List (Turn id)) :
    Over id (play d turns) ∧ allSent d turns = [] := by
  induction turns generalizing d with
  | nil => exact ⟨h, rfl⟩
  | cons turn turns ih =>
    obtain ⟨hover, hsent⟩ := perform_of_over h turn
    obtain ⟨hover', hsent'⟩ := ih hover
    exact ⟨hover', by rw [allSent, hsent, hsent', List.nil_append]⟩

/-- A transaction stays open through all turns, or one of them ends it. -/
theorem play_of_open (hview : d.view id = some (t.toTransaction, s)) (turns : List (Turn id)) :
    StaysOpen id (play d turns) (allSent d turns) ∨
      Closes id (play d turns) (allSent d turns) := by
  induction turns generalizing d t s with
  | nil => exact .inl ⟨⟨t, s, hview⟩, fun e he => absurd he List.not_mem_nil⟩
  | cons turn turns ih =>
    rcases perform_of_open hview turn with ⟨⟨t', s', hview'⟩, hquiet⟩ | hcloses
    · exact (ih hview').imp (.append hquiet) (.append hquiet)
    · -- The turn was the last in which something was sent.
      obtain ⟨hover, hnothing⟩ := play_of_over hcloses.1 turns
      rw [allSent, hnothing, List.append_nil]
      exact .inr ⟨hover, hcloses.2⟩

/-- However an open transaction is used, it sends at most one statement that ends it, and nothing
    after that statement. Once it has sent it, every operation is refused, whoever asks for it, and
    the database stays as it is. -/
theorem play_ends_once (hview : d.view id = some (t.toTransaction, s)) (turns : List (Turn id)) :
    (allSent d turns).countP (·.isEnd) ≤ 1 ∧
      (∀ before e after, allSent d turns = before ++ e :: after → e.isEnd = true → after = []) ∧
      ((∃ e ∈ allSent d turns, e.isEnd = true) → ∀ (a : Access id) (op : Operation),
        op.run a (play d turns) = (.failed op.refusal, play d turns)) := by
  have hnone {l : List JournalEntry} (h : ∀ e ∈ l, e.isEnd = false) :
      l.countP (·.isEnd) = 0 := by
    simpa [List.countP_eq_zero] using h
  rcases play_of_open hview turns with ⟨-, hquiet⟩ | ⟨hover, body, last, hsent, hbody, hlast⟩
  · refine ⟨by rw [hnone hquiet]; omega, ?_, ?_⟩
    · intro before e after hsplit hend
      rw [hquiet e (by simp [hsplit])] at hend
      cases hend
    · rintro ⟨e, he, hend⟩
      rw [hquiet e he] at hend
      cases hend
  · refine ⟨by simp [hsent, hnone hbody, hlast], ?_, fun _ a op => Operation.run_of_over hover a op⟩
    intro before e after hsplit hend
    -- What ends the transaction is not in the body, so it is the very last statement.
    rcases List.eq_nil_or_concat after with rfl | ⟨more, e', rfl⟩
    · rfl
    · rw [hsent, List.concat_eq_append, ← List.cons_append, ← List.append_assoc] at hsplit
      obtain ⟨rfl, -⟩ := List.append_inj' hsplit rfl
      rw [hbody e (by simp)] at hend
      cases hend

/-- A commit that has to wait for a connection, and then fails. -/
def committing : List (Turn ⟨0⟩) :=
  [.use .handle (.checkOut .write), .write "a", .use .handle .commit, .giveBack,
    .use (.context (Context.background.withTransaction ⟨0⟩) rfl) .commit,
    .use .handle .rollback]

/-- The commit fails, and all the same it was the last statement. -/
theorem play_ends_once_committing :
    let d : Database Store Session :=
      { backend := { failures := ["COMMIT"] },
        transactions := #[(OpenTransaction.fresh "write").toTransaction] }
    allSent d committing = [⟨"write", "INSERT a"⟩, ⟨"write", "COMMIT"⟩] ∧
      (Operation.run (Access.handle : Access ⟨0⟩) (.release ⟨1⟩) (play d committing)).1 =
        .failed (.savepoint "sp_0001" .release .noActiveTransaction) := by
  intro d
  have hsent : allSent d committing = [⟨"write", "INSERT a"⟩, ⟨"write", "COMMIT"⟩] := by
    decide +kernel
  have hview : d.view ⟨0⟩ = some ((OpenTransaction.fresh "write").toTransaction, d.backend) := rfl
  obtain ⟨-, -, hover⟩ := play_ends_once hview committing
  refine ⟨hsent, ?_⟩
  rw [hover ⟨⟨"write", "COMMIT"⟩, by simp [hsent], by decide⟩]
  decide

end Turn

end SharedPages
