import Mathlib.Data.List.Nodup
import SharedPages.Proofs.Outermost

/-!
# Balanced journals

The statements of a unit of work are nested as its nested units are: a nested
unit begins with a statement that opens a savepoint, and ends with exactly one
that releases it or goes back to it. A savepoint that cannot be opened leaves
one statement behind, and every attempt to open one uses up a number, so that no
name occurs twice in a transaction (`Trace.Sends`).

This is how a journal looks if no unit is dropped half-way and no connection is
checked out where a unit begins or ends. Then nothing is ever abandoned, and so
nothing is settled in between.

## Key results

- `Action.Does.sends`: the statement of an action
- `Trace.ofNested_sends`: the statements of a nested unit
- `Program.play_sends`: the statements of a program
- `Program.run_balanced`: the journal of a run
-/

namespace SharedPages

open OpenTransaction Database

/-! ## Statements of a trace -/

/-- The action stays in the transaction of the context. -/
def Note.isInside : Note → Bool
  | wroteOutside _ | readOutside _ | refused .outside _ => false
  | _ => true

/-- The order that an action sent, if it sent one. An action that needs a connection and is refused
    although none is checked out sent a statement that failed, and so did one on a connection that
    is checked out. -/
def Note.Sends : Note → List Order → Prop
  | wrote row _, orders => orders = [.insert row]
  | refused .unit false, orders | refused .held true, orders => ∃ row, orders = [.insert row]
  | _, orders => orders = []

/-- How a unit ends whose savepoint was opened. -/
def Ending.order (ending : Ending) (sp : Savepoint) : Order :=
  if ending = .ok then .release sp else .rollbackTo sp

/-- How a transaction ends that was begun. -/
def Ending.statement (ending : Ending) : String := if ending = .ok then "COMMIT" else "ROLLBACK"

namespace Trace

/-- All actions stay in the transaction of their context, no unit is dropped half-way, and no
    connection of the transaction is checked out where a unit begins or ends. -/
def isOrdinary : Trace → Bool
  | nil => true
  | note n rest => n.isInside && rest.isOrdinary
  | unit ending _ held inner rest =>
    decide (ending ≠ .dropped) && !held && inner.isOrdinary && rest.isOrdinary

/-- The orders that a program sent of which this is the trace, if `k` savepoints were tried before
    and `m` are afterwards. -/
inductive Sends : Trace → Nat → List Order → Nat → Prop where
  | nil {k : Nat} : Sends .nil k [] k
  | note {n : Note} {rest : Trace} {k m : Nat} {orders more : List Order} (first : n.Sends orders)
    (next : Sends rest k more m) : Sends (.note n rest) k (orders ++ more) m
  /-- The savepoint could not be opened, and the closure did not run. -/
  | unopened {rest : Trace} {k m : Nat} {more : List Order} (next : Sends rest (k + 1) more m) :
    Sends (.unit .unopened true false .nil rest) k (.create ⟨k + 1⟩ :: more) m
  | unit {ending : Ending} {undone : Bool} {inner rest : Trace} {k l m : Nat}
    {orders more : List Order} (opened : ending ≠ .unopened) (body : Sends inner (k + 1) orders l)
    (next : Sends rest l more m) :
    Sends (.unit ending undone false inner rest) k
      (.create ⟨k + 1⟩ :: orders ++ [ending.order ⟨k + 1⟩] ++ more) m

/-- The statements of a run of an outermost unit of which this is the trace. -/
inductive Balanced : Trace → List String → Prop where
  /-- The transaction could not be begun, and the closure did not run. -/
  | unopened : Balanced (.unit .unopened true false .nil .nil) ["BEGIN"]
  | unit {ending : Ending} {undone : Bool} {inner : Trace} {orders : List Order} {m : Nat}
    (opened : ending ≠ .unopened) (body : inner.Sends 0 orders m) :
    Balanced (.unit ending undone false inner .nil)
      ("BEGIN" :: orders.map Order.text ++ [ending.statement])

end Trace

/-! ## Names of savepoints -/

namespace Command

/-- The name of the savepoint that the command opens. -/
def created? : Command → Option String
  | savepoint name => some name
  | _ => none

/-- The names of the savepoints that statements open. -/
def created (statements : List String) : List String :=
  statements.filterMap fun text => (ofText text).created?

end Command

/-- The names that follow the first `k` names of a transaction. -/
def Savepoint.names (k n : Nat) : List String := (List.range' (k + 1) n).map fun i => name ⟨i⟩

theorem Savepoint.names_add (k n n' : Nat) :
    names k (n + n') = names k n ++ names (k + n) n' := by
  simp only [names, ← List.map_append, Nat.add_right_comm k n 1, List.range'_append_1]

theorem Savepoint.nodup_names (k n : Nat) : (names k n).Nodup := by
  refine List.Nodup.map ?_ List.nodup_range'
  intro i j h
  exact congrArg Savepoint.seq (name_injective h)

variable {ε α γ κ : Type} {id : TransactionId} {ctx : Context} {t t₁ t₂ : OpenTransaction}
  {s s₁ s₂ : Store} {d d₁ d₂ : Database Store Session} {orders more : List Order} {k m : Nat}

theorem Note.Sends.created_eq {n : Note} (h : n.Sends orders) :
    Command.created (orders.map Order.text) = [] := by
  have hinsert (row : String) : Command.created [(Order.insert row).text] = [] := by
    simp [Command.created, Order.ofText_text, Order.command, Command.created?]
  -- What an action sends is one insert at most.
  unfold Sends at h
  split at h
  · exact h ▸ hinsert _
  · obtain ⟨row, rfl⟩ := h
    exact hinsert row
  · obtain ⟨row, rfl⟩ := h
    exact hinsert row
  · exact h ▸ rfl

theorem Ending.created_order (ending : Ending) (sp : Savepoint) :
    Command.created [(ending.order sp).text] = [] := by
  simp only [order]
  split <;> simp [Command.created, Order.ofText_text, Order.command, Command.created?]

theorem Command.created_append (l l' : List String) : created (l ++ l') = created l ++ created l' :=
  List.filterMap_append

theorem Command.created_create (i : Nat) (l : List String) :
    created ((Order.create ⟨i + 1⟩).text :: l) = Savepoint.names i 1 ++ created l := by
  simp [created, Order.ofText_text, Order.command, created?, Savepoint.names]

theorem Command.created_begin (l : List String) : created ("BEGIN" :: l) = created l := by
  have hbegin : (ofText "BEGIN").created? = none := by decide
  simp only [created, List.filterMap_cons, hbegin]

theorem Ending.created_statement (ending : Ending) : Command.created [ending.statement] = [] := by
  cases ending <;> decide

/-- Every attempt to open a savepoint carries the next name. -/
theorem Trace.Sends.created_eq {trace : Trace} (h : trace.Sends k orders m) :
    ∃ n, m = k + n ∧ Command.created (orders.map Order.text) = Savepoint.names k n := by
  induction h with
  | nil => exact ⟨0, rfl, rfl⟩
  | note first next ih =>
    -- An action creates no savepoint, so it adds no name.
    obtain ⟨n, rfl, hnext⟩ := ih
    refine ⟨n, rfl, ?_⟩
    rw [List.map_append, Command.created_append, first.created_eq, hnext, List.nil_append]
  | unopened next ih =>
    -- A refused savepoint has its number all the same, since the statement was sent.
    obtain ⟨n, rfl, hnext⟩ := ih
    refine ⟨1 + n, Nat.add_assoc .., ?_⟩
    rw [List.map_cons, Command.created_create, hnext, Savepoint.names_add]
  | @unit ending undone inner rest k l m orders more opened body next ihbody ihnext =>
    -- The number of the unit comes first, then those of its body, then those of what follows.
    obtain ⟨n, rfl, hbody⟩ := ihbody
    obtain ⟨n', rfl, hnext⟩ := ihnext
    refine ⟨1 + n + n', by omega, ?_⟩
    simp only [List.map_append, List.map_cons, List.map_nil, Command.created_append,
      Command.created_create, ending.created_order, hbody, hnext, Savepoint.names_add,
      List.nil_append, List.append_assoc, Nat.add_assoc]

/-! ## What a transaction sends -/

/-- The transaction sent orders, all of them with its own label, and has nothing left to settle. -/
structure Sent (t : OpenTransaction) (s : Store) (orders : List Order) (t' : OpenTransaction)
    (s' : Store) : Prop where
  label_eq : t'.label = t.label
  journal_eq : s'.journal = (orders.map fun o => ⟨t.label, o.text⟩).reverse ++ s.journal
  settled : t'.abandoned = []

namespace Sent

theorem refl (hsettled : t.abandoned = []) : Sent t s [] t s := ⟨rfl, rfl, hsettled⟩

theorem trans (h₁ : Sent t s orders t₁ s₁) (h₂ : Sent t₁ s₁ more t₂ s₂) :
    Sent t s (orders ++ more) t₂ s₂ where
  label_eq := h₂.label_eq.trans h₁.label_eq
  journal_eq := by
    rw [h₂.journal_eq, h₁.journal_eq, h₁.label_eq, List.map_append, List.reverse_append,
      List.append_assoc]
  settled := h₂.settled

/-- One order is sent, whether it is refused or not. -/
theorem single {t' : OpenTransaction} (o : Order) (hlabel : t'.label = t.label)
    (hsettled : t'.abandoned = []) : Sent t s [o] t' (s.noted t.label o.text) :=
  ⟨hlabel, rfl, hsettled⟩

end Sent

section Settled

variable (hsettled : t.abandoned = [])
include hsettled

theorem OpenTransaction.noteGate_of_settled (s : Store) : t.noteGate s = s := by
  simp only [noteGate, noteSettling, earliest?_eq_none.mpr hsettled, ite_self]

theorem OpenTransaction.gate?_of_settled (s : Store) :
    t.gate? s = if t.busy then some .transactionBusy else none := by
  simp only [gate?, obstacle?, earliest?_eq_none.mpr hsettled]

/-- An action sends the order that its note says. -/
theorem Action.Does.sends {n : Note} {t' : OpenTransaction} {s' : Store} (h : Does t s n t' s')
    (hinside : n.isInside = true) :
    ∃ orders, n.Sends orders ∧ Sent t s orders t' s' ∧ t'.issued = t.issued := by
  have hnote := noteGate_of_settled hsettled s
  have hself := settled_of_abandoned_nil hsettled
  cases h with
  | refused gate =>
    -- With nothing to settle, only a connection that is checked out keeps the gate shut.
    rw [gate?_of_settled hsettled] at gate
    have hbusy : t.busy = true := by
      by_contra hidle
      rw [if_neg hidle] at gate
      cases gate
    rw [hnote]
    exact ⟨[], by rw [hbusy]; rfl, .refl hsettled, rfl⟩
  | insert row gate =>
    rw [hnote, hself]
    exact ⟨[.insert row], rfl, .single _ (by simp) (by simp [hsettled]), by simp⟩
  | insertFails row gate failing =>
    rw [hnote, hself, busy_of_gate?_none gate]
    exact ⟨[.insert row], ⟨row, rfl⟩, .single _ rfl hsettled, rfl⟩
  | read gate =>
    rw [hnote, hself]
    exact ⟨[], rfl, .refl hsettled, rfl⟩
  | checkOut gate =>
    rw [hnote, hself]
    exact ⟨[], rfl, ⟨rfl, rfl, hsettled⟩, rfl⟩
  | giveBack => exact ⟨[], rfl, ⟨rfl, rfl, hsettled⟩, rfl⟩
  | missing busy =>
    rw [busy]
    exact ⟨[], rfl, .refl hsettled, rfl⟩
  | insertHeld row busy =>
    exact ⟨[.insert row], rfl, .single _ (by simp) (by simp [hsettled]), by simp⟩
  | insertHeldFails row busy failing =>
    rw [busy]
    exact ⟨[.insert row], ⟨row, rfl⟩, .single _ rfl hsettled, rfl⟩
  | readHeld busy => exact ⟨[], rfl, .refl hsettled, rfl⟩
  | inject failures => exact ⟨[], rfl, ⟨rfl, rfl, hsettled⟩, rfl⟩
  | insertOutside | insertOutsideFails | readOutside => cases hinside

end Settled

/-! ## Nested units -/

namespace Database

section Savepoints

variable (hview : d.view id = some (t.toTransaction, s)) (hsettled : t.abandoned = [])
  (hidle : t.busy = false)
include hview hsettled

/-- A transaction with a connection checked out opens no savepoint. -/
theorem openSavepoint_of_busy (hbusy : t.busy = true) :
    ∃ e d', within id Transaction.openSavepoint d = (.failed e, d') := by
  obtain ⟨d', hopen, -⟩ := within_of_view hview Transaction.openSavepoint
  rw [openSavepoint_eq, gate?_of_settled hsettled, if_pos hbusy] at hopen
  exact ⟨_, d', hopen⟩

include hidle

/-- One statement opens the next savepoint or fails, and the number is used up either way. -/
theorem openSavepoint_sends :
    (∃ e d', within id Transaction.openSavepoint d = (.failed e, d') ∧
      d'.view id = some ({ t with issued := t.issued + 1 }.toTransaction,
        s.noted t.label (Order.create t.next).text)) ∨
    ∃ d', within id Transaction.openSavepoint d = (.done t.next, d') ∧
      d'.view id = some (t.opened.toTransaction, s.noted t.label (Order.create t.next).text) := by
  -- Nothing is abandoned and no session is held, so the gate is open and sends nothing first.
  have hgate : t.gate? s = none := by simp [gate?_of_settled hsettled, hidle]
  have hself := settled_of_abandoned_nil hsettled
  have hnumbered : t.numbered = { t with issued := t.issued + 1 } := by rw [numbered, hself]
  obtain ⟨d', hopen, hview'⟩ := within_of_view hview Transaction.openSavepoint
  rw [openSavepoint_eq] at hopen hview'
  simp only [hgate, noteGate_of_settled hsettled] at hopen hview'
  cases hrefusal : t.numbered.refusal? s (.create t.next) with
  | some e =>
    -- The number was used up before the statement was refused.
    simp only [hrefusal] at hopen hview'
    rw [hnumbered] at hview'
    exact .inl ⟨_, d', hopen, hview'⟩
  | none =>
    simp only [hrefusal, numbered_after_create, hself] at hopen hview'
    exact .inr ⟨d', hopen, hview'⟩

/-- One statement ends a savepoint or fails. -/
theorem ended_sends (o : Order) (f : DatabaseError → DatabaseError)
    {w : Work (Transaction Session × Store) DatabaseError Unit}
    (hw : w = Work.mapError f (do
      Transaction.unlessBusy; Transaction.settle; Transaction.send o.text)) :
    ∃ r d' t', within id w d = (r, d') ∧
      d'.view id = some (toTransaction t', s.noted t.label o.text) ∧
      Sent t s [o] t' (s.noted t.label o.text) ∧ t'.issued = t.issued := by
  have hgate : t.gate? s = none := by simp [gate?_of_settled hsettled, hidle]
  have hself := settled_of_abandoned_nil hsettled
  obtain ⟨d', hended, hview'⟩ := within_of_view hview w
  rw [hw, gated_send_eq, hgate, noteGate_of_settled hsettled, hself] at hview'
  cases hrefusal : t.refusal? s o with
  | some e =>
    simp only [hrefusal] at hview'
    exact ⟨_, d', t, hended, hview', .single o rfl hsettled, rfl⟩
  | none =>
    simp only [hrefusal] at hview'
    exact ⟨_, d', t.after o, hended, hview', .single o (by simp) (by simp [hsettled]), by simp⟩

end Savepoints

/-- One statement ends a unit that was opened and not dropped. -/
theorem runNested_sends {steps : Work (Database Store Session) ε α} {o : Outcome ε α}
    {sp : Savepoint} (hopen : within id Transaction.openSavepoint d = (.done sp, d₁))
    (hsteps : steps d₁ = (o, d₂)) (hended : Ending.of o ≠ .dropped)
    (hview : d₂.view id = some (t.toTransaction, s)) (hsettled : t.abandoned = [])
    (hidle : t.busy = false) :
    ∃ t' s', (runNested Store id steps d).2.view id = some (toTransaction t', s') ∧
      Sent t s [(Ending.of o).order sp] t' s' ∧ t'.issued = t.issued := by
  -- Both statements that can close the unit are prepared, whether or not they succeed.
  obtain ⟨_, _, t₃, hrelease, hview₃, hsent₃, hissued₃⟩ :=
    ended_sends hview hsettled hidle (.release sp) _ (rfl : Transaction.release sp = _)
  obtain ⟨_, _, t₄, hrollback, hview₄, hsent₄, hissued₄⟩ :=
    ended_sends hview hsettled hidle (.rollbackTo sp) _ (rfl : Transaction.rollbackTo sp = _)
  -- How the steps ended decides which of the two is sent.
  cases o with
  | done a =>
    rw [runNested_of_done hopen hsteps hrelease]
    exact ⟨t₃, _, hview₃, hsent₃, hissued₃⟩
  | failed e =>
    rw [runNested_of_failed hopen hsteps hrollback]
    exact ⟨t₄, _, hview₄, hsent₄, hissued₄⟩
  | panicked p =>
    rw [runNested_of_panicked hopen hsteps hrollback]
    exact ⟨t₄, _, hview₄, hsent₄, hissued₄⟩
  | suspended => exact absurd rfl hended

/-- What is seen of a unit that was opened. -/
theorem ofNested_opened (play : Context → Work (Database Store Session) ε α)
    (trace : Context → Database Store Session → Trace) {o : Outcome ε α} {sp : Savepoint}
    (hopen : within id Transaction.openSavepoint d = (.done sp, d₁))
    (hplay : play ctx d₁ = (o, d₂)) (rest : Trace) :
    ∃ undone, Trace.ofNested play trace id ctx d rest =
      .unit (.of o) undone (d.isHeld id || d₂.isHeld id) (trace ctx d₁) rest := by
  simp only [Trace.ofNested, hopen, hplay]
  exact ⟨_, rfl⟩

/-- A program sent what its trace says. -/
def Sends (id : TransactionId) (t : OpenTransaction) (s : Store) (trace : Trace)
    (d : Database Store Session) : Prop :=
  ∃ (orders : List Order) (t' : OpenTransaction) (s' : Store),
    d.view id = some (t'.toTransaction, s') ∧ Sent t s orders t' s' ∧
      trace.Sends t.issued orders t'.issued

end Database

/-- What a nested unit sends, as long as its closure sends what its trace says. -/
theorem Trace.ofNested_sends {play : Context → Work (Database Store Session) ε α}
    {trace : Context → Database Store Session → Trace} {rest : Trace}
    (hview : d.view id = some (t.toTransaction, s)) (hsettled : t.abandoned = [])
    (hordinary : (ofNested play trace id ctx d rest).isOrdinary = true)
    (hplay : ∀ (d : Database Store Session) (t : OpenTransaction) (s : Store),
      d.view id = some (t.toTransaction, s) → t.abandoned = [] →
      (trace ctx d).isOrdinary = true → Database.Sends id t s (trace ctx d) (play ctx d).2) :
    rest.isOrdinary = true ∧ ∃ (orders : List Order) (t' : OpenTransaction) (s' : Store),
      (runNested Store id (play ctx) d).2.view id = some (t'.toTransaction, s') ∧
      Sent t s orders t' s' ∧ ∀ more m, rest.Sends t'.issued more m →
        (ofNested play trace id ctx d rest).Sends t.issued (orders ++ more) m := by
  have hheld : d.isHeld id = t.busy := isHeld_of_view hview
  -- A connection that was held now would be held across the boundary of the unit.
  have hidle : t.busy = false := by
    by_contra hbusy
    rw [Bool.not_eq_false] at hbusy
    obtain ⟨e, d', hopen⟩ := openSavepoint_of_busy hview hsettled hbusy
    simp [ofNested, hopen, isOrdinary, hheld, hbusy] at hordinary
  rcases openSavepoint_sends hview hsettled hidle with
    ⟨e, d₁, hopen, hview₁⟩ | ⟨d₁, hopen, hview₁⟩
  · have htrace : ofNested play trace id ctx d rest = unit .unopened true false .nil rest := by
      simp only [ofNested, hopen, hheld, hidle]
    rw [runNested_of_unopened hopen]
    rw [htrace] at hordinary ⊢
    refine ⟨by simpa [isOrdinary] using hordinary, [.create t.next], _, _, hview₁,
      .single _ rfl hsettled, fun more m hrest => .unopened hrest⟩
  · rcases hplayed : play ctx d₁ with ⟨o, d₂⟩
    obtain ⟨undone, htrace⟩ := ofNested_opened play trace hopen hplayed rest
    rw [htrace] at hordinary ⊢
    simp only [isOrdinary, Bool.and_eq_true, decide_eq_true_eq, Bool.not_eq_true',
      Bool.or_eq_false_iff] at hordinary
    obtain ⟨⟨⟨hended, -, hheld₂⟩, hinner⟩, hrest⟩ := hordinary
    obtain ⟨orders, t₂, s₂, hview₂, hsent₂, hsends⟩ := hplay d₁ _ _ hview₁ hsettled hinner
    rw [hplayed] at hview₂
    have hidle₂ : t₂.busy = false := (isHeld_of_view hview₂).symm.trans hheld₂
    obtain ⟨t₃, s₃, hview₃, hsent₃, hissued₃⟩ :=
      runNested_sends hopen hplayed hended hview₂ hsent₂.settled hidle₂
    have hopened : Sent t s [.create t.next] t.opened _ := .single _ rfl hsettled
    refine ⟨hrest, _, t₃, s₃, hview₃, (hopened.trans hsent₂).trans hsent₃, fun more m hmore => ?_⟩
    rw [isHeld_of_view hview₂, hheld, hidle, hidle₂]
    exact .unit (Ending.of_ne_unopened o) hsends (hissued₃ ▸ hmore)

/-- What a program sends in an open transaction. -/
theorem Program.play_sends (hctx : ctx.transaction? = some id) (p : Program ε α)
    (hview : d.view id = some (t.toTransaction, s)) (hsettled : t.abandoned = [])
    (hordinary : (p.trace ctx d).isOrdinary = true) :
    Database.Sends id t s (p.trace ctx d) (p.play ctx d).2 := by
  -- Induction on the program. That nothing is left to settle carries over from step to step.
  induction p generalizing d t s with
  | done | fail | panic | pend => exact ⟨[], t, s, hview, .refl hsettled, .nil⟩
  | act action next ih =>
    obtain ⟨t₁, s₁, hview₁, hdoes⟩ := action.perform_does hctx hview
    simp only [trace, Trace.isOrdinary, Bool.and_eq_true] at hordinary
    obtain ⟨hinside, hrest⟩ := hordinary
    obtain ⟨orders, hfirst, hsent₁, hissued₁⟩ := hdoes.sends hsettled hinside
    obtain ⟨more, t₂, s₂, hview₂, hsent₂, hnext⟩ := ih _ hview₁ hsent₁.settled hrest
    rw [hissued₁] at hnext
    exact ⟨orders ++ more, t₂, s₂, hview₂, hsent₁.trans hsent₂, .note hfirst hnext⟩
  | unit body next ihbody ihnext =>
    have hrun := run_nested hctx fun ctx => body.play ctx
    simp only [trace, Trace.ofUnit, hctx, hrun] at hordinary
    obtain ⟨hrest, orders, t₁, s₁, hview₁, hsent₁, hunit⟩ :=
      Trace.ofNested_sends hview hsettled hordinary fun d t s hview => ihbody hview
    obtain ⟨more, t₂, s₂, hview₂, hsent₂, hnext⟩ := ihnext _ hview₁ hsent₁.settled hrest
    refine ⟨orders ++ more, t₂, s₂, ?_, hsent₁.trans hsent₂, ?_⟩
    · simp only [play, Work.bind_outcome, hrun]
      exact hview₂
    · simp only [trace, Trace.ofUnit, hctx, hrun]
      exact hunit _ _ hnext

/-! ## Outermost units -/

namespace Database

/-- One statement ends a transaction. -/
theorem runOutermost_journal (steps : TransactionId → Work (Database Store Session) ε α)
    {o : Outcome ε α} (hopen : (begin : Work (Database Store Session) _ _) d = (.done id, d₁))
    (hsteps : steps id d₁ = (o, d₂)) (hended : Ending.of o ≠ .dropped)
    (hview : d₂.view id = some (t.toTransaction, s)) (hsettled : t.abandoned = [])
    (hidle : t.busy = false) :
    (runOutermost Store steps d).2.backend.journal =
      ⟨t.label, (Ending.of o).statement⟩ :: s.journal := by
  have hgate : t.gate? s = none := by simp [gate?_of_settled hsettled, hidle]
  obtain ⟨d₃, hcommit, hview₃⟩ := within_of_view hview Transaction.commit
  obtain ⟨d₄, hrollback, hview₄⟩ := within_of_view hview Transaction.rollback
  have hbackend₃ := (eq_of_view hview₃).2
  have hbackend₄ := (eq_of_view hview₄).2
  -- A commit that is refused has been sent as well, so it stands in the journal.
  have hcommitted : d₃.backend.journal = ⟨t.label, "COMMIT"⟩ :: s.journal := by
    rw [hbackend₃, commit_eq, hgate, noteGate_of_settled hsettled]
    simp only
    split <;> rfl
  have hrolledBack : d₄.backend.journal = ⟨t.label, "ROLLBACK"⟩ :: s.journal := by
    rw [hbackend₄, rollback_eq, hidle]
    rfl
  -- Again the end of the steps decides between the two.
  cases o with
  | done a =>
    rw [runOutermost_of_done hopen hsteps hcommit]
    exact hcommitted
  | failed e =>
    rw [runOutermost_of_failed hopen hsteps hrollback]
    exact hrolledBack
  | panicked p =>
    rw [runOutermost_of_panicked hopen hsteps hrollback]
    exact hrolledBack
  | suspended => exact absurd rfl hended

/-- What is seen of an outermost unit that was begun. -/
theorem ofOutermost_opened (play : Context → Work (Database Store Session) ε α)
    (trace : Context → Database Store Session → Trace) {o : Outcome ε α}
    (hopen : (begin : Work (Database Store Session) _ _) d = (.done id, d₁))
    (hplay : play (ctx.withTransaction id) d₁ = (o, d₂)) (rest : Trace) :
    ∃ undone, Trace.ofOutermost play trace ctx d rest =
      .unit (.of o) undone (d₂.isHeld id) (trace (ctx.withTransaction id) d₁) rest := by
  simp only [Trace.ofOutermost, hopen, hplay]
  exact ⟨_, rfl⟩

end Database

/-- The journal of a run of an outermost unit: one statement if the transaction cannot be begun, and
    else the statements of the units in it, between the beginning and the end of the transaction.
    The savepoints are named in their order, so that no name occurs twice. -/
theorem Program.run_balanced (hctx : ctx.transaction? = none) (p : Program ε α)
    (d : Database Store Session) (hordinary : (p.runTrace ctx d).isOrdinary = true) :
    ∃ statements n, (p.runTrace ctx d).Balanced statements ∧
      (p.run ctx d).2.backend.journal =
        (statements.map fun text => ⟨"write", text⟩).reverse ++ d.backend.journal ∧
      Command.created statements = Savepoint.names 0 n ∧ (Command.created statements).Nodup := by
  rw [p.run_outermost hctx]
  rw [p.runTrace_outermost hctx] at hordinary ⊢
  -- An outermost unit is opened with `BEGIN`, which may be refused.
  rcases begin_noted d with ⟨e, d₁, hopen, -, hbackend⟩ | ⟨id, d₁, hopen, hview₁⟩
  · rw [runOutermost_of_unopened hopen]
    refine ⟨["BEGIN"], 0, ?_, ?_, by decide, by decide⟩
    · simp only [Trace.ofOutermost, hopen]
      exact .unopened
    · simp [hbackend, Store.noted]
  · rcases hplayed : p.play (ctx.withTransaction id) d₁ with ⟨o, d₂⟩
    -- Otherwise the trace is the one unit, with the trace of the program within.
    obtain ⟨undone, htrace⟩ :=
      ofOutermost_opened (fun ctx => p.play ctx) (fun ctx => p.trace ctx) hopen hplayed .nil
    rw [htrace] at hordinary ⊢
    simp only [Trace.isOrdinary, Bool.and_eq_true, decide_eq_true_eq, Bool.not_eq_true',
      and_true] at hordinary
    obtain ⟨⟨hended, hheld₂⟩, hinner⟩ := hordinary
    -- By induction over the program, its statements are those that its trace accounts for.
    obtain ⟨orders, t₂, s₂, hview₂, hsent₂, hsends⟩ :=
      p.play_sends (ctx.transaction?_withTransaction id) hview₁ rfl hinner
    rw [hplayed] at hview₂
    -- An ordinary run gives back every session, so the transaction can be ended.
    have hidle₂ : t₂.busy = false := (isHeld_of_view hview₂).symm.trans hheld₂
    have hjournal := runOutermost_journal (fun id => p.play (ctx.withTransaction id)) hopen hplayed
      hended hview₂ hsent₂.settled hidle₂
    obtain ⟨n, -, hcreated⟩ := hsends.created_eq
    -- `BEGIN` and the last statement create no savepoint, so the numbers are those of the body.
    have hnames : Command.created ("BEGIN" :: orders.map Order.text ++ [(Ending.of o).statement]) =
        Savepoint.names 0 n := by
      rw [List.cons_append, Command.created_begin, Command.created_append, hcreated,
        Ending.created_statement, List.append_nil]
      rfl
    rw [hheld₂]
    refine ⟨_, n, .unit (Ending.of_ne_unopened o) hsends, ?_, hnames, ?_⟩
    · rw [hjournal, hsent₂.journal_eq, hsent₂.label_eq]
      simp [fresh, Store.noted]
    · rw [hnames]
      exact Savepoint.nodup_names 0 n

namespace Program

/-- A closure that writes a row and fails, inside a unit that ends well. -/
def recovering : Program Unit Unit :=
  .act (.insert .unit "a") fun _ =>
    .unit (.act (.insert .unit "b") fun _ => .fail () : Program Unit Unit) fun _ => .done ()

/-- Runs three units, of which the last one panics, whatever comes of them. -/
def branching : Program Unit Unit :=
  .unit recovering fun _ => .unit recovering fun _ =>
    .unit (.panic (.text "gone") : Program Unit Unit) fun _ => .done ()

/-- The third savepoint cannot be opened, and its name is not used again. -/
theorem run_balanced_branching :
    let d : Database Store Session := { backend := { failures := ["SAVEPOINT sp_0003"] } }
    let journal := (branching.run .background d).2.backend.journal
    (branching.runTrace .background d).isOrdinary = true ∧
    journal.reverse.map JournalEntry.statement =
      ["BEGIN", "SAVEPOINT sp_0001", "INSERT a", "SAVEPOINT sp_0002", "INSERT b",
        "ROLLBACK TO SAVEPOINT sp_0002", "RELEASE SAVEPOINT sp_0001", "SAVEPOINT sp_0003",
        "SAVEPOINT sp_0004", "ROLLBACK TO SAVEPOINT sp_0004", "COMMIT"] ∧
    ∃ statements n, (branching.runTrace .background d).Balanced statements ∧
      journal = (statements.map fun text => ⟨"write", text⟩).reverse ++ [] ∧
      Command.created statements = Savepoint.names 0 n ∧ (Command.created statements).Nodup :=
  ⟨by decide +kernel, by decide +kernel, run_balanced rfl branching _ (by decide +kernel)⟩

end Program

end SharedPages
