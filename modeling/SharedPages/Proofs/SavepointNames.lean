import Mathlib.Data.String.Basic
import SharedPages.Proofs.BalancedJournal
import SharedPages.Proofs.BusyTransaction
import SharedPages.Proofs.Numerals
import SharedPages.Proofs.SentStatements

/-!
# The names of savepoints

A transaction numbers its savepoints, and opening one is the only thing that uses a
number up. So whatever happens to a transaction that was just begun, its numbers are
those from one to the last, each used once, and no name comes back.

Names with equally many digits are ordered like the numbers. From number 10000 on
there are five digits, and `sp_10000` comes before `sp_9999`: the names are in order
exactly as long as there are no more than 9999.

## Key results

- `Savepoint.name_lt_name_iff`: which of two names comes first
- `Savepoint.names_pairwise_iff`: how long names are in order
- `Transaction.Event.perform_numbers`: what an event does to the numbers
- `Transaction.Event.opened_sublist`: the names that events give are names of such numbers
- `Transaction.Event.names_in_order_iff`: the names of a transaction, whatever happens to it
-/

namespace SharedPages

/-! ## Names -/

namespace Savepoint

variable {a b : Savepoint}

private theorem toList_name (sp : Savepoint) :
    sp.name.toList = ['s', 'p', '_'] ++ digits sp.seq := by
  rw [name, String.toList_append, String.toList_ofList, String.toList_ofList]

private theorem length_name (sp : Savepoint) : sp.name.length = 3 + (digits sp.seq).length := by
  rw [← String.length_toList, toList_name, List.length_append]
  rfl

private theorem four_le_length_digits (n : Nat) : 4 ≤ (digits n).length := by
  rw [length_digits]
  exact Nat.le_max_left 4 _

private theorem lt_pow_length_digits (n : Nat) : n < 10 ^ (digits n).length :=
  (length_digits_le_iff (four_le_length_digits n)).mp (Nat.le_refl _)

/-- Of two savepoints, the earlier one has the lesser name if its number is at most what the later
    number begins with. -/
theorem name_lt_name_iff (h : a.seq < b.seq) :
    a.name < b.name ↔ a.seq ≤ b.seq / 10 ^ (b.name.length - a.name.length) := by
  have ha := lt_pow_length_digits a.seq
  have hb := lt_pow_length_digits b.seq
  have hlength : (digits a.seq).length ≤ (digits b.seq).length :=
    (length_digits_le_iff (four_le_length_digits b.seq)).mpr (h.trans hb)
  -- A later name has at least as many digits, so it is compared with the same number or with more.
  obtain ⟨more, hmore⟩ := Nat.exists_eq_add_of_le hlength
  have hdigits : a.name < b.name ↔ digits a.seq < digits b.seq := by
    rw [String.lt_iff_toList_lt, toList_name, toList_name, append_lt_append_iff rfl]
    simp
  rw [hdigits, length_name, length_name, digits_eq_numeral a.seq, digits_eq_numeral b.seq]
  rw [hmore] at hb ⊢
  simp only [length_numeral, Nat.add_sub_add_left, Nat.add_sub_cancel_left]
  cases more with
  | zero =>
    rw [Nat.pow_zero, Nat.div_one]
    exact (numeral_lt_numeral (by decide) (by decide) ha hb).trans (by omega)
  | succ more =>
    exact numeral_lt_numeral_add (by decide) (by decide) (Nat.succ_pos more) ha hb

/-- Up to number 9999 all names have the same length. -/
private theorem length_name_of_le (h : a.seq ≤ 9999) : a.name.length = 7 := by
  have hdigits : (digits a.seq).length ≤ 4 := (length_digits_le_iff (Nat.le_refl 4)).mpr (by omega)
  rw [length_name, Nat.le_antisymm hdigits (four_le_length_digits a.seq)]

theorem names_succ (k n : Nat) : names k (n + 1) = name ⟨k + 1⟩ :: names (k + 1) n := by
  rw [names, List.range'_succ, List.map_cons, names]

theorem names_getElem? {k n i : Nat} (h : i < n) :
    (names k n)[i]? = some (name ⟨k + 1 + i⟩) := by
  rw [names, List.getElem?_map, List.getElem?_range' h, Nat.one_mul, Option.map_some]

/-- Names are in order exactly as long as they have four digits. -/
theorem names_pairwise_iff (n : Nat) : (names 0 n).Pairwise (· < ·) ↔ n ≤ 9999 := by
  rw [names, List.pairwise_map]
  constructor
  · intro h
    by_contra hmany
    have hlength : (List.range' (0 + 1) n).length = n := List.length_range'
    have hlt := List.pairwise_iff_getElem.mp h 9998 9999 (by omega) (by omega) (by decide)
    -- the first name with five digits comes before the last one with four
    simp only [List.getElem_range', Nat.reduceAdd, Nat.reduceMul] at hlt
    rw [name_lt_name_iff (by decide)] at hlt
    revert hlt
    decide +kernel
  · intro hn
    refine List.Pairwise.imp_of_mem (fun {i j} hi hj hlt => ?_) List.pairwise_lt_range'
    rw [List.mem_range'_1] at hi hj
    have hi' : (name ⟨i⟩).length = 7 := length_name_of_le (show i ≤ 9999 by omega)
    have hj' : (name ⟨j⟩).length = 7 := length_name_of_le (show j ≤ 9999 by omega)
    rw [name_lt_name_iff hlt, hi', hj', Nat.sub_self, Nat.pow_zero, Nat.div_one]
    exact hlt.le

end Savepoint

/-! ## What happens to a transaction -/

namespace Transaction

open Work

variable {β τ γ : Type}

/-- Anything that happens to a transaction. -/
inductive Event (β : Type) : Type 1 where
  | ask {γ : Type} (request : Request γ)
  /-- Runs a statement on the connection that is checked out. -/
  | send (text : String)
  | giveBack
  | abandon (sp : Savepoint)
  /-- Whatever happens to the database behind the transaction. -/
  | elsewhere (f : β → β)

/-- The savepoint that a request gives. -/
def Request.savepoint? : Request γ → γ → Option Savepoint
  | .openSavepoint, sp => some sp
  | _, _ => none

variable [Backend β τ]

namespace Event

/-- What happens, with the savepoint that is opened. -/
def perform : Event β → Work (Transaction τ × β) DatabaseError (Option Savepoint)
  | ask request => do return request.savepoint? (← request.perform)
  | send text => do
    Transaction.send text
    return none
  | giveBack => do
    update Transaction.giveBack
    return none
  | abandon sp => do
    update (Transaction.abandon sp)
    return none
  | elsewhere f => do
    onBackend (Work.modify f)
    return none

/-- The savepoint that was opened. -/
def given? : Outcome DatabaseError (Option Savepoint) → Option Savepoint
  | .done sp? => sp?
  | _ => none

/-- The transaction after events. -/
def after (s : Transaction τ × β) : List (Event β) → Transaction τ × β
  | [] => s
  | e :: events => after (e.perform s).2 events

/-- The savepoints that are opened by events. -/
def opened (s : Transaction τ × β) : List (Event β) → List Savepoint
  | [] => []
  | e :: events => (given? (e.perform s).1).toList ++ opened (e.perform s).2 events

end Event

/-! ## What uses numbers up -/

section Keeps

variable {n : Nat}

omit [Backend β τ] in
private theorem unlessBusy_keeps_issued :
    (unlessBusy : Work (Transaction τ × β) _ _).Keeps (·.1.issued = n) := by
  rintro ⟨t, b⟩ h
  simp only [unlessBusy]
  split <;> exact h

omit [Backend β τ] in
private theorem ifActive_keeps_issued :
    (ifActive : Work (Transaction τ × β) _ _).Keeps (·.1.issued = n) := by
  rintro ⟨t, b⟩ h
  simp only [ifActive]
  split <;> exact h

omit [Backend β τ] in
private theorem take_keeps_issued :
    (take : Work (Transaction τ × β) _ _).Keeps (·.1.issued = n) := by
  rintro ⟨t, b⟩ h
  simp only [take]
  split <;> exact h

omit [Backend β τ] in
private theorem update_keeps_issued {f : Transaction τ → Transaction τ}
    (hf : ∀ t, (f t).issued = t.issued) :
    (update f : Work (Transaction τ × β) _ _).Keeps (·.1.issued = n) :=
  keeps_modify fun s h => (hf s.1).trans h

omit [Backend β τ] in
private theorem onBackend_keeps_issued (w : Work β DatabaseError γ) :
    (onBackend w : Work (Transaction τ × β) _ _).Keeps (·.1.issued = n) := fun _ h => h

private theorem send_keeps_issued (text : String) :
    (Transaction.send text : Work (Transaction τ × β) _ _).Keeps (·.1.issued = n) := by
  rintro ⟨t, b⟩ h
  simp only [Transaction.send]
  split <;> exact h

private theorem settle_keeps_issued :
    (settle : Work (Transaction τ × β) _ _).Keeps (·.1.issued = n) := by
  rintro ⟨t, b⟩ h
  simp only [settle]
  split
  · refine ((send_keeps_issued _).mapError _).bind (fun _ => update_keeps_issued ?_) _ h
    exact fun _ => rfl
  · exact h

/-- Whatever an operation does once the transaction is free and settled, it looks after the numbers
    if that does. -/
private theorem gate_keeps_issued {w : Work (Transaction τ × β) DatabaseError γ}
    (hw : w.Keeps (·.1.issued = n)) :
    (do unlessBusy; settle; w : Work (Transaction τ × β) _ _).Keeps (·.1.issued = n) :=
  unlessBusy_keeps_issued.bind fun _ => settle_keeps_issued.bind fun _ => hw

/-- No request uses a number up, but for the one that opens a savepoint. -/
private theorem request_keeps_issued (request : Request γ) (h : ∀ a, request.savepoint? a = none) :
    (request.perform : Work (Transaction τ × β) _ _).Keeps (·.1.issued = n) := by
  cases request with
  | openSavepoint => cases h ⟨0⟩
  | rollbackTo sp => exact (gate_keeps_issued (send_keeps_issued _)).mapError _
  | release sp => exact (gate_keeps_issued (send_keeps_issued _)).mapError _
  | commit =>
    exact gate_keeps_issued (take_keeps_issued.bind fun _ => onBackend_keeps_issued _)
  | rollback =>
    refine unlessBusy_keeps_issued.bind fun _ => take_keeps_issued.bind fun _ =>
      (update_keeps_issued ?_).bind fun _ => onBackend_keeps_issued _
    exact fun _ => rfl
  | checkOut =>
    exact gate_keeps_issued (ifActive_keeps_issued.bind fun _ => update_keeps_issued fun _ => rfl)

end Keeps

/-- Uses the next number up, and sends the statement that opens its savepoint. -/
private def openNext : Work (Transaction τ × β) DatabaseError Savepoint := do
  update fun t => { t with issued := t.issued + 1 }
  let sp : Savepoint := ⟨(← Work.state).1.issued⟩
  (Transaction.send sp.createStatement).mapError (.savepoint sp.name .create)
  return sp

private theorem openNext_numbers (s : Transaction τ × β) :
    (openNext s).2.1.issued = s.1.issued + 1 ∧
      ∀ sp, (openNext s).1 = .done sp → sp = ⟨s.1.issued + 1⟩ := by
  obtain ⟨t, b⟩ := s
  let sp : Savepoint := ⟨t.issued + 1⟩
  have hopen : openNext (t, b) = ((Transaction.send sp.createStatement).mapError
      (.savepoint sp.name .create) >>= fun _ => Work.done sp)
        ({ t with issued := t.issued + 1 }, b) := rfl
  rw [hopen]
  constructor
  · exact Keeps.bind ((send_keeps_issued _).mapError _) (fun _ => keeps_done _) _ rfl
  · intro sp' hsp
    obtain ⟨_, _, -, hdone⟩ := exists_of_bind_done (Prod.ext hsp rfl)
    cases hdone
    rfl

/-- Opening a savepoint is refused before it has a number, or uses the next number up. -/
theorem openSavepoint_numbers (s : Transaction τ × β) :
    ((openSavepoint s).2.1.issued = s.1.issued ∧ ∀ sp, (openSavepoint s).1 ≠ .done sp) ∨
      ((openSavepoint s).2.1.issued = s.1.issued + 1 ∧
        ∀ sp, (openSavepoint s).1 = .done sp → sp = ⟨s.1.issued + 1⟩) := by
  let gate : Work (Transaction τ × β) DatabaseError Unit := do unlessBusy; settle; ifActive
  -- What goes before opening uses up no number, so a number is used up just if this is passed.
  have hkept : (gate s).2.1.issued = s.1.issued := gate_keeps_issued ifActive_keeps_issued s rfl
  have hopen : openSavepoint = gate >>= fun _ => openNext := by
    simp only [gate, openSavepoint, openNext, bind_assoc]
  rw [hopen]
  cases hs : gate s with
  | mk o s₁ =>
    rw [hs] at hkept
    cases o with
    | done _ =>
      right
      rw [bind_of_done hs, ← hkept]
      exact openNext_numbers s₁
    | failed e =>
      left
      rw [bind_of_failed hs]
      exact ⟨hkept, fun sp hsp => by cases hsp⟩
    | panicked p =>
      left
      rw [bind_of_panicked hs]
      exact ⟨hkept, fun sp hsp => by cases hsp⟩
    | suspended =>
      left
      rw [bind_of_suspended hs]
      exact ⟨hkept, fun sp hsp => by cases hsp⟩

namespace Event

omit [Backend β τ] in
private theorem bind_done_eq (w : Work (Transaction τ × β) DatabaseError γ)
    (f : γ → Option Savepoint) (s : Transaction τ × β) :
    (w >>= fun a => Work.done (f a)) s = ((w s).1.map f, (w s).2) := by
  simp only [bind, andThen, Work.done]
  rcases w s with ⟨_ | _ | _ | _, s₁⟩ <;> rfl

private theorem perform_openSavepoint (s : Transaction τ × β) :
    (ask .openSavepoint : Event β).perform s =
      ((openSavepoint s).1.map some, (openSavepoint s).2) :=
  bind_done_eq _ _ s

/-- An event uses up one number at most, and a savepoint that is opened has that number. -/
theorem perform_numbers (e : Event β) (s : Transaction τ × β) :
    ((e.perform s).2.1.issued = s.1.issued ∧ given? (e.perform s).1 = none) ∨
      ((e.perform s).2.1.issued = s.1.issued + 1 ∧
        ∀ sp ∈ given? (e.perform s).1, sp = ⟨s.1.issued + 1⟩) := by
  -- All events but one neither use up a number nor give a savepoint.
  have hnothing {γ : Type} {w : Work (Transaction τ × β) DatabaseError γ}
      {f : γ → Option Savepoint} (hw : w.Keeps (·.1.issued = s.1.issued)) (hf : ∀ a, f a = none) :
      ((w >>= fun a => Work.done (f a)) s).2.1.issued = s.1.issued ∧
        given? ((w >>= fun a => Work.done (f a)) s).1 = none := by
    rw [bind_done_eq]
    refine ⟨hw s rfl, ?_⟩
    cases (w s).1 <;> simp [Outcome.map, given?, hf]
  cases e with
  | @ask γ request =>
    cases request with
    | openSavepoint =>
      rw [perform_openSavepoint]
      rcases openSavepoint_numbers s with ⟨hissued, hnone⟩ | ⟨hissued, hsome⟩
      · refine .inl ⟨hissued, ?_⟩
        cases ho : (openSavepoint s).1 with
        | done sp => exact absurd ho (hnone sp)
        | failed e | panicked p | suspended => rfl
      · -- The number is used up, and the savepoint is given unless its statement failed.
        refine .inr ⟨hissued, fun sp hsp => hsome sp ?_⟩
        cases ho : (openSavepoint s).1 with
        | done sp' =>
          rw [ho] at hsp
          exact congrArg Outcome.done (Option.some.inj hsp)
        | failed e | panicked p | suspended => rw [ho] at hsp; cases hsp
    | rollbackTo | release | commit | rollback | checkOut =>
      exact .inl (hnothing (request_keeps_issued _ fun _ => rfl) fun _ => rfl)
  | send text => exact .inl (hnothing (send_keeps_issued text) fun _ => rfl)
  | giveBack =>
    refine .inl (hnothing (update_keeps_issued ?_) fun _ => rfl)
    exact fun _ => rfl
  | abandon sp =>
    refine .inl (hnothing (update_keeps_issued ?_) fun _ => rfl)
    exact fun _ => rfl
  | elsewhere f => exact .inl (hnothing (onBackend_keeps_issued _) fun _ => rfl)

/-- The names of what is opened are names that were used up since, in their order. -/
theorem opened_sublist (s : Transaction τ × β) (events : List (Event β)) :
    ∃ n, (after s events).1.issued = s.1.issued + n ∧
      ((opened s events).map Savepoint.name).Sublist (Savepoint.names s.1.issued n) := by
  -- Induction on the events. Numbers that gave no savepoint are left out of the list of names.
  induction events generalizing s with
  | nil => exact ⟨0, rfl, List.nil_sublist _⟩
  | cons e events ih =>
    obtain ⟨n, hafter, hsub⟩ := ih (e.perform s).2
    simp only [after, opened]
    rcases perform_numbers e s with ⟨hissued, hnone⟩ | ⟨hissued, hsome⟩
    · rw [hissued] at hafter hsub
      rw [hnone]
      exact ⟨n, hafter, hsub⟩
    · rw [hissued] at hafter hsub
      refine ⟨n + 1, by omega, ?_⟩
      rw [Savepoint.names_succ]
      cases hgiven : given? (e.perform s).1 with
      | none => exact hsub.cons _
      | some sp =>
        obtain rfl := hsome sp hgiven
        exact hsub.cons_cons _

/-- Whatever happens to a transaction that was just begun, its savepoints have the names of the
    numbers from one on. No name comes twice, and the names are in order exactly as long as no more
    than 9999 numbers are used up: of two savepoints, the earlier one has the lesser name if its
    number is at most what the later number begins with. -/
theorem names_in_order_iff {s : Transaction τ × β} (h : s.1.issued = 0) (events : List (Event β)) :
    let names := Savepoint.names 0 (after s events).1.issued
    ((opened s events).map Savepoint.name).Sublist names ∧ names.Nodup ∧
      (names.Pairwise (· < ·) ↔ (after s events).1.issued ≤ 9999) ∧
      ∀ a b : Savepoint, a.seq < b.seq →
        (a.name < b.name ↔ a.seq ≤ b.seq / 10 ^ (b.name.length - a.name.length)) := by
  intro names
  obtain ⟨n, hafter, hsub⟩ := opened_sublist s events
  rw [h, Nat.zero_add] at hafter
  rw [h, ← hafter] at hsub
  exact ⟨hsub, Savepoint.nodup_names 0 _, Savepoint.names_pairwise_iff _,
    fun a b => Savepoint.name_lt_name_iff⟩

/-- Where no statement fails, savepoints that are opened one after another get all the numbers. -/
theorem opened_replicate {t : OpenTransaction} {s : Store} (hsettled : t.abandoned = [])
    (hidle : t.busy = false) (hfailures : s.failures = []) (n : Nat) :
    (opened (t.toTransaction, s) (List.replicate n (.ask .openSavepoint))).map Savepoint.name =
      Savepoint.names t.issued n := by
  induction n generalizing t s with
  | zero => rfl
  | succ n ih =>
    -- With nothing to settle and no failures, opening is sending one statement.
    have hopen : Transaction.openSavepoint (t.toTransaction, s) =
        (.done t.next, t.opened.toTransaction,
          s.noted t.label (Order.create t.next).text) := by
      have hrefusal : t.numbered.refusal? s (.create t.next) = none := by
        simp only [OpenTransaction.refusal?, Store.isFailing_of_failures_nil hfailures,
          OpenTransaction.obey, Bool.false_eq_true, if_false]
      rw [OpenTransaction.openSavepoint_eq, OpenTransaction.gate?_of_settled hsettled, hidle,
        OpenTransaction.noteGate_of_settled hsettled]
      simp only [Bool.false_eq_true, if_false, hrefusal]
      rw [OpenTransaction.numbered_after_create, OpenTransaction.settled_of_abandoned_nil hsettled]
    have hrest := ih (t := t.opened) (s := s.noted t.label (Order.create t.next).text) hsettled
      hidle hfailures
    rw [List.replicate_succ, opened, perform_openSavepoint, hopen, Savepoint.names_succ]
    exact congrArg (List.cons t.next.name) hrest

/-- The first number is used up by a statement that fails. The savepoints opened after it, with a
    connection checked out in between, have the next two names. -/
theorem names_in_order_iff_failing :
    let s : Transaction Session × Store :=
      ((OpenTransaction.fresh "write").toTransaction, { failures := ["SAVEPOINT sp_0001"] })
    let events : List (Event Store) :=
      [.ask .openSavepoint, .ask .openSavepoint, .ask .checkOut, .send "INSERT a",
        .ask .openSavepoint, .giveBack, .ask .openSavepoint]
    s.1.issued = 0 ∧ opened s events = [⟨2⟩, ⟨3⟩] ∧ (after s events).1.issued = 3 ∧
      (Savepoint.names 0 (after s events).1.issued).Pairwise (· < ·) := by
  intro s events
  have hafter : (after s events).1.issued = 3 := by decide +kernel
  obtain ⟨-, -, hordered, -⟩ := names_in_order_iff (s := s) rfl events
  exact ⟨rfl, by decide +kernel, hafter, hordered.mpr (by rw [hafter]; decide)⟩

/-- Of ten thousand savepoints, the last one has a name that comes before the one before it. -/
theorem names_out_of_order :
    let s : Transaction Session × Store := ((OpenTransaction.fresh "write").toTransaction, {})
    let names := (opened s (List.replicate 10000 (.ask .openSavepoint))).map Savepoint.name
    names[9998]? = some "sp_9999" ∧ names[9999]? = some "sp_10000" ∧ "sp_10000" < "sp_9999" ∧
      ¬ names.Pairwise (· < ·) := by
  intro s names
  have hnames : names = Savepoint.names 0 10000 := opened_replicate rfl rfl rfl 10000
  rw [hnames]
  refine ⟨?_, ?_, ?_, fun hordered => absurd ((Savepoint.names_pairwise_iff _).mp hordered) ?_⟩
  · rw [Savepoint.names_getElem? (by decide)]
    rfl
  · rw [Savepoint.names_getElem? (by decide)]
    rfl
  · decide
  · decide

end Event

end Transaction

end SharedPages
