import SharedPages.Proofs.Handle

/-!
# Abandoned work is never published

Dropping an armed guard abandons its savepoint, and with it all that was
written since the savepoint was opened. Several savepoints may be abandoned in
any order, and some of them may be off the stack by then; settling goes back to
the earliest of them only, and forgets them all if that succeeds.

The invariant that carries the proof compares every mark at or below a savepoint
with the rows that there were when the savepoint was opened (`Since`): as long
as such a mark is on the stack, the rows below it are rows from before. So
going back to any savepoint that is not later leaves only such rows, and from
then on the rows are what is left of them, followed by rows written after the
guard was dropped (`Survives`).
-/

namespace SharedPages

namespace OpenTransaction

variable {t t' : OpenTransaction} {sp : Savepoint} {rows later more : List String}

/-- Below every mark that is not later than `sp` stand rows that there were when `sp` was opened,
    which are `rows`. -/
def Since (sp : Savepoint) (rows : List String) (t : OpenTransaction) : Prop :=
  ∀ m ∈ t.marks, m.1.seq ≤ sp.seq → m.2 ≤ rows.length ∧ t.rows.take m.2 = rows.take m.2

/-- The transaction has first rows of `rows`, and then only rows of `later`. -/
def Survives (rows later : List String) (t : OpenTransaction) : Prop :=
  ∃ kept new, t.rows = kept ++ new ∧ kept <+: rows ∧ new.Sublist later

/-- The stack is ordered and remembers what there was when `sp` was opened. -/
structure Remembers (sp : Savepoint) (rows : List String) (t : OpenTransaction) : Prop where
  ordered : t.Ordered
  seq_le : sp.seq ≤ t.issued
  since : Since sp rows t

/-- A savepoint that was just opened is remembered with the rows of that moment. -/
theorem Ordered.remembers_opened (ht : t.Ordered) : Remembers t.next t.rows t.opened where
  ordered := ht.opened
  seq_le := Nat.le_refl _
  since m hm _ := ⟨ht.opened.length_le m hm, rfl⟩

/-! ## From the opening of a savepoint on -/

private theorem Since.trimmed {n : Nat} (h : Since sp rows t) (htrim : TrimmedTo n t t') :
    Since sp rows t' := by
  intro m hm hle
  rw [htrim.take_eq hm]
  exact h m (htrim.2.1.subset hm) hle

/-- Every move remembers what there was when `sp` was opened. -/
theorem Remembers.move (h : Remembers sp rows t) (hmove : Move t more t') :
    Remembers sp rows t' := by
  obtain ⟨hordered, hseq, hsince⟩ := h
  refine ⟨hordered.move hmove, ?_, ?_⟩
  · -- Only opening a savepoint uses up a number.
    cases hmove with
    | rest _ _ issued _ => exact Nat.le_trans hseq issued
    | create => exact Nat.le_succ_of_le hseq
    | insert | rollbackTo | release => rwa [issued_after]
    | settle => rwa [issued_settled]
  · cases hmove with
    | rest hrows hmarks _ _ =>
      intro m hm hle
      rw [hrows]
      exact hsince m (hmarks ▸ hm) hle
    | insert row =>
      intro m hm hle
      -- A mark counts no more rows than there are, so the new row lies beyond it.
      have hlength := hordered.length_le m hm
      obtain ⟨hrows, htake⟩ := hsince m hm hle
      exact ⟨hrows, by rw [← htake]; exact List.take_append_of_le_length hlength⟩
    | create =>
      intro m hm hle
      rcases List.mem_cons.mp hm with rfl | hm
      · -- The new savepoint is later than `sp`.
        simp only [next] at hle
        omega
      · exact hsince m hm hle
    | rollbackTo other =>
      -- From here on rows and marks are dropped, but no rows that a mark left behind counts on.
      obtain ⟨n, hn⟩ := hordered.trimmedTo_rollbackTo other
      exact hsince.trimmed hn
    | release other =>
      obtain ⟨n, hn⟩ := hordered.trimmedTo_release other
      exact hsince.trimmed hn
    | settle =>
      obtain ⟨n, hn⟩ := hordered.trimmedTo_settled
      exact hsince.trimmed hn

/-! ## From the drop of its guard on -/

private theorem Survives.trimmed {n : Nat} (h : Survives rows later t) (htrim : TrimmedTo n t t') :
    Survives rows later t' := by
  obtain ⟨kept, new, hrows, hkept, hnew⟩ := h
  refine ⟨kept.take n, new.take (n - kept.length), ?_, ?_, ?_⟩
  · rw [htrim.1, hrows, List.take_append]
  · exact (List.take_prefix n kept).trans hkept
  · exact (List.take_sublist _ new).trans hnew

/-- Settling a transaction whose savepoint `sp` is abandoned leaves only rows from before. -/
private theorem Remembers.survives_settled {s : Store} (h : Remembers sp rows t)
    (habandoned : sp ∈ t.abandoned) (hobstacle : t.obstacle? s = none) :
    Survives rows later t.settled := by
  cases hearliest : t.earliest? with
  | none => simp_all [earliest?_eq_none]
  | some first =>
    -- Going back to the first goes back at least as far as `sp`.
    have hle : first.seq ≤ sp.seq := earliest?_le hearliest habandoned
    simp only [obstacle?, hearliest, Option.map_eq_none_iff] at hobstacle
    simp only [refusal?, obey] at hobstacle
    cases hmarks : t.marksFrom first with
    | nil =>
      -- A savepoint that is off the stack cannot be gone back to.
      rw [hmarks] at hobstacle
      split at hobstacle <;> cases hobstacle
    | cons m rest =>
      have hfirst : m.1 = first := (marksFrom_spec hmarks).1
      obtain ⟨-, htake⟩ := h.since m (mem_of_marksFrom hmarks) (hfirst ▸ hle)
      refine ⟨rows.take m.2, [], ?_, List.take_prefix _ _, List.nil_sublist _⟩
      simp only [settled, hearliest, after, obey, hmarks, List.append_nil]
      exact htake

/-- What holds from the drop of the guard on: the savepoint is still to be settled, or it was. -/
def Doomed (sp : Savepoint) (rows later : List String) (t : OpenTransaction) : Prop :=
  Remembers sp rows t ∧ (sp ∈ t.abandoned ∨ Survives rows later t)

private theorem Survives.move (hordered : t.Ordered) (h : Survives rows later t)
    (hmove : Move t more t') : Survives rows (later ++ more) t' := by
  cases hmove with
  | rest hrows _ _ _ =>
    obtain ⟨kept, new, hkept⟩ := h
    exact ⟨kept, new, by simpa [hrows] using hkept⟩
  | insert row =>
    -- The new row comes after all that were kept, and it is the latest one written.
    obtain ⟨kept, new, hrows, hkept, hnew⟩ := h
    refine ⟨kept, new ++ [row], ?_, hkept, hnew.append (List.Sublist.refl _)⟩
    simp only [after, obey, hrows, List.append_assoc]
  | create => simpa [Survives, opened] using h
  | rollbackTo other =>
    -- From here on rows are lost from the end, first those written later.
    obtain ⟨n, hn⟩ := hordered.trimmedTo_rollbackTo other
    simpa using h.trimmed hn
  | release other =>
    obtain ⟨n, hn⟩ := hordered.trimmedTo_release other
    simpa using h.trimmed hn
  | settle =>
    obtain ⟨n, hn⟩ := hordered.trimmedTo_settled
    simpa using h.trimmed hn

theorem Doomed.move (h : Doomed sp rows later t) (hmove : Move t more t') :
    Doomed sp rows (later ++ more) t' := by
  -- Only settling forgets what is abandoned, and it leaves only rows from before.
  obtain ⟨hremembers, habandoned | hsurvives⟩ := h
  · refine ⟨hremembers.move hmove, ?_⟩
    cases hmove with
    | rest _ _ _ hsubset => exact .inl (hsubset habandoned)
    | insert | rollbackTo | release => exact .inl (by simpa using habandoned)
    | create => exact .inl habandoned
    | settle hobstacle => exact .inr (hremembers.survives_settled habandoned hobstacle)
  · exact ⟨hremembers.move hmove, .inr (hsurvives.move hremembers.ordered hmove)⟩

/-- A settled transaction has nothing left of what was abandoned. -/
theorem Doomed.survives_settled {s : Store} (h : Doomed sp rows later t)
    (hobstacle : t.obstacle? s = none) : Survives rows later t.settled := by
  have hsettled := h.move (.settle t hobstacle)
  rw [List.append_nil] at hsettled
  rcases hsettled.2 with habandoned | hsurvives
  · rw [abandoned_settled] at habandoned
    cases habandoned
  · exact hsurvives

end OpenTransaction

/-! ## Runs of a handle -/

namespace Handle

open OpenTransaction

variable {label : String} {s : Store}

/-- The rows that were written in the transaction and are not committed. -/
def pending (h : Handle) : List String :=
  (h.transaction.session.bind (·.pending)).getD []

/-- The step settles what was abandoned before it does anything else. -/
def Step.settles : Step → Bool
  | openSavepoint | rollbackTo _ | release _ | checkOut | commit => true
  | _ => false

/-- A handle that was run from a fresh one is over, or its stack is ordered. -/
private theorem run_fresh (label : String) (s : Store) (steps : List Step) :
    ((fresh label s).run steps).transaction.session = none ∨
      ∃ t : OpenTransaction,
        ((fresh label s).run steps).transaction = t.toTransaction ∧ t.Ordered :=
  run_preserves (J := fun _ => Ordered) Ordered.move rfl (ordered_fresh label) steps

/-- A savepoint that was opened on a handle is remembered with the rows of that moment. -/
private theorem remembers_of_openSavepoint {h o : Handle} {sp : Savepoint} {t : OpenTransaction}
    (ht : h.transaction = t.toTransaction) (hordered : t.Ordered)
    (hopened : h.perform .openSavepoint = (.done (some sp), o)) :
    ∃ t', o.transaction = t'.toTransaction ∧ Remembers sp o.pending t' := by
  obtain ⟨_, s, guards⟩ := h
  subst ht
  simp only [perform, work, openSavepoint_eq] at hopened
  -- Being refused, by the gate or by the database, would contradict `hopened`.
  cases hgate : t.gate? s with
  | some e =>
    rw [hgate] at hopened
    cases congrArg Prod.fst hopened
  | none =>
    cases hrefusal : t.numbered.refusal? (t.noteGate s) (.create t.next) with
    | some e =>
      simp only [hgate, hrefusal] at hopened
      cases congrArg Prod.fst hopened
    | none =>
      simp only [hgate, hrefusal, numbered_after_create, Outcome.map, Prod.mk.injEq,
        Outcome.done.injEq, Option.some.injEq] at hopened
      obtain ⟨rfl, rfl⟩ := hopened
      -- The statement is sent after settling, so the savepoint is on top of the settled ones.
      have hnext : t.next = t.settled.next := by simp only [next, issued_settled]
      exact ⟨_, rfl, hnext ▸ hordered.settled.remembers_opened⟩

/-- A commit that succeeds publishes the rows of the settled transaction. -/
private theorem rows_of_commit {h : Handle} {t : OpenTransaction}
    (ht : h.transaction = t.toTransaction) (hended : (h.perform .commit).1 = .done none) :
    t.obstacle? h.store = none ∧
      (h.perform .commit).2.store.rows = h.store.rows ++ t.settled.rows := by
  obtain ⟨_, s, guards⟩ := h
  subst ht
  simp only [perform, work, commit_eq] at hended ⊢
  -- Of the three ways a commit can go, only the last one ends with `done`.
  cases hgate : t.gate? s with
  | some e =>
    rw [hgate] at hended
    cases hended
  | none =>
    simp only [hgate] at hended ⊢
    split at hended
    · cases hended
    · rename_i hfailing
      rw [if_neg hfailing]
      exact ⟨obstacle?_of_gate?_none hgate, rfl⟩

/-- What was written between the opening of a savepoint and the drop of a guard for it is not among
    the rows that a later commit publishes. They are rows from before the opening, followed by rows
    from after the drop. -/
private theorem published_of_drop {before between after : List Step} {sp : Savepoint}
    {o d : Handle}
    (hopened : ((fresh label s).run before).perform .openSavepoint = (.done (some sp), o))
    (harmed : sp ∈ (o.run between).guards) (hdropped : ((o.run between).perform (.drop sp)).2 = d)
    (hended : ((d.run after).perform .commit).1 = .done none) :
    ∃ kept new,
      ((d.run after).perform .commit).2.store.rows = (d.run after).store.rows ++ (kept ++ new) ∧
      kept <+: o.pending ∧ new.Sublist (d.writes after) := by
  -- A handle whose transaction is over opens no savepoint and commits nothing.
  have hclosed {h : Handle} (hover : h.transaction.session = none) :
      (h.perform .commit).1 ≠ .done none := by
    simp only [perform, work, Transaction.commit_of_over hover]
    intro hcommit
    cases hcommit
  rcases run_fresh label s before with hover | ⟨t₀, ht₀, hordered₀⟩
  · simp only [perform, work, Transaction.openSavepoint_of_over hover] at hopened
    cases congrArg Prod.fst hopened
  -- From the opening on the savepoint is remembered, and from the drop on it is doomed.
  obtain ⟨t₁, ht₁, hremembers₁⟩ := remembers_of_openSavepoint ht₀ hordered₀ hopened
  rcases run_preserves (J := fun _ => Remembers sp o.pending) Remembers.move ht₁ hremembers₁
    between with hover | ⟨t₂, ht₂, hremembers₂⟩
  · have hover' := perform_of_over hover (.drop sp)
    rw [hdropped] at hover'
    exact absurd hended (hclosed (run_of_over hover' after))
  · have hd : d.transaction =
        { t₂ with abandoned := sp :: t₂.abandoned : OpenTransaction }.toTransaction := by
      simp only [← hdropped, perform, harmed, if_true, ht₂]
      rfl
    have hdoomed : Doomed sp o.pending []
        { t₂ with abandoned := sp :: t₂.abandoned : OpenTransaction } :=
      ⟨hremembers₂.move (.rest rfl rfl (Nat.le_refl _) (List.subset_cons_self _ _)),
        .inl List.mem_cons_self⟩
    rcases run_preserves Doomed.move hd hdoomed after with hover | ⟨t₃, ht₃, hdoomed₃⟩
    · exact absurd hended (hclosed hover)
    · obtain ⟨hobstacle, hrows⟩ := rows_of_commit ht₃ hended
      obtain ⟨kept, new, hsettled, hkept, hnew⟩ := hdoomed₃.survives_settled hobstacle
      exact ⟨kept, new, hsettled ▸ hrows, hkept, hnew⟩

/-- Of an open transaction whose earliest abandoned savepoint cannot be gone back to, every step
    that settles is refused and leaves all as it is. -/
private theorem refused_of_obstacle {h : Handle} {t : OpenTransaction} {sp : Savepoint}
    {e : DatabaseError} {step : Step} (ht : h.transaction = t.toTransaction)
    (hearliest : t.earliest? = some sp)
    (hfails : (Transaction.send sp.rollbackStatement (h.transaction, h.store)).1 = .failed e)
    (hsettles : step.settles = true) :
    (∃ e, (h.perform step).1 = .failed e) ∧
      (h.perform step).2.transaction = h.transaction ∧
      (h.perform step).2.store.rows = h.store.rows := by
  obtain ⟨_, s, guards⟩ := h
  subst ht
  -- The gate is closed, and every step that settles stands behind it.
  obtain ⟨e, hgate⟩ : ∃ e, t.gate? s = some e := by
    have hsend := t.send_text s (.rollbackTo sp)
    simp only [Order.text] at hsend
    cases hrefusal : t.refusal? s (.rollbackTo sp) with
    | none =>
      simp only [hsend, hrefusal] at hfails
      cases hfails
    | some e =>
      simp only [gate?, obstacle?, hearliest, hrefusal, Option.map_some]
      split
      · exact ⟨_, rfl⟩
      · exact ⟨_, rfl⟩
  cases step with
  | openSavepoint => simp [perform, work, openSavepoint_eq, hgate, Outcome.map]
  | rollbackTo other => simp [perform, work, rollbackTo_eq, hgate, Outcome.map]
  | release other => simp [perform, work, release_eq, hgate, Outcome.map]
  | checkOut => simp [perform, work, checkOut_eq, hgate, Outcome.map]
  | commit => simp [perform, work, commit_eq, hgate, Outcome.map]
  | insert | giveBack | rollback | arm | disarm | drop | inject => cases hsettles

/-- A transaction that is over refuses every step that settles, and stays as it is. -/
private theorem refused_of_over {h : Handle} {step : Step} (hover : h.transaction.session = none)
    (hsettles : step.settles = true) :
    (∃ e, (h.perform step).1 = .failed e) ∧
      (h.perform step).2.transaction = h.transaction ∧
      (h.perform step).2.store.rows = h.store.rows := by
  cases step with
  | openSavepoint => simp [perform, work, Transaction.openSavepoint_of_over hover, Outcome.map]
  | rollbackTo other => simp [perform, work, Transaction.rollbackTo_of_over hover, Outcome.map]
  | release other => simp [perform, work, Transaction.release_of_over hover, Outcome.map]
  | checkOut => simp [perform, work, Transaction.checkOut_of_over hover, Outcome.map]
  | commit => simp [perform, work, Transaction.commit_of_over hover, Outcome.map]
  | insert | giveBack | rollback | arm | disarm | drop | inject => cases hsettles

/-- While a handle cannot go back to its earliest abandoned savepoint, every step that settles is
    refused and leaves the transaction and the committed rows as they are. -/
private theorem refused_of_unsettled {steps : List Step} {sp : Savepoint} {e : DatabaseError}
    {h : Handle} (hrun : (fresh label s).run steps = h)
    (hearliest : h.transaction.earliest? = some sp)
    (hfails : (Transaction.send sp.rollbackStatement (h.transaction, h.store)).1 = .failed e)
    {step : Step} (hsettles : step.settles = true) :
    (∃ e, (h.perform step).1 = .failed e) ∧
      (h.perform step).2.transaction = h.transaction ∧
      (h.perform step).2.store.rows = h.store.rows := by
  subst hrun
  rcases run_fresh label s steps with hover | ⟨t, ht, -⟩
  · exact refused_of_over hover hsettles
  · rw [ht] at hearliest
    exact refused_of_obstacle ht hearliest hfails hsettles

/-- Whatever is done with a transaction and its savepoints, and whatever is made to fail meanwhile:
    a commit that succeeds publishes nothing that was written between the opening of a savepoint and
    the drop of an armed guard for it, but only rows from before, followed by rows from after. And
    while the earliest abandoned savepoint cannot be gone back to, every step that settles is
    refused and changes neither the transaction nor the committed rows. -/
theorem abandoned_never_published (label : String) (s : Store) :
    (∀ (before between after : List Step) (sp : Savepoint) (o d : Handle),
      ((fresh label s).run before).perform .openSavepoint = (.done (some sp), o) →
      sp ∈ (o.run between).guards →
      ((o.run between).perform (.drop sp)).2 = d →
      ((d.run after).perform .commit).1 = .done none →
      ∃ kept new,
        ((d.run after).perform .commit).2.store.rows = (d.run after).store.rows ++ (kept ++ new) ∧
        kept <+: o.pending ∧ new.Sublist (d.writes after)) ∧
    (∀ (steps : List Step) (sp : Savepoint) (cause : DatabaseError) (h : Handle) (step : Step),
      (fresh label s).run steps = h →
      h.transaction.earliest? = some sp →
      (Transaction.send sp.rollbackStatement (h.transaction, h.store)).1 = .failed cause →
      step.settles = true →
      (∃ e, (h.perform step).1 = .failed e) ∧
        (h.perform step).2.transaction = h.transaction ∧
        (h.perform step).2.store.rows = h.store.rows) := by
  constructor
  · rintro before between after sp o d hopened harmed hdropped hended
    exact published_of_drop hopened harmed hdropped hended
  · intro steps sp cause h step hrun hearliest hfails hsettles
    exact refused_of_unsettled hrun hearliest hfails hsettles

/-- One savepoint is abandoned with a row written in it, and going back to it is made to fail for a
    while. In the end only the row from after the drop is committed. -/
theorem abandoned_never_published_once :
    let steps : List Step := [.arm ⟨1⟩, .checkOut, .insert "b", .giveBack]
    let later : List Step := [.checkOut, .insert "c", .giveBack]
    let failing : List Step := [.drop ⟨1⟩, .inject ["ROLLBACK TO SAVEPOINT sp_0001"]]
    let opened := (((fresh "write" {}).run []).perform .openSavepoint).2
    let dropped := ((opened.run steps).perform (.drop ⟨1⟩)).2
    let stuck := (fresh "write" {}).run (.openSavepoint :: steps ++ failing)
    ((dropped.run later).perform .commit).2.store.rows = ["c"] ∧
    (∃ kept new, ((dropped.run later).perform .commit).2.store.rows =
        (dropped.run later).store.rows ++ (kept ++ new) ∧
      kept <+: opened.pending ∧ new.Sublist (dropped.writes later)) ∧
    stuck.pending = ["b"] ∧
    (stuck.perform .commit).2.transaction = stuck.transaction := by
  intro steps later failing opened dropped stuck
  obtain ⟨hpublished, hrefused⟩ := abandoned_never_published "write" {}
  have hopened : ((fresh "write" {}).run []).perform .openSavepoint = (.done (some ⟨1⟩), opened) :=
    Prod.ext (by decide +kernel) rfl
  -- The general statements are applied to these runs, and only their hypotheses are evaluated.
  have hkept := hpublished [] steps later ⟨1⟩ opened dropped hopened (by decide +kernel) rfl
    (by decide +kernel)
  have hearliest : stuck.transaction.earliest? = some ⟨1⟩ := by decide +kernel
  have hfails : (Transaction.send (Savepoint.rollbackStatement ⟨1⟩)
      (stuck.transaction, stuck.store)).1 =
        .failed (Store.injected "ROLLBACK TO SAVEPOINT sp_0001") := by decide +kernel
  have hstuck := hrefused (.openSavepoint :: steps ++ failing) ⟨1⟩ _ stuck .commit rfl hearliest
    hfails rfl
  have hrows : ((dropped.run later).perform .commit).2.store.rows = ["c"] := by decide +kernel
  have hpending : stuck.pending = ["b"] := by decide +kernel
  exact ⟨hrows, hkept, hpending, hstuck.2.1⟩

end Handle

end SharedPages
