import Mathlib.Logic.Function.Basic
import SharedPages.Proofs.Mirroring
import SharedPages.Proofs.Preservation
import SharedPages.Proofs.Units
import SharedPages.Proofs.WatchedTransaction

/-!
# Savepoints that are named are open

A unit of work names savepoints to its session when it goes back to its own,
when it releases it, and when it settles those that were abandoned. By then the
savepoint might have vanished with one that encloses it, and then the session
would refuse the statement and the transaction could never be settled again.
That does not happen, whatever fails, panics or is dropped half-way, and
wherever connections are checked out: not for any routine, and with any faults.

Each transaction has a floor of its own, the savepoint of the unit that is
running in it. Work in that unit leaves everything below as it is, and also
leaves every other transaction as far as its floor (`Database.Proceeds`).

## Key results

- `Database.sound_run`: units of work
- `Routine.sound_play`: routines
- `Routine.play_findsSavepoints`: every savepoint that is named is open
-/

namespace SharedPages

open OpenTransaction

variable {faults : Nat → Bool} {ε α γ : Type} {id : TransactionId} {floors : Nat → Nat}

namespace Database

variable {d d₁ d₂ d₃ : Database (Watched faults) Numbered}

/-! ## Databases that proceed -/

/-- The transaction is over, or it is open and all is well above the floor. -/
def Standing (begun floor : Nat) (t : Transaction Numbered) : Prop :=
  t.session = none ∨ ∃ o n, t = o.watched n ∧ n < begun ∧ Level floor o

/-- Every transaction stands on its floor, and transactions to come will have none. -/
structure Leveled (floors : Nat → Nat) (d : Database (Watched faults) Numbered) : Prop where
  floors_eq_zero : ∀ i, d.transactions.size ≤ i → floors i = 0
  standing : ∀ i t, d.transactions[i]? = some t → Standing d.backend.begun (floors i) t

/-- A transaction that is over stays so, and an open one stays open and as it is up to the floor. -/
def Keeps (floor : Nat) (t t' : Transaction Numbered) : Prop :=
  t.session = none ∧ t'.session = none ∨
    ∃ o o' n rows, t = o.watched n ∧ t' = o'.watched n ∧ Grows floor o rows o'

/-- From the first database to the second, sound events were added, transactions were added, and
    those that there were are kept. -/
structure Proceeds (floors : Nat → Nat) (d d' : Database (Watched faults) Numbered) : Prop where
  leveled : Leveled floors d'
  sees : d.backend.Sees d.backend.begun d'.backend
  size_le : d.transactions.size ≤ d'.transactions.size
  keeps : ∀ i t, d.transactions[i]? = some t →
    ∃ t', d'.transactions[i]? = some t' ∧ Keeps (floors i) t t'

theorem Standing.keeps {begun floor : Nat} {t : Transaction Numbered} (h : Standing begun floor t) :
    Keeps floor t t := by
  rcases h with hover | ⟨o, n, rfl, -, hlevel⟩
  · exact .inl ⟨hover, hover⟩
  · exact .inr ⟨o, o, n, [], rfl, rfl, hlevel.refl⟩

theorem Standing.mono {begun begun' floor floor' : Nat} {t : Transaction Numbered}
    (h : Standing begun floor t) (hbegun : begun ≤ begun') (hfloor : floor' ≤ floor) :
    Standing begun' floor' t := by
  rcases h with hover | ⟨o, n, rfl, hn, hlevel⟩
  · exact .inl hover
  · exact .inr ⟨o, n, rfl, Nat.lt_of_lt_of_le hn hbegun, hlevel.lower hfloor⟩

theorem Keeps.trans {floor : Nat} {t t₁ t₂ : Transaction Numbered} (h₁ : Keeps floor t t₁)
    (h₂ : Keeps floor t₁ t₂) : Keeps floor t t₂ := by
  rcases h₁ with ⟨hover, hover₁⟩ | ⟨o, o₁, n, rows, rfl, rfl, hgrows⟩
  · rcases h₂ with ⟨-, hover₂⟩ | ⟨_, _, _, _, rfl, -⟩
    · exact .inl ⟨hover, hover₂⟩
    · cases hover₁
  · rcases h₂ with ⟨hover₁, -⟩ | ⟨o₁', o₂, m, more, h, rfl, hgrows₂⟩
    · cases hover₁
    · obtain ⟨rfl, rfl⟩ := watched_inj h
      exact .inr ⟨o, o₂, n, _, rfl, rfl, hgrows.trans hgrows₂⟩

theorem Keeps.lower {floor floor' : Nat} {t t' : Transaction Numbered} (h : Keeps floor t t')
    (hle : floor' ≤ floor) : Keeps floor' t t' := by
  rcases h with hover | ⟨o, o', n, rows, rfl, rfl, hgrows⟩
  · exact .inl hover
  · exact .inr ⟨o, o', n, rows, rfl, rfl, hgrows.lower hle⟩

theorem Leveled.refl (h : Leveled floors d) : Proceeds floors d d where
  leveled := h
  sees := .refl _ _
  size_le := Nat.le_refl _
  keeps i t ht := ⟨t, ht, (h.standing i t ht).keeps⟩

/-- Work one after another. -/
theorem Proceeds.trans (h₁ : Proceeds floors d d₁) (h₂ : Proceeds floors d₁ d₂) :
    Proceeds floors d d₂ where
  leveled := h₂.leveled
  sees := h₁.sees.trans (h₂.sees.weaken h₁.sees.begun_le)
  size_le := Nat.le_trans h₁.size_le h₂.size_le
  keeps i t ht := by
    obtain ⟨t₁, ht₁, hkeeps₁⟩ := h₁.keeps i t ht
    obtain ⟨t₂, ht₂, hkeeps₂⟩ := h₂.keeps i t₁ ht₁
    exact ⟨t₂, ht₂, hkeeps₁.trans hkeeps₂⟩

/-- What is kept up to high floors is kept up to low ones. -/
theorem Proceeds.lower {floors' : Nat → Nat} (h : Proceeds floors' d d₁)
    (hle : ∀ i, floors i ≤ floors' i) : Proceeds floors d d₁ where
  leveled := by
    refine ⟨fun i hi => ?_, fun i t ht => ?_⟩
    · have := h.leveled.floors_eq_zero i hi
      have := hle i
      omega
    · exact (h.leveled.standing i t ht).mono (Nat.le_refl _) (hle i)
  sees := h.sees
  size_le := h.size_le
  keeps i t ht := by
    obtain ⟨t', ht', hkeeps⟩ := h.keeps i t ht
    exact ⟨t', ht', hkeeps.lower (hle i)⟩

/-- Work on one transaction, seen from an earlier database: it is enough to look at that
    transaction. -/
theorem Proceeds.patch {t₁ t₂ : Transaction Numbered} {b : Watched faults}
    (h : Proceeds floors d d₁) (ht₁ : d₁.transactions[id.index]? = some t₁)
    (hsees : d₁.backend.Sees d.backend.begun b)
    (hstanding : Standing b.begun (floors id.index) t₂)
    (hkeeps : ∀ t, d.transactions[id.index]? = some t → Keeps (floors id.index) t t₂) :
    Proceeds floors d
      { backend := b, transactions := d₁.transactions.setIfInBounds id.index t₂ } where
  leveled := by
    refine ⟨fun i hi => h.leveled.floors_eq_zero i (by simpa using hi), fun i t ht => ?_⟩
    simp only [Array.getElem?_setIfInBounds] at ht
    split at ht
    · -- At the index of the transaction stands what took its place.
      rename_i hi
      subst hi
      split at ht <;> cases ht
      exact hstanding
    · -- The other transactions are as they were, only more statements may have begun.
      exact (h.leveled.standing i t ht).mono hsees.begun_le (Nat.le_refl _)
  sees := h.sees.trans hsees
  size_le := by simpa using h.size_le
  keeps i t ht := by
    have hlt := (Array.getElem?_eq_some_iff.mp ht₁).1
    simp only [Array.getElem?_setIfInBounds]
    by_cases hi : id.index = i
    · subst hi
      rw [if_pos rfl, if_pos hlt]
      exact ⟨t₂, rfl, hkeeps t ht⟩
    · rw [if_neg hi]
      exact h.keeps i t ht

/-! ## Sound work -/

/-- Whatever floors there are, the work respects them. -/
def Sound (w : Work (Database (Watched faults) Numbered) ε α) : Prop :=
  ∀ floors d, w.Keeps (Proceeds floors d)

theorem Sound.proceeds {w : Work (Database (Watched faults) Numbered) ε α} (h : Sound w)
    (hd : Leveled floors d) : Proceeds floors d (w d).2 :=
  h floors d d hd.refl

/-- Work is sound if it respects the floors of the database that it starts with. -/
theorem sound_of_proceeds {w : Work (Database (Watched faults) Numbered) ε α}
    (h : ∀ floors d, Leveled floors d → Proceeds floors d (w d).2) : Sound w :=
  fun floors _ d' hd' => hd'.trans (h floors d' hd'.leveled)

theorem within_of_some {w : Work (Transaction Numbered × Watched faults) DatabaseError α}
    {t t' : Transaction Numbered} {b : Watched faults} {o : Outcome DatabaseError α}
    (ht : d.transactions[id.index]? = some t) (hw : w (t, d.backend) = (o, t', b)) :
    within id w d =
      (o, { backend := b, transactions := d.transactions.setIfInBounds id.index t' }) := by
  simp only [within, ht, hw]

theorem within_snd_of_some {w : Work (Transaction Numbered × Watched faults) DatabaseError α}
    {t t' : Transaction Numbered} {b : Watched faults}
    (ht : d.transactions[id.index]? = some t) (hw : (w (t, d.backend)).2 = (t', b)) :
    (within id w d).2 =
      { backend := b, transactions := d.transactions.setIfInBounds id.index t' } := by
  simp only [within, ht, hw]

theorem sound_within {w : Work (Transaction Numbered × Watched faults) DatabaseError α}
    (hw : Transaction.Tame w) (id : TransactionId) : Sound (within id w) := by
  refine sound_of_proceeds fun floors d hd => ?_
  cases ht : d.transactions[id.index]? with
  | none =>
    simp only [within, ht]
    exact hd.refl
  | some t =>
    have hsame : ∀ t', d.transactions[id.index]? = some t' → t' = t := by simp [ht]
    -- Work on a transaction that is over is inert, and on an open one it stays above the floor.
    rcases hd.standing id.index t ht with hover | ⟨o, n, rfl, hn, hlevel⟩
    · rw [within_snd_of_some ht (hw.inert t d.backend hover)]
      exact hd.refl.patch ht (.refl _ _) (.inl hover) fun t' ht' =>
        .inl ⟨hsame t' ht' ▸ hover, hover⟩
    · obtain ⟨o', b', rows, hstep, hsees, hbegun, hgrows⟩ := hw.grows d.backend.begun hlevel hn
      rw [within_snd_of_some ht hstep]
      exact hd.refl.patch ht hsees (.inr ⟨o', n, rfl, hbegun ▸ hn, hgrows.level⟩) fun t' ht' =>
        .inr ⟨o, o', n, rows, hsame t' ht', rfl, hgrows⟩

/-- Work on the store behind the transactions. -/
theorem sound_onBackend {w : Work (Watched faults) ε α} (hw : ∀ b, Watched.Sees b.begun b (w b).2) :
    Sound (onBackend w : Work (Database (Watched faults) Numbered) ε α) := by
  refine sound_of_proceeds fun floors d hd => ?_
  have hsees := hw d.backend
  exact {
    leveled := ⟨hd.floors_eq_zero, fun i t ht =>
      (hd.standing i t ht).mono hsees.begun_le (Nat.le_refl _)⟩
    sees := hsees
    size_le := Nat.le_refl _
    keeps i t ht := ⟨t, ht, (hd.standing i t ht).keeps⟩ }

theorem change_of_some {f : Transaction Numbered → Transaction Numbered} {t : Transaction Numbered}
    (ht : d.transactions[id.index]? = some t) :
    change id f d =
      { backend := d.backend, transactions := d.transactions.setIfInBounds id.index (f t) } := by
  have hlt := (Array.getElem?_eq_some_iff.mp ht).1
  simp only [change, mk.injEq, true_and]
  refine Array.ext (by simp) fun i hi hi' => ?_
  rw [Array.getElem_modify, Array.getElem_setIfInBounds]
  split
  · rename_i hindex
    subst hindex
    rw [← (Array.getElem?_eq_some_iff.mp ht).2]
  · rfl

theorem change_of_none {f : Transaction Numbered → Transaction Numbered}
    (ht : d.transactions[id.index]? = none) : change id f d = d := by
  have hle := Array.getElem?_eq_none_iff.mp ht
  simp only [change]
  congr 1
  refine Array.ext (by simp) fun i hi hi' => ?_
  rw [Array.getElem_modify, if_neg (by omega)]

theorem giveBack_proceeds (client : Client) (hd : Leveled floors d) :
    Proceeds floors d (giveBack client d) := by
  cases client with
  | pool role => exact hd.refl
  | transaction id =>
    simp only [giveBack]
    cases ht : d.transactions[id.index]? with
    | none =>
      rw [change_of_none ht]
      exact hd.refl
    | some t =>
      have hsame : ∀ t', d.transactions[id.index]? = some t' → t' = t := by simp [ht]
      rw [change_of_some ht]
      rcases hd.standing id.index t ht with hover | ⟨o, n, rfl, hn, hlevel⟩
      · exact hd.refl.patch ht (.refl _ _) (.inl hover) fun t' ht' =>
          .inl ⟨hsame t' ht' ▸ hover, hover⟩
      · -- Only the flag of the session changes, so no row is lost and no savepoint moves.
        have hgrows : Grows (floors id.index) o [] { o with busy := false } :=
          hlevel.resting rfl rfl rfl (Nat.le_refl _)
        exact hd.refl.patch ht (.refl _ _) (.inr ⟨_, n, rfl, hn, hgrows.level⟩) fun t' ht' =>
          .inr ⟨o, _, n, _, hsame t' ht', rfl, hgrows⟩

theorem sound_checkOut (client : Client) :
    Sound (checkOut client : Work (Database (Watched faults) Numbered) _ _) := by
  cases client with
  | pool role => exact sound_onBackend fun b => .refl _ b
  | transaction id => exact sound_within Transaction.tame_checkOut id

theorem sound_execute (p : PlainStatement) (client : Client) :
    Sound (execute p.text client : Work (Database (Watched faults) Numbered) _ _) := by
  cases client with
  | pool role => exact sound_onBackend fun b => b.executeAlone_sees role p
  | transaction id => exact sound_within (Transaction.tame_send p) id

theorem sound_statement (client : Client) (p : PlainStatement) :
    Sound (statement client p.text : Work (Database (Watched faults) Numbered) _ _) :=
  fun floors d => .bind ((sound_checkOut client floors d).mapError _) fun _ =>
    (sound_execute p client floors d).ensuring fun _ h =>
      h.trans (giveBack_proceeds client h.leveled)

/-! ## Units of work -/

/-- Steps that run above a savepoint leave its transaction as it is up to that savepoint. -/
private theorem Sound.above {steps : Work (Database (Watched faults) Numbered) ε α}
    (hsteps : Sound steps) {t₀ : OpenTransaction} {n : Nat} (hd₁ : Proceeds floors d d₁)
    (ht₁ : d₁.transactions[id.index]? = some (t₀.opened.watched n)) (hn : n < d₁.backend.begun)
    (h : Level (floors id.index) t₀) (hnone : t₀.abandoned = []) :
    Proceeds floors d (steps d₁).2 ∧ ∃ t₂ rows,
      (steps d₁).2.transactions[id.index]? = some (t₂.watched n) ∧
        Grows t₀.next.seq t₀.opened rows t₂ := by
  -- While the steps run, the savepoint is the floor of its transaction.
  have hle : ∀ i, floors i ≤ Function.update floors id.index t₀.next.seq i := by
    intro i
    by_cases hi : i = id.index
    · subst hi
      simpa using Nat.le_of_lt h.floor_lt
    · simp [hi]
  have hleveled : Leveled (Function.update floors id.index t₀.next.seq) d₁ := by
    refine ⟨fun i hi => ?_, fun i t ht => ?_⟩
    · have hlt := (Array.getElem?_eq_some_iff.mp ht₁).1
      rw [Function.update_of_ne (by omega)]
      exact hd₁.leveled.floors_eq_zero i hi
    · by_cases hi : i = id.index
      · subst hi
        rw [ht₁] at ht
        cases ht
        rw [Function.update_self]
        exact .inr ⟨_, n, rfl, hn, (h.opened hnone).2⟩
      · rw [Function.update_of_ne hi]
        exact hd₁.leveled.standing i t ht
  have hsteps₁ := hsteps.proceeds hleveled
  refine ⟨hd₁.trans (hsteps₁.lower hle), ?_⟩
  obtain ⟨t, ht, hkeeps⟩ := hsteps₁.keeps id.index _ ht₁
  rw [Function.update_self] at hkeeps
  rcases hkeeps with ⟨hover, -⟩ | ⟨o, t₂, m, rows, ho, rfl, hgrows⟩
  · cases hover
  · obtain ⟨rfl, rfl⟩ := watched_inj ho
    exact ⟨t₂, rows, ht, hgrows⟩

/-- The order with which a unit ends brings its transaction back to the floor around it. -/
private theorem Proceeds.ended {t₀ t₂ : OpenTransaction} {n : Nat}
    (h : Proceeds floors d d₂) (ht₂ : d₂.transactions[id.index]? = some (t₂.watched n))
    (hkeeps : ∀ t, d.transactions[id.index]? = some t → ∃ o rows, t = o.watched n ∧
      Grows (floors id.index) o rows t₀)
    (hn : n < d₂.backend.begun)
    (w : Work (Transaction Numbered × Watched faults) DatabaseError α)
    (hw : ∃ t₃ b' rows, (w (t₂.watched n, d₂.backend)).2 = (t₃.watched n, b') ∧
      d₂.backend.Sees d.backend.begun b' ∧ b'.begun = d₂.backend.begun ∧
        Grows (floors id.index) t₀ rows t₃) :
    Proceeds floors d (within id w d₂).2 := by
  obtain ⟨t₃, b', rows, hstep, hsees, hbegun, hgrows⟩ := hw
  rw [within_snd_of_some ht₂ hstep]
  refine h.patch ht₂ hsees (.inr ⟨t₃, n, rfl, hbegun ▸ hn, hgrows.level⟩) fun t ht => ?_
  obtain ⟨o, rows', rfl, hbefore⟩ := hkeeps t ht
  exact .inr ⟨o, t₃, n, _, rfl, rfl, hbefore.trans hgrows⟩

/-- However the steps of a unit end, the unit brings its transaction back to the floor around it. -/
private theorem runNested_proceeds {steps : Work (Database (Watched faults) Numbered) ε α}
    {o t₂ : OpenTransaction} {n : Nat} {rows : List String}
    (ht : d.transactions[id.index]? = some (o.watched n)) (hlevel : Level (floors id.index) o)
    (hopen : within id Transaction.openSavepoint d = (.done o.settled.next, d₁))
    (hd₂ : Proceeds floors d (steps d₁).2)
    (ht₂ : (steps d₁).2.transactions[id.index]? = some (t₂.watched n))
    (hgrows : Grows o.settled.next.seq o.settled.opened rows t₂)
    (hn₂ : n < (steps d₁).2.backend.begun) :
    Proceeds floors d (runNested (Watched faults) id steps d).2 := by
  have hsettled := hlevel.settled
  have hnone := abandoned_settled o
  have hkeeps : ∀ t, d.transactions[id.index]? = some t → ∃ o' rows, t = o'.watched n ∧
      Grows (floors id.index) o' rows o.settled := by
    intro t ht'
    rw [ht] at ht'
    cases ht'
    exact ⟨o, _, rfl, hsettled⟩
  have hrollback := hd₂.ended ht₂ hkeeps hn₂ (Transaction.rollbackTo o.settled.next)
    (rollbackTo_watched hsettled.level hnone hgrows hn₂ d.backend.begun)
  cases hplayed : steps d₁ with
  | mk out d₂ =>
    rw [hplayed] at hd₂ ht₂ hrollback hn₂
    cases out with
    | done a =>
      have hrelease := hd₂.ended ht₂ hkeeps hn₂ (Transaction.release o.settled.next)
        (release_watched hsettled.level hnone hgrows hn₂ d.backend.begun)
      rw [runNested_of_done hopen hplayed rfl]
      exact hrelease
    | failed e =>
      rw [runNested_of_failed hopen hplayed rfl]
      exact hrollback
    | panicked p =>
      rw [runNested_of_panicked hopen hplayed rfl]
      exact hrollback
    | suspended =>
      -- Nothing is sent now. The savepoint stays open, and what abandons it is above the floor.
      rw [runNested_of_suspended hopen hplayed, change_of_some ht₂]
      have habandoned := hgrows.abandoned hsettled.level hnone
      refine hd₂.patch ht₂ (.refl _ _) (.inr ⟨_, n, rfl, hn₂, habandoned.level⟩) fun t ht' => ?_
      obtain ⟨o', rows', rfl, hbefore⟩ := hkeeps t ht'
      exact .inr ⟨o', _, n, _, rfl, rfl, hbefore.trans habandoned⟩

theorem sound_runNested (id : TransactionId) {steps : Work (Database (Watched faults) Numbered) ε α}
    (hsteps : Sound steps) : Sound (runNested (Watched faults) id steps) := by
  refine sound_of_proceeds fun floors d hd => ?_
  have hopened := (sound_within Transaction.tame_openSavepoint id).proceeds hd
  cases ht : d.transactions[id.index]? with
  | none =>
    have hopen : within id Transaction.openSavepoint d = (.failed .noActiveTransaction, d) := by
      simp only [within, ht]
    -- There is no such transaction, so nothing happens.
    rw [runNested_of_unopened hopen]
    exact hd.refl
  | some t =>
    rcases hd.standing id.index t ht with hover | ⟨o, n, rfl, hn, hlevel⟩
    · -- The transaction is over, so no savepoint can be opened in it.
      have hopen := within_of_some ht (Transaction.openSavepoint_of_over hover d.backend)
      rw [hopen] at hopened
      rw [runNested_of_unopened hopen]
      exact hopened
    · obtain ⟨t', b₁, hsees, hbegun, ⟨⟨e, hfailed⟩, -⟩ | ⟨hdone, rfl⟩⟩ :=
        openSavepoint_watched hlevel hn d.backend.begun
      · -- The savepoint was refused, and the steps never ran.
        have hopen := within_of_some ht hfailed
        rw [hopen] at hopened
        rw [runNested_of_unopened hopen]
        exact hopened
      · -- The steps run above the savepoint that was opened.
        have hopen := within_of_some ht hdone
        have hnext : o.next = o.settled.next := by simp [next]
        have hlt := (Array.getElem?_eq_some_iff.mp ht).1
        rw [hopen] at hopened
        obtain ⟨hd₂, t₂, rows, ht₂, hgrows⟩ := hsteps.above hopened
          (by simp [hlt]) (hbegun ▸ hn) hlevel.settled.level (abandoned_settled o)
        rw [hnext] at hopen
        exact runNested_proceeds ht hlevel hopen hd₂ ht₂ hgrows
          (Nat.lt_of_lt_of_le hn hd₂.sees.begun_le)

/-- A new transaction stands on no floor. -/
theorem Proceeds.push {n : Nat} (h : Proceeds floors d d₁) (hn : n < d₁.backend.begun) :
    Proceeds floors d
      { d₁ with transactions := d₁.transactions.push ((fresh "write").watched n) } where
  leveled := by
    refine ⟨fun i hi => h.leveled.floors_eq_zero i ?_, fun i t ht => ?_⟩
    · simp only [Array.size_push] at hi
      omega
    · rw [Array.getElem?_push] at ht
      split at ht
      · -- The new transaction stands at the floor zero, which is that of every index not yet used.
        rename_i hi
        cases ht
        rw [h.leveled.floors_eq_zero i (by omega)]
        exact .inr ⟨_, n, rfl, hn, (ordered_fresh "write").level (Nat.zero_le _) rfl⟩
      · exact h.leveled.standing i t ht
  sees := h.sees
  size_le := by
    have := h.size_le
    simp only [Array.size_push]
    omega
  keeps i t ht := by
    obtain ⟨t', ht', hkeeps⟩ := h.keeps i t ht
    have hlt := (Array.getElem?_eq_some_iff.mp ht').1
    refine ⟨t', ?_, hkeeps⟩
    rw [Array.getElem?_push, if_neg (by omega)]
    exact ht'

/-- Steps in a transaction of their own: either it cannot be begun, or it is still open once the
    steps are done. Until then nothing is committed in its session, which is the next one. -/
theorem Sound.inside {steps : TransactionId → Work (Database (Watched faults) Numbered) ε α}
    (hsteps : ∀ id, Sound (steps id)) (hd : Leveled floors d) :
    (∃ e d₁, begin d = (.failed e, d₁) ∧ Proceeds floors d d₁ ∧
        d.backend.Sees (d.backend.begun + 1) d₁.backend ∧ d.backend.begun < d₁.backend.begun) ∨
      ∃ id d₁ t₂, begin d = (.done id, d₁) ∧ d.transactions[id.index]? = none ∧
        Proceeds floors d (steps id d₁).2 ∧
        d.backend.Sees (d.backend.begun + 1) (steps id d₁).2.backend ∧
        (steps id d₁).2.transactions[id.index]? = some (t₂.watched d.backend.begun) ∧
        Level (floors id.index) t₂ ∧ d.backend.begun < (steps id d₁).2.backend.begun := by
  obtain ⟨b', hsees, hbegun, hbegin⟩ := begin_watched d.backend (d.backend.begun + 1)
  have hd₁ : Proceeds floors d { d with backend := b' } := {
    leveled := ⟨hd.floors_eq_zero, fun i t ht =>
      (hd.standing i t ht).mono hsees.begun_le (Nat.le_refl _)⟩
    sees := hsees.weaken (Nat.le_succ _)
    size_le := Nat.le_refl _
    keeps i t ht := ⟨t, ht, (hd.standing i t ht).keeps⟩ }
  have honBackend {o : Outcome DatabaseError Numbered}
      (h : Backend.begin PoolRole.write d.backend = (o, b')) :
      (onBackend (Backend.begin .write) : Work (Database (Watched faults) Numbered) _ _) d =
        (o, { d with backend := b' }) := by
    simp only [onBackend, h]
  have hn₁ : d.backend.begun < b'.begun := by omega
  rcases hbegin with ⟨e, hfailed⟩ | hdone
  · exact .inl ⟨e, _, Work.bind_of_failed (honBackend hfailed) _, hd₁, hsees, hn₁⟩
  · have hpushed := hd₁.push hn₁
    have hsteps₁ := (hsteps ⟨d.transactions.size⟩).proceeds hpushed.leveled
    -- The transaction of the unit is still open, since nothing but the unit can end it.
    obtain ⟨t, ht₂, hkeeps⟩ := hsteps₁.keeps d.transactions.size _ (Array.getElem?_push_size ..)
    rcases hkeeps with ⟨hover, -⟩ | ⟨o, t₂, m, rows, ho, rfl, hgrows⟩
    · cases hover
    · obtain ⟨rfl, rfl⟩ := watched_inj ho
      exact .inr ⟨⟨d.transactions.size⟩, _, t₂, Work.bind_of_done (honBackend hdone) _, by simp,
        hpushed.trans hsteps₁, hsees.trans (hsteps₁.sees.weaken (Nat.le_of_eq hbegun.symm)), ht₂,
        hgrows.level, Nat.lt_of_lt_of_le hn₁ hsteps₁.sees.begun_le⟩

/-- The end of a transaction that was begun meanwhile. -/
private theorem Proceeds.finished {t₂ : OpenTransaction} {n : Nat} (h : Proceeds floors d d₂)
    (hnew : d.transactions[id.index]? = none)
    (ht₂ : d₂.transactions[id.index]? = some (t₂.watched n))
    (hlevel : Level (floors id.index) t₂) (hn : n < d₂.backend.begun)
    (w : Work (Transaction Numbered × Watched faults) DatabaseError α)
    (hw : ∃ t' b', (w (t₂.watched n, d₂.backend)).2 = (t', b') ∧
      d₂.backend.Sees d.backend.begun b' ∧ b'.begun = d₂.backend.begun ∧
        (t' = t₂.watched n ∨ t'.session = none)) :
    Proceeds floors d (within id w d₂).2 := by
  obtain ⟨t', b', hstep, hsees, hbegun, ht'⟩ := hw
  rw [within_snd_of_some ht₂ hstep]
  refine h.patch ht₂ hsees ?_ fun t ht => by rw [hnew] at ht; cases ht
  rcases ht' with rfl | hover
  · exact .inr ⟨t₂, n, rfl, hbegun ▸ hn, hlevel⟩
  · exact .inl hover

theorem sound_runOutermost {steps : TransactionId → Work (Database (Watched faults) Numbered) ε α}
    (hsteps : ∀ id, Sound (steps id)) : Sound (runOutermost (Watched faults) steps) := by
  refine sound_of_proceeds fun floors d hd => ?_
  rcases Sound.inside hsteps hd with ⟨e, d₁, hopen, hd₁, -, -⟩ |
    ⟨id, d₁, t₂, hopen, hnew, hd₂, -, ht₂, hlevel, hn⟩
  · rw [runOutermost_of_unopened hopen]
    exact hd₁
  · have hrollback := hd₂.finished hnew ht₂ hlevel hn Transaction.rollback (rollback_ends hn t₂ _)
    cases hplayed : steps id d₁ with
    | mk out d₂ =>
      rw [hplayed] at hd₂ ht₂ hrollback hn
      cases out with
      | done a =>
        have hcommit := hd₂.finished hnew ht₂ hlevel hn Transaction.commit
          (commit_ends hn hlevel (Nat.le_refl _))
        rw [runOutermost_of_done hopen hplayed rfl]
        exact hcommit
      | failed e =>
        rw [runOutermost_of_failed hopen hplayed rfl]
        exact hrollback
      | panicked p =>
        rw [runOutermost_of_panicked hopen hplayed rfl]
        exact hrollback
      | suspended =>
        -- The transaction stays open for those who still hold its context.
        rw [runOutermost_of_suspended hopen hplayed]
        exact hd₂

theorem sound_run {steps : Context → Work (Database (Watched faults) Numbered) ε α}
    (hsteps : ∀ ctx, Sound (steps ctx)) (ctx : Context) :
    Sound (run (Watched faults) ctx steps) := by
  simp only [run]
  split
  · exact sound_runNested _ (hsteps ctx)
  · exact sound_runOutermost fun id => hsteps _

end Database

/-! ## Routines -/

open Database

theorem Deed.sound_perform (deed : Deed γ) :
    Sound (deed.perform : Work (Database (Watched faults) Numbered) _ _) := by
  cases deed with
  | statement client p => exact sound_statement client p
  | execute client p => exact sound_execute p client
  | checkOut client => exact sound_checkOut client
  | giveBack client => exact sound_of_proceeds fun _ _ hd => giveBack_proceeds client hd
  | look f => exact fun _ _ _ h => h
  | inject failures =>
    -- What fails from now on is no event.
    exact sound_onBackend fun b =>
      ⟨[], ⟨rfl, rfl, (List.append_nil _).symm, Nat.le_refl _⟩, by simp⟩

/-- A routine respects whatever floors there are. -/
theorem Routine.sound_play (r : Routine ε α) :
    Sound (r.play : Work (Database (Watched faults) Numbered) ε α) := by
  induction r with
  | done value => exact fun _ _ => Work.keeps_done value
  | fail error => exact fun _ _ => Work.keeps_fail error
  | panic payload => exact fun _ _ => Work.keeps_panic payload
  | pend => exact fun _ _ => Work.keeps_pend
  | act deed next ih =>
    exact fun floors d => .bind (deed.sound_perform floors d).outcome fun o => ih o floors d
  | unit ctx body next ihbody ihnext =>
    exact fun floors d => .bind (sound_run ihbody ctx floors d).outcome fun o => ihnext o floors d

/-! ## Savepoints -/

/-- The database in which nothing was begun. -/
def Watched.fresh (faults : Nat → Bool) (s : Store) : Database (Watched faults) Numbered where
  backend := { store := s }

theorem Watched.leveled_fresh (faults : Nat → Bool) (s : Store) :
    Leveled (fun _ => 0) (fresh faults s) :=
  ⟨fun _ _ => rfl, fun i t ht => by simp [fresh] at ht⟩

theorem Watched.bare_fresh (faults : Nat → Bool) (s : Store) :
    (fresh faults s).bare = { backend := s } := by
  simp [fresh, bare, Recorder.store]

/-- The events are all that happened since there was nothing but a store: all that was added to the
    journal, and all that made rows visible. -/
structure Database.Accounts (s : Store) (d : Database (Watched faults) Numbered) : Prop where
  journal : d.backend.store.journal = d.backend.events.map Event.entry ++ s.journal
  rows : d.backend.store.rows = s.rows ++ d.backend.events.reverse.flatMap Event.published

/-- What a fresh database gains accounts for everything. -/
theorem Watched.Gains.accounts {s : Store} {d : Database (Watched faults) Numbered}
    {new : List Event} (h : (fresh faults s).backend.Gains new d.backend) :
    d.backend.events = new ∧ Accounts s d := by
  have hevents : d.backend.events = new := h.events.trans (List.append_nil new)
  exact ⟨hevents, hevents ▸ h.journal, hevents ▸ h.rows⟩

/-- Since there was nothing but a store, no savepoint was lost that anyone needed. -/
structure Database.FindsSavepoints (s : Store) (d : Database (Watched faults) Numbered) : Prop
    extends Accounts s d where
  /-- Each statement that goes back to a savepoint or releases one found it on the stack of its
      session. -/
  namesOpen : ∀ e ∈ d.backend.events, e.NamesOpen
  found : ∀ e ∈ d.backend.events, ∀ name, e.error ≠ some (Session.missingSavepoint name)
  /-- As soon as nothing fails any more, every transaction can be settled. -/
  settles : ∀ t ∈ d.bare.transactions,
    (Transaction.settle (t, d.backend.store.heal)).1 = .done ()

/-- Where nothing fails, a transaction that stands on its floor can be settled. -/
private theorem Database.Standing.settle_eq {begun floor : Nat} {t : Transaction Numbered}
    (h : Standing begun floor t) {s : Store} (hnil : s.failures = []) :
    (Transaction.settle (t.map (Recorder.session (Watched faults)), s)).1 = .done () := by
  rcases h with hover | ⟨o, n, rfl, -, hlevel⟩
  · have hnone : (t.map (Recorder.session (Watched faults))).session = none := by
      simp [Transaction.map, hover]
    simp only [Transaction.settle, hnone]
    split <;> first | rfl | contradiction
  · have hmap : (o.watched n).map (Recorder.session (Watched faults)) = o.toTransaction := rfl
    rw [hmap, OpenTransaction.settle_eq, hlevel.obstacle?_eq_none hnil]

/-- Every savepoint that is named is open, whatever a routine does and whichever statements fail at
    whichever moment. Without faults, what is taken down of the routine is what happens when it
    plays on the store itself. -/
theorem Routine.play_findsSavepoints (r : Routine ε α) (s : Store) :
    (∀ faults, FindsSavepoints s (r.play (Watched.fresh faults s)).2) ∧
      r.play { backend := s } =
        ((r.play (Watched.fresh Watched.faultless s)).1,
          (r.play (Watched.fresh Watched.faultless s)).2.bare) := by
  refine ⟨fun faults => ?_, Watched.bare_fresh Watched.faultless s ▸ r.mirrors_play _⟩
  have hplay := r.sound_play.proceeds (Watched.leveled_fresh faults s)
  obtain ⟨new, hnew, hsound⟩ := hplay.sees
  obtain ⟨hevents, haccounts⟩ := hnew.accounts
  refine ⟨haccounts, ?_, ?_, fun t ht => ?_⟩
  · exact fun e he => (hsound e (hevents ▸ he)).1.namesOpen
  · exact fun e he => (hsound e (hevents ▸ he)).1.found
  · obtain ⟨t', ht', rfl⟩ := Array.mem_map.mp ht
    obtain ⟨i, hi⟩ := Array.mem_iff_getElem?.mp ht'
    exact (hplay.leveled.standing i t' hi).settle_eq rfl

/-- A closure that drops a nested unit half-way, so that what that wrote is undone before the next
    row is written. -/
def Routine.dropping (ctx : Context) : Routine Unit Unit :=
  let row (ctx : Context) (row : String) := Deed.statement (.ofContext .write ctx) (.insert row)
  let nested (ctx : Context) : Routine Unit Unit := .act (row ctx "a") fun _ => .pend
  .unit ctx nested fun _ => .act (row ctx "b") fun _ => .done ()

/-- Runs that closure as a unit of its own. -/
def Routine.writing : Routine Unit Unit := .unit .background dropping fun _ => .done ()

-- The first attempt to go back fails, and the second one finds the savepoint still open.
example : ((Routine.writing.play (Watched.fresh (· == 3) {})).2.backend.events.map fun e =>
      (e.request.text, e.error.isNone, e.session.marks.map Mark.name)).reverse =
    [("BEGIN", true, []), ("SAVEPOINT sp_0001", true, []), ("INSERT a", true, ["sp_0001"]),
      ("ROLLBACK TO SAVEPOINT sp_0001", false, ["sp_0001"]),
      ("ROLLBACK TO SAVEPOINT sp_0001", true, ["sp_0001"]), ("COMMIT", true, ["sp_0001"])] := by
  decide +kernel

end SharedPages
