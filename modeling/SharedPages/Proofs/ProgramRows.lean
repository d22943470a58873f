import SharedPages.Proofs.Actions

/-!
# What a program does to the rows

Whatever a program does in an open transaction, and whatever is made to fail
meanwhile: the transaction ends up with the rows that survive in the trace of
the program (`Trace.surviving`), counted as if everything abandoned were
settled, and the rows that were written outside are committed. A nested unit
changes nothing below its savepoint, so the same holds of it.

## Key results

- `Database.ofNested_of_opened`: how a nested unit ends
- `Trace.ofNested_grew`: what a nested unit does, if its closure does what its trace says
- `Program.play_grew`: what a program does
-/

namespace SharedPages

open OpenTransaction

variable {ε α γ : Type} {id : TransactionId} {ctx : Context} {t t₀ : OpenTransaction} {s s₀ : Store}
  {d d' d₁ d₂ : Database Store Session} {floor : Nat} {rows more out out' : List String}

/-! ## Units -/

namespace Database

/-- The transaction grew by `rows`, and the rows `out` were committed. -/
def Grew (id : TransactionId) (floor : Nat) (t : OpenTransaction) (s : Store)
    (rows out : List String) (d : Database Store Session) : Prop :=
  ∃ (t' : OpenTransaction) (s' : Store), d.view id = some (t'.toTransaction, s') ∧
    Grows floor t rows t' ∧ s'.rows = s.rows ++ out

theorem Grew.trans (h₁ : Grew id floor t s rows out d₁)
    (h₂ : ∀ (t' : OpenTransaction) (s' : Store), d₁.view id = some (t'.toTransaction, s') →
      Level floor t' → Grew id floor t' s' more out' d₂) :
    Grew id floor t s (rows ++ more) (out ++ out') d₂ := by
  obtain ⟨t₁, s₁, hview₁, hgrows₁, hrows₁⟩ := h₁
  obtain ⟨t₂, s₂, hview₂, hgrows₂, hrows₂⟩ := h₂ t₁ s₁ hview₁ hgrows₁.level
  refine ⟨t₂, s₂, hview₂, hgrows₁.trans hgrows₂, ?_⟩
  rw [hrows₂, hrows₁, List.append_assoc]

/-- The transaction grew by `rows`, and only the journal of the store changed. -/
def Leaves (id : TransactionId) (floor : Nat) (t : OpenTransaction) (s : Store) (busy : Bool)
    (rows : List String) (d : Database Store Session) : Prop :=
  ∃ (t' : OpenTransaction) (s' : Store), d.view id = some (t'.toTransaction, s') ∧
    Grows floor t rows t' ∧ t'.busy = busy ∧ s.Agrees s'

/-- A unit that cannot be opened leaves the transaction settled at most. -/
theorem openSavepoint_of_view (hview : d.view id = some (t.toTransaction, s))
    (hlevel : Level floor t) :
    (∃ e d', within id Transaction.openSavepoint d = (.failed e, d') ∧
      (t.busy = true ∨ s.failures ≠ []) ∧ Leaves id floor t s t.busy [] d') ∨
    ∃ d' s', within id Transaction.openSavepoint d = (.done t.settled.next, d') ∧ t.busy = false ∧
      d'.view id = some (t.settled.opened.toTransaction, s') ∧ s.Agrees s' := by
  obtain ⟨d', hopen, hview'⟩ := within_of_view hview Transaction.openSavepoint
  rw [openSavepoint_eq] at hopen hview'
  cases hgate : t.gate? s with
  | some e =>
    simp only [hgate] at hopen hview'
    exact .inl ⟨_, d', hopen, hlevel.busy_or_failing_of_gate? hgate, _, _, hview', hlevel.refl,
      rfl, by simp, by simp⟩
  | none =>
    cases hrefusal : t.numbered.refusal? (t.noteGate s) (.create t.next) with
    | some e =>
      simp only [hgate, hrefusal] at hopen hview'
      -- The transaction was settled and a number is used up, which adds no rows.
      have hsettled := hlevel.settled
      have hnumbered : Grows floor t.settled [] t.numbered :=
        hsettled.level.resting rfl rfl rfl (by simp [numbered])
      have hfailing : s.failures ≠ [] := by
        simp only [refusal?, obey] at hrefusal
        split at hrefusal
        · rename_i hfailing
          exact failures_noteGate t s ▸ Store.failures_ne_nil hfailing
        · cases hrefusal
      exact .inl ⟨_, d', hopen, .inr hfailing, _, _, hview', hsettled.trans hnumbered,
        by simp [numbered], by simp, by simp⟩
    | none =>
      have hnext : t.next = t.settled.next := by simp only [next, issued_settled]
      simp only [hgate, hrefusal, numbered_after_create] at hopen hview'
      rw [hnext] at hopen
      exact .inr ⟨d', _, hopen, busy_of_gate?_none hgate, hview', by simp, by simp⟩

section Close

variable {t₂ : OpenTransaction} {s₂ : Store} (hlevel : Level floor t₀) (hnone : t₀.abandoned = [])
  (hgrows : Grows t₀.next.seq t₀.opened rows t₂)
  (hview₂ : d₂.view id = some (t₂.toTransaction, s₂))
include hlevel hnone hgrows hview₂

/-- A unit that is released keeps its rows, and so does one that cannot be released. -/
theorem release_grew :
    ∃ o d', within id (Transaction.release t₀.next) d₂ = (o, d') ∧
      (t₂.busy = true ∨ s₂.failures ≠ [] ∨ o = .done ()) ∧
      Leaves id floor t₀ s₂ t₂.busy rows d' := by
  have hsettled : Grows t₀.next.seq t₀.opened rows t₂.settled :=
    List.append_nil rows ▸ hgrows.trans hgrows.level.settled
  obtain ⟨d', hrelease, hview'⟩ := within_of_view hview₂ (Transaction.release t₀.next)
  refine ⟨_, d', hrelease, ?_⟩
  -- The savepoint of the unit is on the stack, so only an injected failure can refuse the release.
  have hmarks := hsettled.marks_next
  rw [release_eq] at hview' ⊢
  cases hgate : t₂.gate? s₂ with
  | some e =>
    simp only [hgate] at hview' ⊢
    refine ⟨(hgrows.level.busy_or_failing_of_gate? hgate).imp_right .inl, ?_⟩
    exact ⟨_, _, hview', hgrows.outer hlevel hnone, rfl, by simp, by simp⟩
  | none =>
    cases hrefusal : t₂.settled.refusal? (t₂.noteGate s₂) (.release t₀.next) with
    | some e =>
      -- The savepoint stays on the stack, and the rows of the unit with it.
      simp only [hgate, hrefusal] at hview' ⊢
      rw [hsettled.level.ordered.refusal?_release hmarks] at hrefusal
      split at hrefusal
      · rename_i hfailing
        have hne := failures_noteGate t₂ s₂ ▸ Store.failures_ne_nil hfailing
        exact ⟨.inr (.inl hne), _, _, hview', hsettled.outer hlevel hnone, by simp, by simp,
          by simp⟩
      · cases hrefusal
    | none =>
      simp only [hgate, hrefusal] at hview' ⊢
      have hreleased := hsettled.released hlevel hnone (abandoned_settled t₂)
      exact ⟨.inr (.inr trivial), _, _, hview', hreleased, by simp, by simp, by simp⟩

/-- A unit that is rolled back loses its rows, and one that cannot be rolled back keeps them. -/
theorem rollbackTo_grew :
    ∃ o d', within id (Transaction.rollbackTo t₀.next) d₂ = (o, d') ∧
      (t₂.busy = true ∨ s₂.failures ≠ [] ∨ o = .done ()) ∧
      Leaves id floor t₀ s₂ t₂.busy (if o = .done () then [] else rows) d' := by
  have hsettled : Grows t₀.next.seq t₀.opened rows t₂.settled :=
    List.append_nil rows ▸ hgrows.trans hgrows.level.settled
  obtain ⟨d', hrollback, hview'⟩ := within_of_view hview₂ (Transaction.rollbackTo t₀.next)
  refine ⟨_, d', hrollback, ?_⟩
  -- The savepoint of the unit is on the stack, so only an injected failure can refuse the rollback.
  have hmarks := hsettled.marks_next
  rw [rollbackTo_eq] at hview' ⊢
  cases hgate : t₂.gate? s₂ with
  | some e =>
    simp only [hgate] at hview' ⊢
    refine ⟨(hgrows.level.busy_or_failing_of_gate? hgate).imp_right .inl, ?_⟩
    exact ⟨_, _, hview', hgrows.outer hlevel hnone, rfl, by simp, by simp⟩
  | none =>
    cases hrefusal : t₂.settled.refusal? (t₂.noteGate s₂) (.rollbackTo t₀.next) with
    | some e =>
      simp only [hgate, hrefusal] at hview' ⊢
      rw [hsettled.level.ordered.refusal?_rollbackTo hmarks] at hrefusal
      split at hrefusal
      · rename_i hfailing
        have hne := failures_noteGate t₂ s₂ ▸ Store.failures_ne_nil hfailing
        exact ⟨.inr (.inl hne), _, _, hview', hsettled.outer hlevel hnone, by simp, by simp,
          by simp⟩
      · cases hrefusal
    | none =>
      simp only [hgate, hrefusal] at hview' ⊢
      have hrolledBack := hsettled.rolledBack hlevel hnone (abandoned_settled t₂)
      exact ⟨.inr (.inr trivial), _, _, hview', hrolledBack, by simp, by simp, by simp⟩

/-- A unit that is abandoned loses its rows. -/
theorem abandon_grew : Leaves id floor t₀ s₂ t₂.busy [] (change id (.abandon t₀.next) d₂) :=
  ⟨_, _, view_change hview₂ _, hgrows.abandoned hlevel hnone, rfl, rfl, rfl⟩

variable (play : Context → Work (Database Store Session) ε α)
  (trace : Context → Database Store Session → Trace)

/-- How a unit ends that was opened: what it wrote is lost if it is undone, and kept otherwise. It
    is undone whenever its closure does not end well, unless a connection is checked out or
    statements fail. -/
theorem ofNested_of_opened {o : Outcome ε α}
    (hopen : within id Transaction.openSavepoint d = (.done t₀.next, d₁))
    (hplay : play ctx d₁ = (o, d₂)) :
    ∃ undone, (∀ rest, Trace.ofNested play trace id ctx d rest =
        .unit (.of o) undone (d.isHeld id || t₂.busy) (trace ctx d₁) rest) ∧
      (t₂.busy = true ∨ s₂.failures ≠ [] ∨ undone = decide (Ending.of o ≠ .ok)) ∧
      Leaves id floor t₀ s₂ t₂.busy (if undone then [] else rows)
        (runNested Store id (play ctx) d).2 := by
  have hheld := isHeld_of_view hview₂
  cases o with
  | done a =>
    -- A release that fails keeps the rows too, since the savepoint is merely left open.
    obtain ⟨o, d₃, hrelease, -, hleaves⟩ := release_grew hlevel hnone hgrows hview₂
    rw [runNested_of_done hopen hplay hrelease]
    refine ⟨false, ?_, .inr (.inr rfl), by simpa using hleaves⟩
    simp only [Trace.ofNested, hopen, hplay, hheld, implies_true]
  | failed e =>
    -- The rows are undone just if the rollback succeeds.
    obtain ⟨o, d₃, hrollback, hundone, hleaves⟩ := rollbackTo_grew hlevel hnone hgrows hview₂
    rw [runNested_of_failed hopen hplay hrollback]
    refine ⟨decide (o = .done ()), ?_, ?_, by simpa using hleaves⟩
    · simp only [Trace.ofNested, hopen, hplay, hheld, hrollback, implies_true]
    · exact hundone.imp_right (.imp_right fun h => by simp [h, Ending.of])
  | panicked p =>
    obtain ⟨o, d₃, hrollback, hundone, hleaves⟩ := rollbackTo_grew hlevel hnone hgrows hview₂
    rw [runNested_of_panicked hopen hplay hrollback]
    refine ⟨decide (o = .done ()), ?_, ?_, by simpa using hleaves⟩
    · simp only [Trace.ofNested, hopen, hplay, hheld, hrollback, implies_true]
    · exact hundone.imp_right (.imp_right fun h => by simp [h, Ending.of])
  | suspended =>
    -- The savepoint is noted as abandoned, and its rows will go before the next statement.
    rw [runNested_of_suspended hopen hplay]
    refine ⟨true, ?_, .inr (.inr rfl), abandon_grew hlevel hnone hgrows hview₂⟩
    simp only [Trace.ofNested, hopen, hplay, hheld, implies_true]

end Close

theorem Leaves.grew {busy : Bool} (h : Leaves id floor t s busy rows d)
    (hrows : s.rows = s₀.rows ++ out) : Grew id floor t s₀ rows out d := by
  obtain ⟨t', s', hview', hgrows, -, hagrees⟩ := h
  exact ⟨t', s', hview', hgrows, hagrees.rows.trans hrows⟩

theorem run_nested (hctx : ctx.transaction? = some id)
    (steps : Context → Work (Database Store Session) ε α) :
    run Store ctx steps = runNested Store id (steps ctx) := by
  simp only [run, hctx]

end Database

open Database

/-- What a nested unit does, as long as its closure does what is seen of it. -/
theorem Trace.ofNested_grew (play : Context → Work (Database Store Session) ε α)
    (trace : Context → Database Store Session → Trace)
    (hview : d.view id = some (t.toTransaction, s)) (hlevel : Level floor t)
    (hplay : ∀ (d : Database Store Session) (t : OpenTransaction) (s : Store) (floor : Nat),
      d.view id = some (t.toTransaction, s) → Level floor t →
      Grew id floor t s (trace ctx d).surviving (trace ctx d).outside (play ctx d).2) :
    ∃ ending undone held inner,
      (∀ rest, ofNested play trace id ctx d rest = unit ending undone held inner rest) ∧
      Grew id floor t s (if undone then [] else inner.surviving) inner.outside
        (runNested Store id (play ctx) d).2 := by
  rcases openSavepoint_of_view hview hlevel with
    ⟨e, d', hopen, -, hleaves⟩ | ⟨d₁, s₁, hopen, -, hview₁, hagrees⟩
  · -- Without a savepoint the closure is not run, and no rows are added.
    refine ⟨.unopened, true, d.isHeld id, .nil, fun rest => by simp only [ofNested, hopen], ?_⟩
    rw [runNested_of_unopened hopen]
    exact hleaves.grew (List.append_nil _).symm
  · -- The closure starts from the settled transaction, above the savepoint that was opened.
    have hsettled := hlevel.settled
    have hlevel₁ := (hsettled.level.opened (abandoned_settled t)).2
    obtain ⟨t₂, s₂, hview₂, hgrows, hrows⟩ := hplay d₁ _ s₁ _ hview₁ hlevel₁
    have hplayed : play ctx d₁ = ((play ctx d₁).1, (play ctx d₁).2) := rfl
    obtain ⟨undone, htrace, -, hleaves⟩ := ofNested_of_opened hsettled.level (abandoned_settled t)
      hgrows hview₂ play trace hopen hplayed
    refine ⟨_, undone, _, _, htrace, ?_⟩
    rw [hagrees.rows] at hrows
    obtain ⟨t₃, s₃, hview₃, hgrows₃, hrows₃⟩ := hleaves.grew hrows
    exact ⟨t₃, s₃, hview₃, hsettled.trans hgrows₃, hrows₃⟩

/-- Whatever a program does in an open transaction: the transaction grows by the rows that survive,
    and the rows that were written outside are committed. -/
theorem Program.play_grew (hctx : ctx.transaction? = some id) (p : Program ε α)
    (hview : d.view id = some (t.toTransaction, s)) (hlevel : Level floor t) :
    Grew id floor t s (p.trace ctx d).surviving (p.trace ctx d).outside (p.play ctx d).2 := by
  -- Induction on the program. `Level` is what each step leaves for the next.
  induction p generalizing d t s floor with
  | done | fail | panic | pend => exact ⟨t, s, hview, hlevel.refl, (List.append_nil _).symm⟩
  | act action next ih =>
    obtain ⟨t', s', hview', hdoes⟩ := action.perform_does hctx hview
    obtain ⟨hgrows, hrows⟩ := hdoes.grew hlevel
    have hfirst : Grew id floor t s (action.seen ctx d).lasting (action.seen ctx d).outside
        (action.perform ctx d).2 := ⟨t', s', hview', hgrows, hrows⟩
    exact hfirst.trans fun t' s' hview' hlevel' => ih _ hview' hlevel'
  | unit body next ihbody ihnext =>
    -- The body plays above the savepoint of the unit, so its hypothesis is used with another floor.
    obtain ⟨ending, undone, held, inner, htrace, hgrew⟩ := Trace.ofNested_grew
      (fun ctx => body.play ctx) (fun ctx => body.trace ctx) hview hlevel
        fun d t s floor hview hlevel => ihbody hview hlevel
    have hrun := run_nested hctx fun ctx => body.play ctx
    simp only [trace, Trace.ofUnit, hctx, htrace, play, Work.bind_outcome, hrun]
    exact hgrew.trans fun t' s' hview' hlevel' => ihnext _ hview' hlevel'

end SharedPages
