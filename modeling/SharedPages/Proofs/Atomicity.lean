import SharedPages.Proofs.Outermost

/-!
# Units of work are atomic

As long as no statement is made to fail and no connection is checked out where
a unit begins or ends (`Trace.isCalm`), savepoints cannot be told from real
nested transactions. What a run commits are the rows all of whose enclosing
units ended well, in the order in which they were written, and every read gives
what is committed at that moment and then the rows that its own unit and the
units around it wrote so far, without those of nested units that did not end
well (`Trace.ReadsAgree`).

## Key results

- `Program.play_atomic`: the invariant, for a program in an open transaction
- `Program.run_atomic`: atomicity of a run
-/

namespace SharedPages

open OpenTransaction Database

variable {ε α : Type} {id : TransactionId} {ctx : Context} {t t' : OpenTransaction} {s s' : Store}
  {d d' : Database Store Session} {floor : Nat} {n : Note}

/-! ## Runs without faults -/

/-- Nothing is made to fail. -/
def Note.isCalm : Note → Bool
  | injected failures => failures.isEmpty
  | _ => true

/-- Nothing is made to fail, and no connection of the transaction is checked out where a unit begins
    or ends. -/
def Trace.isCalm : Trace → Bool
  | nil => true
  | note n rest => n.isCalm && rest.isCalm
  | unit _ _ held inner rest => !held && inner.isCalm && rest.isCalm

/-- A read gave what is committed, and in the transaction also what was written there. -/
def Note.ReadsAgree (committed own : List String) : Note → Prop
  | read rows => rows = committed ++ own
  | readOutside rows => rows = committed
  | _ => True

/-- Every read gave what was committed at that moment, and in the transaction also the rows written
    so far that no nested unit lost. -/
def Trace.ReadsAgree (committed own : List String) : Trace → Prop
  | nil => True
  | note n rest =>
    n.ReadsAgree committed own ∧ rest.ReadsAgree (committed ++ n.outside) (own ++ n.written)
  | unit ending _ _ inner rest =>
    inner.ReadsAgree committed own ∧
      rest.ReadsAgree (committed ++ inner.outside)
        (own ++ if ending = .ok then inner.granted else [])

/-- An action is refused only if a connection of the transaction is checked out, or if it works on
    one that is not. -/
def Note.Served : Note → Prop
  | refused place held => place = .unit ∧ held = true ∨ place = .held ∧ held = false
  | _ => True

/-- All actions are served, and all units are opened. -/
def Trace.Served : Trace → Prop
  | nil => True
  | note n rest => n.Served ∧ rest.Served
  | unit ending _ _ inner rest => ending ≠ .unopened ∧ inner.Served ∧ rest.Served

/-! ## The invariant -/

/-- Nothing fails, and nothing is abandoned while a connection is checked out. -/
def Quiet (t : OpenTransaction) (s : Store) : Prop :=
  s.failures = [] ∧ (t.busy = true → t.abandoned = [])

/-- What a trace says of a program that plays in an open transaction is what a real nested
    transaction would do. -/
structure Atomic (id : TransactionId) (floor : Nat) (t : OpenTransaction) (s : Store)
    (trace : Trace) (d : Database Store Session) : Prop where
  reads : trace.ReadsAgree s.rows t.settled.rows
  served : trace.Served
  granted_eq : trace.granted = trace.surviving
  quiet : ∃ (t' : OpenTransaction) (s' : Store), d.view id = some (t'.toTransaction, s') ∧
    Grows floor t trace.surviving t' ∧ s'.rows = s.rows ++ trace.outside ∧ Quiet t' s'

/-- An action does what its note says. -/
theorem Action.Does.quiet (h : Action.Does t s n t' s') (hlevel : Level floor t)
    (hquiet : Quiet t s) (hcalm : n.isCalm = true) :
    n.ReadsAgree s.rows t.settled.rows ∧ n.Served ∧ n.written = n.lasting ∧ Quiet t' s' := by
  obtain ⟨hnil, hbusy⟩ := hquiet
  cases h with
  | refused gate =>
    -- Nothing is failing, so the gate can only refuse because a session is held.
    have hheld := (hlevel.busy_or_failing_of_gate? gate).resolve_right (absurd hnil)
    exact ⟨trivial, .inl ⟨rfl, hheld⟩, rfl, by simpa using hnil, hbusy⟩
  | insert row gate => exact ⟨trivial, trivial, rfl, by simpa using hnil, fun _ => by simp⟩
  | insertFails row gate failing => exact absurd hnil failing
  | read gate => exact ⟨rfl, trivial, rfl, by simpa using hnil, fun _ => by simp⟩
  | checkOut gate => exact ⟨trivial, trivial, rfl, by simpa using hnil, fun _ => by simp⟩
  | giveBack => exact ⟨trivial, trivial, rfl, hnil, fun hheld => by cases hheld⟩
  | missing busy => exact ⟨trivial, .inr ⟨rfl, busy⟩, rfl, hnil, hbusy⟩
  | insertHeld row busy =>
    -- While a session is held nothing is abandoned, so the row joins the settled ones.
    refine ⟨trivial, trivial, by simp [hbusy busy, Note.written, Note.lasting], hnil, fun _ => ?_⟩
    rw [abandoned_after, hbusy busy]
  | insertHeldFails row busy failing => exact absurd hnil failing
  | readHeld busy =>
    -- There is nothing to settle, so the rows seen are the settled ones.
    have hsettled := settled_of_abandoned_nil (hbusy busy)
    exact ⟨by rw [Note.ReadsAgree, hsettled], trivial, rfl, hnil, hbusy⟩
  | insertOutside row => exact ⟨trivial, trivial, rfl, hnil, hbusy⟩
  | insertOutsideFails row failing => exact absurd hnil failing
  | readOutside => exact ⟨rfl, trivial, rfl, hnil, hbusy⟩
  | inject failures => exact ⟨trivial, trivial, rfl, by simpa [Note.isCalm] using hcalm, hbusy⟩

/-- A nested unit is opened and loses its rows exactly if its closure does not end well. -/
theorem Trace.ofNested_atomic {play : Context → Work (Database Store Session) ε α}
    {trace : Context → Database Store Session → Trace} {rest : Trace}
    (hview : d.view id = some (t.toTransaction, s)) (hlevel : Level floor t) (hquiet : Quiet t s)
    (hcalm : (ofNested play trace id ctx d rest).isCalm = true)
    (hplay : ∀ (d : Database Store Session) (t : OpenTransaction) (s : Store) (floor : Nat),
      d.view id = some (t.toTransaction, s) → Level floor t → Quiet t s →
      (trace ctx d).isCalm = true → Atomic id floor t s (trace ctx d) (play ctx d).2) :
    ∃ ending undone inner,
      (∀ rest, ofNested play trace id ctx d rest = unit ending undone false inner rest) ∧
      ending ≠ .unopened ∧ inner.ReadsAgree s.rows t.settled.rows ∧ inner.Served ∧
      (if ending = .ok then inner.granted else []) = (if undone then [] else inner.surviving) ∧
      ∃ (t' : OpenTransaction) (s' : Store),
        (runNested Store id (play ctx) d).2.view id = some (t'.toTransaction, s') ∧
        Grows floor t (if undone then [] else inner.surviving) t' ∧
        s'.rows = s.rows ++ inner.outside ∧ Quiet t' s' := by
  obtain ⟨hnil, -⟩ := hquiet
  rcases openSavepoint_of_view hview hlevel with
    ⟨e, d', hopen, hfault, -⟩ | ⟨d₁, s₁, hopen, hbusy, hview₁, hagrees⟩
  · -- Only a connection that is held or a failure can refuse the savepoint, and the run is calm.
    have hheld := isHeld_of_view hview
    simp only [ofNested, hopen, isCalm, hheld, hfault.resolve_right (absurd hnil)] at hcalm
    cases hcalm
  · -- The closure starts from the settled transaction, above the savepoint that was opened.
    have hsettled := hlevel.settled
    have hnone := abandoned_settled t
    obtain ⟨hopened, hlevel₁⟩ := hsettled.level.opened hnone
    have hquiet₁ : Quiet t.settled.opened s₁ := ⟨hagrees.failures.trans hnil, fun _ => hnone⟩
    have hplayed : play ctx d₁ = ((play ctx d₁).1, (play ctx d₁).2) := rfl
    have hcalm₁ : (trace ctx d₁).isCalm = true := by
      simp only [ofNested, hopen, isCalm, Bool.and_eq_true] at hcalm
      exact hcalm.1.2
    obtain ⟨hreads, hserved, hgranted, t₂, s₂, hview₂, hgrows, hrows, hnil₂, -⟩ :=
      hplay d₁ _ s₁ _ hview₁ hlevel₁ hquiet₁ hcalm₁
    obtain ⟨undone, htrace, hundone, t₃, s₃, hview₃, hgrows₃, hbusy₃, hagrees₃⟩ :=
      ofNested_of_opened hsettled.level hnone hgrows hview₂ play trace hopen hplayed
    have hbusy₂ : t₂.busy = false := by
      simp only [htrace, isCalm, Bool.and_eq_true, Bool.not_eq_true', Bool.or_eq_false_iff] at hcalm
      exact hcalm.1.1.2
    have hheld : d.isHeld id = false := by rw [isHeld_of_view hview, hbusy]
    -- Nothing is held or fails at the end either, so the closure alone decides what is undone.
    have hending : undone = decide (Ending.of (play ctx d₁).1 ≠ .ok) :=
      (hundone.resolve_left (by simp [hbusy₂])).resolve_left (absurd hnil₂)
    rw [hopened.rows_eq, settled_of_abandoned_nil hnone, List.append_nil, hagrees.rows] at hreads
    simp only [hheld, hbusy₂, Bool.or_self] at htrace
    refine ⟨_, undone, _, htrace, Ending.of_ne_unopened _, hreads, hserved, ?_, t₃, s₃, hview₃,
      hsettled.trans hgrows₃, ?_, hagrees₃.failures.trans hnil₂, ?_⟩
    · rw [hending, hgranted]
      by_cases hok : Ending.of (play ctx d₁).1 = .ok <;> simp [hok]
    · rw [hagrees₃.rows, hrows, hagrees.rows]
    · rw [hbusy₃, hbusy₂]
      intro hheld
      cases hheld

/-- A program in an open transaction does what its trace says, as long as the run is calm. -/
theorem Program.play_atomic (hctx : ctx.transaction? = some id) (p : Program ε α)
    (hview : d.view id = some (t.toTransaction, s)) (hlevel : Level floor t) (hquiet : Quiet t s)
    (hcalm : (p.trace ctx d).isCalm = true) :
    Atomic id floor t s (p.trace ctx d) (p.play ctx d).2 := by
  -- Induction on the program. `Level` and `Quiet` are what each step leaves for the next.
  induction p generalizing d t s floor with
  | done | fail | panic | pend =>
    exact ⟨trivial, trivial, rfl, t, s, hview, hlevel.refl, (List.append_nil _).symm, hquiet⟩
  | act action next ih =>
    obtain ⟨t', s', hview', hdoes⟩ := action.perform_does hctx hview
    obtain ⟨hgrows, hrows⟩ := hdoes.grew hlevel
    simp only [trace, Trace.isCalm, Bool.and_eq_true] at hcalm
    obtain ⟨hreads, hserved, hwritten, hquiet'⟩ := hdoes.quiet hlevel hquiet hcalm.1
    obtain ⟨hreads₂, hserved₂, hgranted₂, t₂, s₂, hview₂, hgrows₂, hrows₂, hquiet₂⟩ :=
      ih _ hview' hgrows.level hquiet' hcalm.2
    -- What comes next reads the rows of this action as committed or as its own.
    rw [hgrows.rows_eq, hrows, ← hwritten] at hreads₂
    refine ⟨⟨hreads, hreads₂⟩, ⟨hserved, hserved₂⟩, ?_, t₂, s₂, hview₂, hgrows.trans hgrows₂, ?_,
      hquiet₂⟩
    · simp only [trace, Trace.granted, Trace.surviving, hwritten, hgranted₂]
    · rw [hrows₂, hrows, List.append_assoc]
      rfl
  | unit body next ihbody ihnext =>
    have hrun := run_nested hctx fun ctx => body.play ctx
    simp only [trace, Trace.ofUnit, hctx] at hcalm
    obtain ⟨ending, undone, inner, htrace, hopened, hreads, hserved, hgranted, t', s', hview',
      hgrows, hrows, hquiet'⟩ := Trace.ofNested_atomic hview hlevel hquiet hcalm
        fun d t s floor hview hlevel hquiet hcalm => ihbody hview hlevel hquiet hcalm
    simp only [htrace, Trace.isCalm, Bool.and_eq_true] at hcalm
    obtain ⟨hreads₂, hserved₂, hgranted₂, t₂, s₂, hview₂, hgrows₂, hrows₂, hquiet₂⟩ :=
      ihnext _ hview' hgrows.level hquiet' (hrun ▸ hcalm.2)
    -- What comes next reads the rows of the unit exactly if the unit ended well.
    rw [hgrows.rows_eq, hrows, ← hgranted] at hreads₂
    simp only [trace, Trace.ofUnit, hctx, htrace, play, Work.bind_outcome, hrun]
    refine ⟨⟨hreads, hreads₂⟩, ⟨hopened, hserved, hserved₂⟩, ?_, t₂, s₂, hview₂,
      hgrows.trans hgrows₂, ?_, hquiet₂⟩
    · simp only [Trace.granted, Trace.surviving, hgranted, hgranted₂]
    · rw [hrows₂, hrows, List.append_assoc]
      rfl

/-! ## Runs -/

/-- Nested units of work are atomic. In a run without faults, where every connection is given back
    before the next unit begins or ends: committed are the rows that were written outside, at once,
    and then, if and only if the outermost unit ended well, the rows all of whose enclosing units
    ended well. Every read gives what is committed at that moment and what was written so far in
    its own unit and in those around it, and nothing is refused but for a connection that is checked
    out. -/
theorem Program.run_atomic (hctx : ctx.transaction? = none) (p : Program ε α)
    (hnil : d.backend.failures = []) (hcalm : (p.runTrace ctx d).isCalm = true) :
    ∃ ending undone inner,
      p.runTrace ctx d = .unit ending undone false inner .nil ∧
      (ending = .ok ↔ ∃ a, (p.run ctx d).1 = .done a) ∧
      (p.run ctx d).2.backend.rows =
        d.backend.rows ++ inner.outside ++ (if ending = .ok then inner.granted else []) ∧
      inner.ReadsAgree d.backend.rows [] ∧ (p.runTrace ctx d).Served := by
  rw [p.run_outermost hctx]
  rw [p.runTrace_outermost hctx] at hcalm ⊢
  rcases begin_cases d with ⟨e, d', hopen, hfailing, -⟩ | ⟨id, d₁, s₁, hopen, hview₁, hagrees⟩
  · exact absurd hnil hfailing
  · have hlevel₁ := level_fresh "write"
    have hctx₁ := ctx.transaction?_withTransaction id
    have hcalm₁ : (p.trace (ctx.withTransaction id) d₁).isCalm = true := by
      simp only [Trace.ofOutermost, hopen, Trace.isCalm, Bool.and_eq_true] at hcalm
      exact hcalm.1.2
    have hquiet₁ : Quiet (fresh "write") s₁ := ⟨hagrees.failures.trans hnil, fun _ => rfl⟩
    obtain ⟨hreads, hserved, hgranted, t₂, s₂, hview₂, hgrows, hrows, hnil₂, -⟩ :=
      p.play_atomic hctx₁ hview₁ hlevel₁ hquiet₁ hcalm₁
    have hplayed : p.play (ctx.withTransaction id) d₁ =
      ((p.play (ctx.withTransaction id) d₁).1, (p.play (ctx.withTransaction id) d₁).2) := rfl
    obtain ⟨undone, htrace, hundone, hdone, hcommitted⟩ := ofOutermost_of_opened hgrows.level hview₂
      (fun ctx => p.play ctx) (fun ctx => p.trace ctx) hopen hplayed
    have hbusy₂ : t₂.busy = false := by
      simp only [htrace, Trace.isCalm, Bool.and_eq_true, Bool.not_eq_true'] at hcalm
      exact hcalm.1.1
    have hending := (hundone.resolve_left (by simp [hbusy₂])).resolve_left (absurd hnil₂)
    -- The transaction began without rows, so reads give what is committed and what the run wrote.
    have hsettled : (fresh "write").settled.rows = [] := rfl
    rw [hagrees.rows, hsettled] at hreads
    rw [htrace, hbusy₂]
    refine ⟨_, undone, _, rfl, ?_, ?_, hreads, Ending.of_ne_unopened _, hserved, trivial⟩
    · rw [← hdone, hending, decide_eq_false_iff_not, Decidable.not_not]
    · rw [hcommitted, hrows, hagrees.rows, hending, hgranted, hgrows.rows_eq, hsettled,
        List.nil_append]
      by_cases hok : Ending.of (p.play (ctx.withTransaction id) d₁).1 = .ok <;> simp [hok]

/-- A closure that swallows the failure of one nested unit, and keeps another one in which a third
    was dropped half-way. -/
def Program.swallowing : Program Unit Unit :=
  let failing : Program Unit Unit := .act (.insert .unit "b") fun _ => .fail ()
  let pending : Program Unit Unit := .act (.insert .unit "d") fun _ => .pend
  let keeping : Program Unit Unit :=
    .act (.insert .unit "c") fun _ => .unit pending fun _ => .act (.read .unit) fun _ => .done ()
  .act (.insert .unit "a") fun _ => .unit failing fun _ => .act (.insert .outside "x") fun _ =>
    .unit keeping fun _ => .done ()

theorem Program.run_atomic_swallowing :
    (swallowing.run .background { backend := {} }).2.backend.rows = ["x", "a", "c"] ∧
    ∃ ending undone inner,
      swallowing.runTrace .background { backend := {} } = .unit ending undone false inner .nil ∧
      (ending = .ok ↔ ∃ a, (swallowing.run .background { backend := {} }).1 = .done a) ∧
      (swallowing.run .background { backend := {} }).2.backend.rows =
        [] ++ inner.outside ++ (if ending = .ok then inner.granted else []) ∧
      inner.ReadsAgree [] [] ∧ (swallowing.runTrace .background { backend := {} }).Served :=
  ⟨by decide +kernel, run_atomic rfl swallowing rfl (by decide +kernel)⟩

end SharedPages
